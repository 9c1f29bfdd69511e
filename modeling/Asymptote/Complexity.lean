import Asymptote.Text.Basic

/-! # Complexity classes
Seventeen asymptotic classes in one total order. Every comparison between verdicts goes through
`rank`. Main statements: `rank_injective`, `canonical_injective`. -/
namespace Asymptote

inductive Complexity where
  | constant
  /-- Bounded by the size `k` of a fixed key domain. -/
  | bounded
  | logLog
  | log
  | sqrt
  | linear
  | graph
  | linearLogLog
  | linearLog
  | quadratic
  | quadraticLog
  | cubic
  | exponential
  | linearExponential
  | baseExponential
  | factorial
  | linearFactorial
  deriving DecidableEq, Repr, Inhabited

namespace Complexity

def all : List Complexity :=
  [constant, bounded, logLog, log, sqrt, linear, graph, linearLogLog, linearLog, quadratic,
    quadraticLog, cubic, exponential, linearExponential, baseExponential, factorial,
    linearFactorial]

def rank : Complexity → Nat
  | constant => 0
  | bounded => 1
  | logLog => 2
  | log => 3
  | sqrt => 4
  | linear => 5
  | graph => 6
  | linearLogLog => 7
  | linearLog => 8
  | quadratic => 9
  | quadraticLog => 10
  | cubic => 11
  | exponential => 12
  | linearExponential => 13
  | baseExponential => 14
  | factorial => 15
  | linearFactorial => 16

def canonical : Complexity → String
  | constant => "O(1)"
  | bounded => "O(k)"
  | logLog => "O(log log n)"
  | log => "O(log n)"
  | sqrt => "O(√n)"
  | linear => "O(n)"
  | graph => "O(V+E)"
  | linearLogLog => "O(n log log n)"
  | linearLog => "O(n log n)"
  | quadratic => "O(n²)"
  | quadraticLog => "O(n² log n)"
  | cubic => "O(n³)"
  | exponential => "O(2^n)"
  | linearExponential => "O(n·2^n)"
  | baseExponential => "O(k^n)"
  | factorial => "O(n!)"
  | linearFactorial => "O(n·n!)"

instance : LE Complexity := ⟨fun a b => a.rank ≤ b.rank⟩
instance : LT Complexity := ⟨fun a b => a.rank < b.rank⟩
instance (a b : Complexity) : Decidable (a ≤ b) := inferInstanceAs (Decidable (a.rank ≤ b.rank))
instance (a b : Complexity) : Decidable (a < b) := inferInstanceAs (Decidable (a.rank < b.rank))
instance : Max Complexity := ⟨fun a b => if a ≤ b then b else a⟩
instance : Min Complexity := ⟨fun a b => if a ≤ b then a else b⟩

def isExponential (c : Complexity) : Bool :=
  exponential ≤ c

def polynomial : Nat → Complexity
  | 0 => constant
  | 1 => linear
  | 2 => quadratic
  | _ => cubic

def distance (a b : Complexity) : Nat :=
  (a.rank - b.rank) + (b.rank - a.rank)

theorem rank_injective {a b : Complexity} (h : a.rank = b.rank) : a = b := by
  cases a <;> cases b <;> first | rfl | cases h

theorem canonical_injective {a b : Complexity} (h : a.canonical = b.canonical) : a = b := by
  revert h
  cases a <;> cases b <;> decide

theorem distance_eq_zero_iff {a b : Complexity} : distance a b = 0 ↔ a = b := by
  constructor
  · intro h
    apply rank_injective
    simp only [distance] at h
    omega
  · rintro rfl
    simp [distance]

end Complexity

/-! ## Reading claimed complexities
A claim is free text. Layout, letter case and the wrapper are dropped, operators are unified, and
what remains is looked up among known spellings or judged by its shape. The reader is `read?`; what
it cannot place is an `UnknownNotation`. Main statement: `read?_canonical`. -/

structure UnknownNotation where
  text : Text

def UnknownNotation.message (e : UnknownNotation) : String :=
  "unrecognized complexity notation: " ++ String.ofList (Text.quoted e.text)

namespace Complexity

def wrappers : List Text :=
  ["o(", "θ(", "ω(", "big-o(", "bigo("].map String.toList

def compact (claim : Text) : Text :=
  Text.lowercase (claim.filter fun c => !Text.isBlank c)

def unwrap (body : Text) : Text :=
  match wrappers.findSome? fun w => Text.after? w body with
  | some rest => Text.withoutEnd ")" rest
  | none => body

def respellings : List (Text × Text) :=
  [("²", "^2"), ("³", "^3"), ("**", "^"), ("·", "*"), ("×", "*"), ("⋅", "*"), ("√n", "sqrt"),
    ("sqrt(n)", "sqrt"), ("(n)", "n"), ("(v)", "v"), ("(k)", "k")].map
      fun r : String × String => (r.1.toList, r.2.toList)

def respell (body : Text) : Text :=
  respellings.foldl (fun t r => Text.replace r.1 r.2 t) body

def body (claim : Text) : Text :=
  respell (unwrap (compact claim))

def spellings : List (Complexity × List String) :=
  [(constant, ["1", "c", "constant"]),
    (bounded, ["k", "26", "alphabet", "sigma", "σ"]),
    (logLog, ["loglogn"]),
    (log, ["logn", "lgn", "log2n", "log_2n", "logk", "logv", "log(m+n)", "log(n+m)",
      "log(min(m,n))"]),
    (sqrt, ["sqrt", "n^0.5", "n^(1/2)"]),
    (linear, ["n", "m", "2n", "n+m", "m+n", "n+k", "k+n", "l", "h"]),
    (graph, ["v+e", "e+v", "n+e", "v+m", "|v|+|e|"]),
    (linearLogLog, ["nloglogn", "n*loglogn"]),
    (linearLog, ["nlogn", "n*logn", "nlogk", "n*logk", "elogv", "e*logv", "(v+e)logv",
      "(e+v)logv", "mlogn", "klogn", "nlogm"]),
    (quadratic, ["n^2", "n*n", "mn", "nm", "m*n", "n*m", "n*k", "k*n", "v^2", "v*e"]),
    (quadraticLog, ["n^2logn", "n^2*logn"]),
    (cubic, ["n^3", "n*n*n", "v^3"]),
    (exponential, ["2^n", "exponential"]),
    (linearExponential, ["n*2^n", "n2^n", "2^n*n"]),
    (baseExponential, ["k^n", "3^n", "4^n", "b^d"]),
    (factorial, ["n!", "factorial"]),
    (linearFactorial, ["n*n!", "n!*n", "(n+1)!"])]

def ofSpelling? (body : Text) : Option Complexity :=
  (spellings.find? fun s => s.2.any fun spelling => spelling.toList = body).map (·.1)

def isVariable (term : Text) : Bool :=
  let paren (c : Char) : Bool := c = '(' || c = ')'
  match (Text.dropEndWhile paren (term.dropWhile paren)).dropWhile Char.isDigit with
  | [c] => c.isAlpha
  | _ => false

def ofFactorial? (body : Text) : Option Complexity :=
  if !Text.contains body "!" then none
  else if Text.contains body "n*" || Text.contains body "*n" then some linearFactorial
  else some factorial

def ofPower? (body : Text) : Option Complexity :=
  match Text.split? "^" body with
  | none => none
  | some (before, after) =>
    let base := (before.reverse.takeWhile Char.isAlphanum).reverse
    match after.dropWhile (· = '(') with
    | [] => none
    | c :: _ =>
      if c.isAlpha then
        if base ≠ ['2'] then some baseExponential
        else if Text.contains before "*" then some linearExponential
        else some exponential
      else if c = '3' then some cubic
      else if c = '2' then
        if Text.contains body "log" then some quadraticLog else some quadratic
      else none

/-- A body with a logarithm or a root: a factor before the logarithm makes it linear times that. -/
def ofLogarithm? (body : Text) : Option Complexity :=
  match Text.split? "loglog" body with
  | some ([], _) => some logLog
  | some _ => some linearLogLog
  | none =>
    match Text.split? "log" body with
    | some ([], _) => some log
    | some _ => some linearLog
    | none => if Text.contains body "sqrt" then some sqrt else none

def ofVariables? (body : Text) : Option Complexity :=
  if (Text.pieces '+' body).all isVariable then some linear
  else
    let factors := Text.pieces '*' body
    if factors.all isVariable then some (polynomial factors.length) else none

def ofShape? (body : Text) : Option Complexity :=
  ofFactorial? body <|> ofPower? body <|> ofLogarithm? body <|> ofVariables? body

def read? (claim : Text) : Option Complexity :=
  let b := body claim
  if b.isEmpty then none else ofSpelling? b <|> ofShape? b

def read (claim : Text) : Except UnknownNotation Complexity :=
  match read? claim with
  | some c => .ok c
  | none => .error ⟨claim⟩

theorem read?_canonical (c : Complexity) : read? c.canonical.toList = some c := by
  cases c <;> rfl

end Complexity
end Asymptote
