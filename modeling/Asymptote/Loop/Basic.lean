import Asymptote.Snippet

/-! # Loops
What is known about a loop-like construct: where it stands, what runs through it and how fast its
variable approaches the bound. -/
namespace Asymptote

inductive LoopGrowth where
  | linear
  | logarithmic
  | sqrt
  deriving DecidableEq, Repr, Inhabited

def LoopGrowth.name : LoopGrowth → String
  | linear => "linear"
  | logarithmic => "logarithmic"
  | sqrt => "sqrt"

inductive LoopKind where
  | forLoop
  | whileLoop
  | unbounded
  | iteration
  | comprehension
  deriving DecidableEq, Repr

def LoopKind.name : LoopKind → String
  | forLoop => "for"
  | whileLoop => "while"
  | unbounded => "unbounded"
  | iteration => "iteration"
  | comprehension => "comprehension"

/-- Why an inner loop does linear work over the whole of its outer loop. -/
inductive Amortization where
  /-- It only takes away what the outer loop has put on a stack or queue. -/
  | stackDrain
  /-- It only moves the trailing edge of a window. -/
  | windowShrink
  deriving DecidableEq, Repr

def Amortization.name : Amortization → String
  | stackDrain => "stack_drain"
  | windowShrink => "window_shrink"

structure Loop where
  kind : LoopKind
  line : Nat
  last : Nat
  /-- The place among the loops that start on the same line. -/
  column : Nat
  counter? : Option Text
  condition : Text
  /-- The names in the condition that may bound the number of rounds, in order of appearance. -/
  bounds : List Text
  growth : LoopGrowth
  exitsEarly : Bool
  deriving DecidableEq, Repr

namespace Loop

def body (l : Loop) : List Nat :=
  List.range' (l.line + 1) (l.last - l.line)

def holdsLine (l : Loop) (number : Nat) : Bool :=
  l.line < number && number ≤ l.last

/-- The other loop runs inside this one. On one line only comprehensions nest, the earlier around
the later. -/
def holds (l other : Loop) : Bool :=
  if l.line = other.line then
    l.kind = .comprehension && other.kind = .comprehension && l.column < other.column
  else l.holdsLine other.line

theorem mem_body {l : Loop} {number : Nat} : number ∈ l.body ↔ l.holdsLine number = true := by
  simp only [body, holdsLine, List.mem_range'_1, Bool.and_eq_true, decide_eq_true_eq]
  omega

end Loop

/-! ## Loop headers
The loop variable, the condition or collection and the update that a header names. A header is tried
against a list of forms; the first whose shape occurs in it is read. -/

namespace Loop

open Pattern CharClass

structure Header where
  counter? : Option Text := none
  condition : Text := []
  update : Text := []
  deriving DecidableEq, Repr

structure HeaderForm where
  shape : Pattern
  read : Match → Header

def part (m : Match) (number : Nat) : Text :=
  Text.trim (m.group number)

/-- Cuts at the commas that stand outside of brackets; `depth` is the number of open brackets and
`piece` the piece so far, backwards. The last piece counts only if it is not blank. -/
def splitArgumentsFrom (depth : Int) (piece : Text) : Text → List Text
  | [] => if Text.isAllBlank piece then [] else [Text.trim piece.reverse]
  | c :: rest =>
    if c = '(' ∨ c = '[' ∨ c = '\x7b' then splitArgumentsFrom (depth + 1) (c :: piece) rest
    else if c = ')' ∨ c = ']' ∨ c = '\x7d' then splitArgumentsFrom (depth - 1) (c :: piece) rest
    else if c = ',' ∧ depth = 0 then Text.trim piece.reverse :: splitArgumentsFrom depth [] rest
    else splitArgumentsFrom depth (c :: piece) rest

def splitArguments (arguments : Text) : List Text :=
  splitArgumentsFrom 0 [] arguments

namespace HeaderForm

def clauses : HeaderForm where
  shape := "for" ++ spaced "(" ++ opt (some1 (inWord ∪ "<>[]:") ++ ws1) ++ group 1 word ++
    spaced "=" ++ any (except ";") ++ ";" ++ ws ++ group 2 (any (except ";")) ++ ";" ++ ws ++
    group 3 (any (except ")") ++ many ("(" ++ any (except ")") ++ ")" ++ any (except ")"))) ++ ")"
  read m := ⟨m.group? 1 |>.map Text.trim, part m 2, part m 3⟩

def bareClauses : HeaderForm where
  shape := "for" ++ ws1 ++ group 1 word ++ spaced ":=" ++ any (except ";") ++ ";" ++ ws ++
    group 2 (any (except ";")) ++ ";" ++ ws ++ group 3 (any (except "\x7b"))
  read m := ⟨some (part m 1), part m 2, part m 3⟩

def range : HeaderForm where
  shape := "for" ++ ws1 ++ group 1 word ++ ws1 ++ "in" ++ ws1 ++ opt "x" ++ "range" ++ ws ++ "(" ++
    group 2 lineRest ++ ")" ++ ws ++ ":"
  read m :=
    let condition :=
      match splitArguments (part m 2) with
      | [] => []
      | [stop] => stop
      | _ :: stop :: _ => stop
    ⟨some (part m 1), condition, ((splitArguments (part m 2))[2]?).getD []⟩

def dottedRange : HeaderForm where
  shape := "for" ++ ws1 ++ group 1 word ++ ws1 ++ "in" ++ ws1 ++ opt "(" ++ ws ++
    group 2 (some1 (inWord ∪ ".")) ++ ws ++ ".." ++ opt "=" ++ ws ++ group 3 (any (except "\x7b"))
  read m := ⟨some (part m 1), part m 3, []⟩

def rangeOver : HeaderForm where
  shape := "for" ++ ws1 ++ group 1 word ++ opt (spaced "," ++ word) ++ spaced ":=" ++ "range" ++
    ws1 ++ group 2 (few1 inLine) ++ ws ++ "\x7b"
  read m := ⟨some (part m 1), part m 2, []⟩

def element : HeaderForm where
  shape := "for" ++ ws ++ opt ("each" ++ ws) ++ opt "(" ++ ws ++
    opt (some1 (inWord ∪ "<>[]&") ++ ws1) ++ opt "(" ++ ws ++ group 1 word ++
    many (spaced "," ++ word) ++ ws ++ opt ")" ++ ws ++ anyOf [whole "in", whole "of", ":"] ++ ws ++
    group 2 (some1 inLine) ++ textEnd
  read m :=
    let collection :=
      Text.trimEnd (Text.dropEndWhile (fun c => c = '\x7b' || c = ':') (part m 2))
    ⟨some (part m 1), Text.dropEndWhile (· = ')') collection, []⟩

def bareCondition : HeaderForm where
  shape := textStart ++ "for" ++ ws1 ++ group 1 (few1 (except "\x7b;")) ++ ws ++ "\x7b"
  read m := ⟨none, part m 1, []⟩

def counted : List HeaderForm :=
  [clauses, bareClauses, range, dottedRange, rangeOver, element, bareCondition]

end HeaderForm

def readFor (text : Text) : Header :=
  (HeaderForm.counted.findSome? fun form => (form.shape.find? text).map form.read).getD {}

def whileHead : Pattern :=
  anyOf ["while", "until"] ++ edge ++ ws ++ group 1 lineRest ++ textEnd

def readWhile (text : Text) : Header :=
  let condition := ((whileHead.find? text).map (part · 1)).getD []
  let condition := Text.trimEnd (Text.dropEndWhile (fun c => c = '\x7b' || c = ':') condition)
  let condition := Text.trim (Text.withoutEnds " do" condition)
  let bare := (Text.after? "(" condition).bind (Text.before? ")")
  { condition := bare.getD condition }

def receiver : Pattern :=
  edge ++ group 1 word ++ ws ++ opt (")" ++ ws) ++ "." ++
    anyOf ["forEach", "map", "filter", "reduce", "each", "times", "for_each", "fold", "some",
      "every", "indexOf", "includes", "iter"]

def readIteration (text : Text) : Header :=
  { condition := ((receiver.find? text).map (part · 1)).getD [] }

def readHeader (kind : LoopKind) (text : Text) : Header :=
  match kind with
  | .forLoop | .comprehension => readFor text
  | .whileLoop => readWhile text
  | .unbounded => {}
  | .iteration => readIteration text

def notBounds : List Text :=
  ["len", "size", "length", "range", "xrange", "and", "or", "not", "true", "false", "True", "False",
    "null", "None", "nil", "int", "math", "Math", "sqrt", "isqrt", "self", "this", "enumerate",
    "zip", "reversed", "sorted", "items", "keys", "values", "is", "empty", "isEmpty", "let",
    "const", "var", "auto", "in", "of", "mut", "iter", "chars", "count", "floor", "ceil", "abs",
    "min", "max", "undefined", "step_by", "rev", "Integer", "long"].map String.toList

def identifiersIn (t : Text) : List Text :=
  (identifier.findAll t).map Match.text

def firstPlaces (ts : List Text) : List Text :=
  ts.foldl (fun seen t => if seen.contains t then seen else seen ++ [t]) []

def Header.bounds (h : Header) : List Text :=
  firstPlaces ((identifiersIn h.condition).filter fun name =>
    some name ≠ h.counter? && !notBounds.contains name)

/-! ## Early exit
A loop that leaves in its first round does constant work: its body begins with a jump out of it, or
sets the loop variable to its bound. -/

def inlineExit : Pattern :=
  anyOf [":", ")", "\x7b"] ++ ws ++ anyOf ["break", "return"] ++ edge

def leadingExit : Pattern :=
  textStart ++ anyOf ["break", "return"] ++ edge

def plainCopy : Pattern :=
  textStart ++ ws ++ group 1 word ++ spaced "=" ++ group 2 word ++ ws ++ opt ";" ++ ws ++ textEnd

def firstStatement? (body : List Text) : Option Text :=
  (body.map Text.trim).find? fun t => !t.isEmpty && t ≠ ['\x7b']

def pins (h : Header) (line : Text) : Bool :=
  match h.counter?, plainCopy.find? line with
  | some v, some m => m.group 1 = v && h.bounds.contains (m.group 2)
  | _, _ => false

def exitsFirst (s : Snippet) (first last : Nat) (h : Header) : Bool :=
  if last = first then inlineExit.occursIn (s.line first)
  else
    let body := (List.range' (first + 1) (last - first)).map s.line
    (firstStatement? body).any leadingExit.occursIn || body.any (pins h)

/-! ## Loop growth
A loop is bounded by a square root if its condition squares a variable or takes a root. It is
logarithmic if its update or body multiplies, divides or reduces one of its variables. -/

def boundedProduct : Pattern :=
  edge ++ group 1 word ++ spaced "*" ++ group 2 word ++ ws ++ "<" ++ opt "="

def rootOrSquare : Pattern :=
  anyOf ["**" ++ ws ++ opt "0" ++ ".5", edge ++ opt "i" ++ "sqrt" ++ ws ++ "(", ".sqrt()",
    "**" ++ spaced "2" ++ "<" ++ opt "="]

def hasRootBound (condition : Text) : Bool :=
  ((boundedProduct.findAll condition).any fun m => m.group 1 = m.group 2) ||
    rootOrSquare.occursIn condition

def compoundUpdate : Pattern :=
  edge ++ group 1 word ++ ws ++ anyOf ["*=", "/=", "//=", ">>=", "<<=", ">>>="] ++ ws ++ word

def spelledUpdate : Pattern :=
  edge ++ group 1 word ++ spaced "=" ++ group 2 word ++ ws ++
    anyOf ["*", "//", "/", ">>", "<<"] ++ ws ++ word

def remainderUpdate : Pattern :=
  edge ++ group 1 word ++ spaced "=" ++ any (except "=;%") ++ "%" ++ ws ++ group 2 word ++ edge

def euclidUpdate : Pattern :=
  edge ++ group 1 word ++ spaced "," ++ group 2 word ++ spaced "=" ++ group 3 word ++ spaced "," ++
    group 4 word ++ spaced "%" ++ group 5 word

def rescales (tracked : List Text) (line : Text) : Bool :=
  ((compoundUpdate.findAll line).any fun m => tracked.contains (m.group 1)) ||
    ((spelledUpdate.findAll line).any fun m =>
      m.group 1 = m.group 2 && tracked.contains (m.group 1)) ||
    ((remainderUpdate.findAll line).any fun m =>
      m.group 1 = m.group 2 && tracked.contains (m.group 1)) ||
    ((euclidUpdate.findAll line).any fun m =>
      m.group 3 = m.group 2 && m.group 4 = m.group 1 && m.group 5 = m.group 2 &&
        (tracked.contains (m.group 1) || tracked.contains (m.group 2)))

/-- The variables whose rescaling makes a loop logarithmic: the loop variable and the names in the
condition. -/
def Header.tracked (h : Header) : List Text :=
  h.bounds ++ h.counter?.toList ++ identifiersIn h.condition

def Header.growth (h : Header) (lines : List Text) : LoopGrowth :=
  if hasRootBound h.condition then .sqrt
  else if (h.update :: lines).any (rescales h.tracked) then .logarithmic
  else .linear

end Loop

end Asymptote
