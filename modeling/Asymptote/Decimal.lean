/-! # Decimals
The magnitude of a finite double, the fewest decimal digits that identify it, and how digits are
laid out. -/
namespace Asymptote.Decimal

/-! ## Exact magnitudes
The magnitude of a finite double as an exact fraction, and rounding a fraction to a natural
number. -/

structure Magnitude where
  significand : Nat
  exponent : Int
  /-- The next lower double is nearer than the next higher one. -/
  narrowBelow : Bool
  deriving DecidableEq, Repr

namespace Magnitude

def ofFloat (x : Float) : Magnitude :=
  let bits := x.toBits.toNat
  let exponent : Nat := bits / Nat.pow 2 52 % Nat.pow 2 11
  let fraction := bits % Nat.pow 2 52
  if exponent = 0 then ⟨fraction, -1074, false⟩
  else ⟨Nat.pow 2 52 + fraction, (exponent : Int) - 1075, fraction = 0 && 1 < exponent⟩

def numerator (m : Magnitude) : Nat :=
  m.significand * Nat.pow 2 m.exponent.toNat

def denominator (m : Magnitude) : Nat :=
  Nat.pow 2 (-m.exponent).toNat

end Magnitude

/-- The sign bit is set, which it also is for the negative zero. -/
def isNegative (x : Float) : Bool :=
  Nat.pow 2 63 ≤ x.toBits.toNat

def roundToEven (num den : Nat) : Nat :=
  let quotient := num / den
  let doubled := 2 * (num % den)
  if doubled < den then quotient
  else if den < doubled then quotient + 1
  else quotient + quotient % 2

/-! ## Shortest decimals
The fewest decimal digits that only one double is nearest to, and among those with as many digits
the ones nearest to it. The doubles that round to a value form an interval; the search goes through
the decimal grids from coarse to fine until one has a point in it. -/

/-- A positive value with the interval of what rounds to it, in parts of a common unit. -/
structure Target where
  value : Nat
  low : Nat
  high : Nat
  unit : Nat
  closed : Bool

namespace Target

def ofMagnitude (m : Magnitude) : Target :=
  let scale := Nat.pow 2 m.exponent.toNat
  let below := if m.narrowBelow then 1 else 2
  { value := 4 * m.significand * scale
    low := (4 * m.significand - below) * scale
    high := (4 * m.significand + 2) * scale
    unit := 4 * m.denominator
    closed := m.significand % 2 = 0 }

def shift (t : Target) (places : Int) : Target :=
  let up := Nat.pow 10 places.toNat
  { t with
    value := t.value * up
    low := t.low * up
    high := t.high * up
    unit := t.unit * Nat.pow 10 (-places).toNat }

def admits (t : Target) (n : Nat) : Bool :=
  let point := n * t.unit
  if t.closed then t.low ≤ point && point ≤ t.high else t.low < point && point < t.high

def nearest? (t : Target) (tieUp : Bool) : Option Nat :=
  let lower := t.value / t.unit
  let upper := lower + 1
  match t.admits lower, t.admits upper with
  | false, false => none
  | true, false => some lower
  | false, true => some upper
  | true, true =>
    let middle := (lower + upper) * t.unit
    if 2 * t.value < middle then some lower
    else if middle < 2 * t.value then some upper
    else if tieUp || upper % 2 = 0 then some upper
    else some lower

def zerosBehindPoint : Nat → Target → Nat
  | 0, _ => 0
  | fuel + 1, t =>
    let next := t.shift 1
    if next.value < next.unit then zerosBehindPoint fuel next + 1 else 0

def leadingPlace (t : Target) : Int :=
  if t.value < t.unit then -(zerosBehindPoint 400 t : Nat)
  else (Nat.toDigits 10 (t.value / t.unit)).length

end Target

/-- The digits behind an imagined point, which stands `place` digits to the right of it. -/
structure Digits where
  digits : List Char
  place : Int
  deriving DecidableEq, Repr

/-- Tries grids of more and more digits. Seventeen always suffice, so the point on the grid behind
the last one that is tried need not be tested. -/
def searchFrom (t : Target) (place : Int) (tieUp : Bool) : Nat → Nat → Nat × Nat
  | 0, count => ((t.shift (count - place)).value / (t.shift (count - place)).unit, count)
  | fuel + 1, count =>
    match (t.shift (count - place)).nearest? tieUp with
    | some n => (n, count)
    | none => searchFrom t place tieUp fuel (count + 1)

/-- The shortest digits of a positive magnitude. A carry into a further digit moves the point. -/
def Digits.ofMagnitude (m : Magnitude) (tieUp : Bool) : Digits :=
  let t := Target.ofMagnitude m
  let place := t.leadingPlace
  let (n, count) := searchFrom t place tieUp 17 1
  let written := Nat.toDigits 10 n
  ⟨(written.reverse.dropWhile (· = '0')).reverse, place + written.length - count⟩

/-! ## Decimal layout
How the digits of a double are laid out: with the fewest digits in one of several styles, or with a
fixed number of places. -/

structure Style where
  isPositional : Int → Bool
  keepsPoint : Bool
  /-- A tie between two shortest decimals goes up rather than to the even one. -/
  tieUp : Bool

def zeros (count : Nat) : List Char :=
  List.replicate count '0'

def positional (keepsPoint : Bool) (d : Digits) : List Char :=
  let whole := d.place.toNat
  if d.place ≤ 0 then ['0', '.'] ++ zeros (-d.place).toNat ++ d.digits
  else if d.digits.length ≤ whole then
    d.digits ++ zeros (whole - d.digits.length) ++ if keepsPoint then ['.', '0'] else []
  else d.digits.take whole ++ '.' :: d.digits.drop whole

def scientific (d : Digits) : List Char :=
  let exponent := d.place - 1
  d.digits.take 1 ++ (if d.digits.length ≤ 1 then [] else '.' :: d.digits.drop 1) ++
    ['e', if exponent < 0 then '-' else '+'] ++ Nat.toDigits 10 exponent.natAbs

def signed (x : Float) (magnitude : List Char) : List Char :=
  if isNegative x then '-' :: magnitude else magnitude

def shortest (style : Style) (x : Float) : List Char :=
  let m := Magnitude.ofFloat x
  let d : Digits :=
    if m.significand = 0 then ⟨['0'], 1⟩ else Digits.ofMagnitude m style.tieUp
  signed x (if style.isPositional d.place then positional style.keepsPoint d else scientific d)

def fixed (places : Nat) (x : Float) : List Char :=
  let m := Magnitude.ofFloat x
  let digits := Nat.toDigits 10 (roundToEven (m.numerator * Nat.pow 10 places) m.denominator)
  let padded := zeros (places + 1 - digits.length) ++ digits
  let whole := padded.length - places
  signed x (padded.take whole ++ '.' :: padded.drop whole)

end Asymptote.Decimal
