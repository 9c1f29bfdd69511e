import Asymptote.Decimal
import Asymptote.Text.Basic

/-! # JSON
Documents as values with their indented text, and reading a text straight into a record. -/
namespace Asymptote

/-! ## JSON documents
Documents as values, and their indented text: two spaces a level, a member on each line, and text
that escapes only what it must. -/

inductive Json where
  | null
  | bool (b : Bool)
  | natural (n : Nat)
  | real (x : Float)
  | string (s : String)
  | array (items : List Json)
  | object (fields : List (String × Json))

namespace Json

def ofOption {α : Type} (encode : α → Json) : Option α → Json
  | none => null
  | some a => encode a

def ofList {α : Type} (encode : α → Json) (l : List α) : Json :=
  array (l.map encode)

/-- Reals are positional from 1e-5 up to 1e16, and whole ones keep a point. -/
def realStyle : Decimal.Style where
  isPositional place := -5 < place && place ≤ 16
  keepsPoint := true
  tieUp := false

def quotedChar (c : Char) : List Char :=
  match c with
  | '"' => ['\\', '"']
  | '\\' => ['\\', '\\']
  | '\x08' => ['\\', 'b']
  | '\x0c' => ['\\', 'f']
  | '\n' => ['\\', 'n']
  | '\r' => ['\\', 'r']
  | '\t' => ['\\', 't']
  | c =>
    if c.toNat < 0x20 then
      ['\\', 'u', '0', '0', Nat.digitChar (c.toNat / 16), Nat.digitChar (c.toNat % 16)]
    else [c]

def quoted (s : String) : List Char :=
  '"' :: s.toList.flatMap quotedChar ++ ['"']

def margin (level : Nat) : List Char :=
  '\n' :: List.replicate (2 * level) ' '

mutual

def write (level : Nat) : Json → List Char
  | null => "null".toList
  | bool b => (if b then "true" else "false").toList
  | natural n => Nat.toDigits 10 n
  | real x => Decimal.shortest realStyle x
  | string s => quoted s
  | array [] => ['[', ']']
  | array (item :: others) =>
    '[' :: margin (level + 1) ++ write (level + 1) item ++ writeItems (level + 1) others ++
      margin level ++ [']']
  | object [] => ['{', '}']
  | object (field :: others) =>
    '{' :: margin (level + 1) ++ writeField (level + 1) field ++
      writeFields (level + 1) others ++ margin level ++ ['}']

def writeItems (level : Nat) : List Json → List Char
  | [] => []
  | item :: others => ',' :: margin level ++ write level item ++ writeItems level others

def writeField (level : Nat) : String × Json → List Char
  | (key, value) => quoted key ++ [':', ' '] ++ write level value

def writeFields (level : Nat) : List (String × Json) → List Char
  | [] => []
  | field :: others => ',' :: margin level ++ writeField level field ++ writeFields level others

end

def pretty (j : Json) : String :=
  String.ofList (write 0 j)

end Json

/-! ## JSON scalars
Keywords, strings and numbers at the start of a text, each with what follows it. A text that ends
too early is told from one that is malformed. -/

namespace Json

/-- Why a document cannot be read. The first problem in reading order counts. -/
inductive Fault where
  | ended
  | malformed
  /-- The text is well-formed so far, but the value has the wrong shape. -/
  | mismatched
  deriving DecidableEq, Repr

def Fault.category : Fault → String
  | ended => "eof"
  | malformed => "syntax"
  | mismatched => "data"

def isSpace (c : Char) : Bool :=
  c = ' ' || c = '\n' || c = '\t' || c = '\r'

def skipSpace (t : Text) : Text :=
  t.dropWhile isSpace

def keyword : List Char → Text → Except Fault Text
  | [], t => .ok t
  | _ :: _, [] => .error .ended
  | c :: word, d :: t => if c = d then keyword word t else .error .malformed

/-! ### Strings -/

def hexDigit? (c : Char) : Option Nat :=
  if c.isDigit then some (c.toNat - '0'.toNat)
  else if 'a' ≤ c ∧ c ≤ 'f' then some (c.toNat - 'a'.toNat + 10)
  else if 'A' ≤ c ∧ c ≤ 'F' then some (c.toNat - 'A'.toNat + 10)
  else none

def hexUnit (t : Text) : Except Fault Nat :=
  let digits := (t.take 4).filterMap hexDigit?
  if digits.length = 4 then .ok (digits.foldl (fun n d => 16 * n + d) 0)
  else if t.foldl (fun n c => n + c.utf8Size) 0 < 4 then .error .ended
  else .error .malformed

def isHighSurrogate (unit : Nat) : Bool :=
  0xd800 ≤ unit && unit < 0xdc00

def isLowSurrogate (unit : Nat) : Bool :=
  0xdc00 ≤ unit && unit < 0xe000

def lowSurrogate (t : Text) : Except Fault Nat :=
  match t with
  | [] => .error .ended
  | ['\\'] => .error .ended
  | '\\' :: 'u' :: rest => do
    let unit ← hexUnit rest
    if isLowSurrogate unit then .ok unit else .error .malformed
  | _ => .error .malformed

def unicodeEscape (t : Text) : Except Fault (Char × Nat) := do
  let unit ← hexUnit t
  if isLowSurrogate unit then .error .malformed
  else if isHighSurrogate unit then do
    let low ← lowSurrogate (t.drop 4)
    .ok (Char.ofNat (0x10000 + (unit - 0xd800) * 0x400 + (low - 0xdc00)), 10)
  else .ok (Char.ofNat unit, 4)

def escape : Text → Except Fault (Char × Nat)
  | [] => .error .ended
  | 'u' :: rest => (unicodeEscape rest).map fun (c, n) => (c, n + 1)
  | '"' :: _ => .ok ('"', 1)
  | '\\' :: _ => .ok ('\\', 1)
  | '/' :: _ => .ok ('/', 1)
  | 'b' :: _ => .ok ('\x08', 1)
  | 'f' :: _ => .ok ('\x0c', 1)
  | 'n' :: _ => .ok ('\n', 1)
  | 'r' :: _ => .ok ('\r', 1)
  | 't' :: _ => .ok ('\t', 1)
  | _ => .error .malformed

def stringFrom : Nat → Text → Except Fault (List Char × Text)
  | _, [] => .error .ended
  | n + 1, _ :: rest => stringFrom n rest
  | 0, '"' :: rest => .ok ([], rest)
  | 0, '\\' :: rest => do
    let (c, n) ← escape rest
    let (cs, following) ← stringFrom n rest
    .ok (c :: cs, following)
  | 0, c :: rest =>
    if c.toNat < 0x20 then .error .malformed
    else do
      let (cs, following) ← stringFrom 0 rest
      .ok (c :: cs, following)

def stringBody (t : Text) : Except Fault (String × Text) :=
  (stringFrom 0 t).map fun (cs, rest) => (String.ofList cs, rest)

/-! ### Numbers -/

def appendDigits (significand count : Nat) : List Char → Nat × Nat
  | [] => (significand, count)
  | c :: digits =>
    let next := 10 * significand + (c.toNat - '0'.toNat)
    if next < Nat.pow 2 64 then appendDigits next (count + 1) digits else (significand, count)

def powerOfTen (n : Nat) : Float :=
  Float.ofScientific 1 false n

def maxPower : Nat := 308

def divideByPower : Nat → Float → Nat → Float
  | 0, x, _ => x
  | fuel + 1, x, n =>
    if n ≤ maxPower then x / powerOfTen n
    else if x == 0 then x
    else divideByPower fuel (x / powerOfTen maxPower) (n - maxPower)

/-- The double for a significand and a decimal exponent: the significand as a double, multiplied or
divided once if the power of ten is a double. One that is too large is no number. -/
def scaled (significand : Nat) (exponent : Int) : Except Fault Float :=
  let x := Float.ofNat significand
  if exponent < 0 then .ok (divideByPower (exponent.natAbs + 1) x exponent.natAbs)
  else if exponent.toNat ≤ maxPower then
    let y := x * powerOfTen exponent.toNat
    if y.isInf then .error .malformed else .ok y
  else if significand = 0 then .ok x
  else .error .malformed

def exponentPart (t : Text) : Except Fault (Int × Text) :=
  let (negative, rest) :=
    match t with
    | '+' :: rest => (false, rest)
    | '-' :: rest => (true, rest)
    | _ => (false, t)
  match rest with
  | [] => .error .ended
  | c :: _ =>
    if c.isDigit then
      let n := (rest.takeWhile Char.isDigit).foldl (fun n d => 10 * n + (d.toNat - '0'.toNat)) 0
      .ok (if negative then -(n : Int) else n, rest.dropWhile Char.isDigit)
    else .error .malformed

def numberEnd (significand : Nat) (exponent : Int) (t : Text) : Except Fault (Float × Text) :=
  match t with
  | c :: rest =>
    if c = 'e' || c = 'E' then do
      let (power, following) ← exponentPart rest
      (scaled significand (exponent + power)).map (·, following)
    else (scaled significand exponent).map (·, t)
  | [] => (scaled significand exponent).map (·, t)

/-- The rest of a number behind its integer digits: perhaps a point with at least one digit. Digits
that do not fit into the significand are dropped. -/
def fractionPart (significand : Nat) (exponent : Int) (t : Text) : Except Fault (Float × Text) :=
  match t with
  | '.' :: rest =>
    let digits := rest.takeWhile Char.isDigit
    let following := rest.dropWhile Char.isDigit
    if digits.isEmpty then .error (if following.isEmpty then .ended else .malformed)
    else
      let (s, count) := appendDigits significand 0 digits
      numberEnd s (exponent - count) following
  | _ => numberEnd significand exponent t

def magnitude (t : Text) : Except Fault (Float × Text) :=
  match t with
  | [] => .error .ended
  | '0' :: rest => if rest.head?.any Char.isDigit then .error .malformed else fractionPart 0 0 rest
  | c :: _ =>
    if c.isDigit then
      let digits := t.takeWhile Char.isDigit
      let (s, count) := appendDigits 0 0 digits
      fractionPart s (digits.length - count) (t.dropWhile Char.isDigit)
    else .error .malformed

def number (t : Text) : Except Fault (Float × Text) :=
  match t with
  | '-' :: rest => (magnitude rest).map fun (x, following) => (-x, following)
  | _ => magnitude t

/-! ## Typed reading of JSON
A document is read in one pass straight into the value that it stands for, so the first problem in
reading order decides, whether it is one of form or of shape. Records are described by their fields;
they may be written as an object or as an array of the fields in order. -/

abbrev Reader (α : Type) := Text → Except Fault (α × Text)

/-- The fault of a value of the wrong kind, at whose first character the text stands. A scalar is
read to its end first, and a problem inside it goes before. -/
def wrongKind (t : Text) : Fault :=
  let after {α : Type} : Except Fault α → Fault
    | .ok _ => .mismatched
    | .error fault => fault
  match t with
  | 'n' :: rest => after (keyword "ull".toList rest)
  | 't' :: rest => after (keyword "rue".toList rest)
  | 'f' :: rest => after (keyword "alse".toList rest)
  | '"' :: rest => after (stringFrom 0 rest)
  | '[' :: _ => .mismatched
  | '{' :: _ => .mismatched
  | c :: _ => if c = '-' || c.isDigit then after (number t) else .malformed
  | [] => .ended

namespace Reader

def string : Reader String := fun t =>
  match skipSpace t with
  | '"' :: rest => stringBody rest
  | rest => .error (wrongKind rest)

def bool : Reader Bool := fun t =>
  match skipSpace t with
  | 't' :: rest => (keyword "rue".toList rest).map (true, ·)
  | 'f' :: rest => (keyword "alse".toList rest).map (false, ·)
  | rest => .error (wrongKind rest)

def real : Reader Float := fun t =>
  match skipSpace t with
  | c :: rest =>
    if c = '-' || c.isDigit then number (c :: rest) else .error (wrongKind (c :: rest))
  | [] => .error .ended

def optional {α : Type} (read : Reader α) : Reader (Option α) := fun t =>
  match skipSpace t with
  | 'n' :: rest => (keyword "ull".toList rest).map (none, ·)
  | rest => (read rest).map fun (a, following) => (some a, following)

def nextElement (isFirst : Bool) (t : Text) : Except Fault (Bool × Text) :=
  match skipSpace t with
  | [] => .error .ended
  | ']' :: rest => .ok (false, ']' :: rest)
  | c :: rest =>
    if isFirst then .ok (true, c :: rest)
    else if c = ',' then
      match skipSpace rest with
      | [] => .error .ended
      | ']' :: _ => .error .malformed
      | following => .ok (true, following)
    else .error .malformed

def closeArray (t : Text) : Except Fault Text :=
  match skipSpace t with
  | [] => .error .ended
  | ']' :: rest => .ok rest
  | _ => .error .malformed

def elements {α : Type} (read : Reader α) : Nat → Bool → Reader (List α)
  | 0, _, _ => .error .ended
  | fuel + 1, isFirst, t => do
    let (found, rest) ← nextElement isFirst t
    if found then
      let (a, rest) ← read rest
      let (others, rest) ← elements read fuel false rest
      .ok (a :: others, rest)
    else (closeArray rest).map ([], ·)

def list {α : Type} (read : Reader α) : Reader (List α) := fun t =>
  match skipSpace t with
  | '[' :: rest => elements read (rest.length + 1) true rest
  | rest => .error (wrongKind rest)

end Reader

structure Field (σ : Type) where
  name : String
  isRequired : Bool
  read : σ → Reader σ

namespace Field

variable {σ α : Type}

def required (name : String) (read : Reader α) (set : σ → α → σ) : Field σ :=
  ⟨name, true, fun s t => (read t).map fun (a, rest) => (set s a, rest)⟩

def defaulted (name : String) (read : Reader α) (set : σ → α → σ) : Field σ :=
  ⟨name, false, fun s t => (read t).map fun (a, rest) => (set s a, rest)⟩

def elements : List (Field σ) → Bool → σ → Reader σ
  | [], _, s, t => (Reader.closeArray t).map (s, ·)
  | field :: fields, isFirst, s, t => do
    let (found, rest) ← Reader.nextElement isFirst t
    if found then
      let (s, rest) ← field.read s rest
      elements fields false s rest
    else if field.isRequired then .error .mismatched
    else elements fields isFirst s rest

def nextKey (isFirst : Bool) (t : Text) : Except Fault (Option String × Text) :=
  let key (rest : Text) : Except Fault (Option String × Text) :=
    (stringBody rest).map fun (name, following) => (some name, following)
  match skipSpace t with
  | [] => .error .ended
  | '}' :: rest => .ok (none, rest)
  | c :: rest =>
    if isFirst then if c = '"' then key rest else .error .malformed
    else if c = ',' then
      match skipSpace rest with
      | [] => .error .ended
      | '"' :: following => key following
      | _ => .error .malformed
    else .error .malformed

def colon (t : Text) : Except Fault Text :=
  match skipSpace t with
  | [] => .error .ended
  | ':' :: rest => .ok rest
  | _ => .error .malformed

/-- The members of an object. Each belongs to a pending field, so there are no more of them than
`count`, the number of those. -/
def members (pending : List (Field σ)) : Nat → Bool → σ → Reader σ
  | count, isFirst, s, t => do
    let (key?, rest) ← nextKey isFirst t
    match key? with
    | none => if pending.any (·.isRequired) then .error .mismatched else .ok (s, rest)
    | some name =>
      match count, pending.find? (·.name = name) with
      | count + 1, some field =>
        let rest ← colon rest
        let (s, rest) ← field.read s rest
        members (pending.filter (·.name ≠ name)) count false s rest
      | _, _ => .error .mismatched

end Field

namespace Reader

def record {σ : Type} (start : σ) (fields : List (Field σ)) : Reader σ := fun t =>
  match skipSpace t with
  | '[' :: rest => Field.elements fields true start rest
  | '{' :: rest => Field.members fields fields.length true start rest
  | rest => .error (wrongKind rest)

def document {α : Type} (read : Reader α) (t : Text) : Except Fault α := do
  let (a, rest) ← read t
  if (skipSpace rest).isEmpty then .ok a else .error .malformed

end Reader

end Json

end Asymptote
