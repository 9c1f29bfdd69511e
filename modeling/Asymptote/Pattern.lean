import Asymptote.Text.Basic

/-! # Patterns
A pattern says what a stretch of text looks like. Matching tries alternatives in their order and
repetitions from the longest on (or the shortest, where a run is lazy), so the first way to match
decides. The matcher `match?` goes by recursion on the pattern and hands every way to match to a
continuation, which may refuse it. -/
namespace Asymptote

structure CharClass where
  has : Char → Bool

namespace CharClass

def among (s : String) : CharClass :=
  let cs := s.toList
  ⟨fun c => cs.elem c⟩

instance : Coe String CharClass := ⟨among⟩
instance : Union CharClass := ⟨fun a b => ⟨fun c => a.has c || b.has c⟩⟩

def compl (a : CharClass) : CharClass :=
  ⟨fun c => !a.has c⟩

def except (s : String) : CharClass :=
  compl (among s)

def inWord : CharClass := ⟨Text.isWord⟩

def decimal : CharClass := ⟨Text.isDecimal⟩

def blank : CharClass := ⟨Text.isBlank⟩

def nameStart : CharClass := ⟨fun c => c.isAlpha || c == '_'⟩

def inLine : CharClass := ⟨fun c => c != '\n'⟩

/-- The characters that are the same letter as `c` when case does not count. Beside the ASCII pairs
there are two: the long s and the Kelvin sign. -/
def sameLetter (c : Char) : List Char :=
  if c = 'ſ' then [c, 's', 'S']
  else if c = Char.ofNat 0x212a then [c, 'k', 'K']
  else [c, c.toLower, c.toUpper]

def caseless (a : CharClass) : CharClass :=
  ⟨fun c => (sameLetter c).any a.has⟩

end CharClass

inductive Pattern where
  | empty
  | one (among : CharClass)
  | run (among : CharClass) (lazy : Bool)
  | textStart
  | textEnd
  /-- A place between a character of a word and one that is not, or a word and an end. -/
  | edge
  | seq (p q : Pattern)
  | either (p q : Pattern)
  | many (p : Pattern)
  | group (number : Nat) (p : Pattern)

structure Cursor where
  previous : Option Char
  ahead : Text
  index : Nat

namespace Cursor

def start (t : Text) : Cursor := ⟨none, t, 0⟩

def atEdge (cur : Cursor) : Bool :=
  cur.previous.any Text.isWord != cur.ahead.head?.any Text.isWord

def upTo (cur later : Cursor) : Text :=
  cur.ahead.take (later.index - cur.index)

end Cursor

/-- The texts kept so far, the latest first. -/
abbrev Groups := List (Nat × Text)

namespace Pattern

variable {α : Type}

abbrev Continuation (α : Type) := Cursor → Groups → Option α

def longestRun (among : CharClass) (k : Continuation α) (groups : Groups) :
    Option Char → Nat → Text → Option α
  | previous, index, [] => k ⟨previous, [], index⟩ groups
  | previous, index, c :: rest =>
    if among.has c then
      match longestRun among k groups (some c) (index + 1) rest with
      | some a => some a
      | none => k ⟨previous, c :: rest, index⟩ groups
    else k ⟨previous, c :: rest, index⟩ groups

def shortestRun (among : CharClass) (k : Continuation α) (groups : Groups) :
    Option Char → Nat → Text → Option α
  | previous, index, [] => k ⟨previous, [], index⟩ groups
  | previous, index, c :: rest =>
    match k ⟨previous, c :: rest, index⟩ groups with
    | some a => some a
    | none =>
      if among.has c then shortestRun among k groups (some c) (index + 1) rest else none

/-- The most repetitions of a step after which the rest matches. A repetition that stays in place is
none; so there are never more than the characters ahead, which bound the recursion. -/
def mostRepetitions (step : Continuation α → Continuation α) (k : Continuation α) :
    Text → Continuation α
  | [], cur, groups => k cur groups
  | _ :: bound, cur, groups =>
    let again : Continuation α := fun cur' groups' =>
      if cur'.index = cur.index then none else mostRepetitions step k bound cur' groups'
    match step again cur groups with
    | some a => some a
    | none => k cur groups

/-- Matches from a place on and gives every way to do so, in order of preference, to the
continuation until it accepts one. -/
def match? : Pattern → Continuation α → Continuation α
  | empty, k, cur, groups => k cur groups
  | one among, k, cur, groups =>
    match cur.ahead with
    | [] => none
    | c :: rest => if among.has c then k ⟨some c, rest, cur.index + 1⟩ groups else none
  | run among lazy, k, cur, groups =>
    if lazy then shortestRun among k groups cur.previous cur.index cur.ahead
    else longestRun among k groups cur.previous cur.index cur.ahead
  | textStart, k, cur, groups => if cur.index = 0 then k cur groups else none
  | textEnd, k, cur, groups => if cur.ahead.isEmpty then k cur groups else none
  | edge, k, cur, groups => if cur.atEdge then k cur groups else none
  | seq p q, k, cur, groups => match? p (fun cur' groups' => match? q k cur' groups') cur groups
  | either p q, k, cur, groups =>
    match match? p k cur groups with
    | some a => some a
    | none => match? q k cur groups
  | many p, k, cur, groups =>
    mostRepetitions (fun k' cur' groups' => match? p k' cur' groups') k cur.ahead cur groups
  | group number p, k, cur, groups =>
    match? p (fun cur' groups' => k cur' ((number, cur.upTo cur') :: groups')) cur groups

end Pattern

/-! ## Searching for patterns
The leftmost match of a pattern, and all matches from left to right without overlap. -/

structure Match where
  start : Cursor
  stop : Cursor
  groups : Groups

namespace Match

def text (m : Match) : Text :=
  m.start.upTo m.stop

def group? (m : Match) (number : Nat) : Option Text :=
  m.groups.lookup number

/-- The text kept under a number; a group that took no part counts as empty. -/
def group (m : Match) (number : Nat) : Text :=
  (m.group? number).getD []

def after (m : Match) : Text :=
  m.stop.ahead

end Match

namespace Pattern

def at? (p : Pattern) (cur : Cursor) : Option Match :=
  p.match? (fun stop groups => some ⟨cur, stop, groups⟩) cur []

def from? (p : Pattern) : Option Char → Nat → Text → Option Match
  | previous, index, [] => p.at? ⟨previous, [], index⟩
  | previous, index, c :: rest =>
    match p.at? ⟨previous, c :: rest, index⟩ with
    | some m => some m
    | none => from? p (some c) (index + 1) rest

def find? (p : Pattern) (t : Text) : Option Match :=
  p.from? none 0 t

def occursIn (p : Pattern) (t : Text) : Bool :=
  (p.find? t).isSome

/-- All matches from a place on, each searched behind the one before. An empty match counts only
where no match has just ended, and the search then goes on one character further; so there is at
most one round for each of `fuel` characters and one for the end. -/
def allFrom (p : Pattern) : Nat → Cursor → Option Nat → List Match
  | 0, _, _ => []
  | fuel + 1, cur, lastStop =>
    match p.from? cur.previous cur.index cur.ahead with
    | none => []
    | some m =>
      if m.stop.index = m.start.index then
        let others :=
          match m.stop.ahead with
          | [] => []
          | c :: rest => allFrom p fuel ⟨some c, rest, m.stop.index + 1⟩ (some m.stop.index)
        if lastStop = some m.stop.index then others else m :: others
      else m :: allFrom p fuel m.stop (some m.stop.index)

def findAll (p : Pattern) (t : Text) : List Match :=
  p.allFrom (t.length + 1) (Cursor.start t) none

def count (p : Pattern) (t : Text) : Nat :=
  (p.findAll t).length

end Pattern

/-! ## Ways to write patterns
A string stands for itself, `++` for one pattern after another. The usual ingredients of source code
have names: blanks, words, digits, operators with blanks around them. -/

namespace Pattern

def literal (s : String) : Pattern :=
  s.toList.foldr (fun c p => seq (one ⟨(· == c)⟩) p) empty

instance : Coe String Pattern := ⟨literal⟩
instance : Append Pattern := ⟨seq⟩

def opt (p : Pattern) : Pattern :=
  either p empty

def anyOf : List Pattern → Pattern
  | [] => empty
  | [p] => p
  | p :: ps => either p (anyOf ps)

def any (among : CharClass) : Pattern :=
  run among false

def some1 (among : CharClass) : Pattern :=
  one among ++ run among false

def few1 (among : CharClass) : Pattern :=
  one among ++ run among true

def ws : Pattern := any .blank

def ws1 : Pattern := some1 .blank

def word : Pattern := some1 .inWord

def wordRest : Pattern := any .inWord

def lineRest : Pattern := any .inLine

def digits : Pattern := some1 .decimal

def identifier : Pattern := edge ++ one .nameStart ++ wordRest ++ edge

def spaced (p : Pattern) : Pattern := ws ++ p ++ ws

def whole (p : Pattern) : Pattern := edge ++ p ++ edge

def wordWith (p : Pattern) : Pattern := edge ++ p ++ wordRest ++ edge

def call (p : Pattern) : Pattern := p ++ ws ++ "("

def subscript (p : Pattern) : Pattern := "[" ++ spaced p ++ "]"

def notMember : Pattern := either textStart (one (CharClass.compl (.inWord ∪ ".")))

def caseless : Pattern → Pattern
  | empty => empty
  | one among => one among.caseless
  | run among lazy => run among.caseless lazy
  | textStart => textStart
  | textEnd => textEnd
  | edge => edge
  | seq p q => seq (caseless p) (caseless q)
  | either p q => either (caseless p) (caseless q)
  | many p => many (caseless p)
  | group number p => group number (caseless p)

end Pattern

end Asymptote
