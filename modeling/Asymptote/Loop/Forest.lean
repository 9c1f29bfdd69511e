import Asymptote.Loop.Basic

/-! # The loops of a snippet
Loops are detected line by line, nested in each other and marked where they do amortized work. -/
namespace Asymptote

open Pattern CharClass

/-! ## Motion
How a line of code moves a variable: a step up or down by one, a midpoint, or a fresh value that
does not derive from the old one. -/

namespace Motion

/-- A variable is set to the half of a sum or a difference: `mid = (lo + hi) / 2`. -/
def midpoint : Pattern :=
  edge ++ word ++ ws ++ opt ":" ++ "=" ++ ws ++ any (except "=;") ++ one inWord ++ ws ++
    one "+-" ++ ws ++ any (except "=;") ++
    anyOf ["/" ++ ws ++ "2" ++ edge, "//" ++ ws ++ "2" ++ edge,
      ">>" ++ opt ">" ++ ws ++ "1" ++ edge]

def halving : Pattern :=
  edge ++ group 1 word ++ ws ++ opt ":" ++ "=" ++ ws ++ any (except "=;") ++
    anyOf ["/" ++ ws ++ "2" ++ edge, ">>" ++ opt ">" ++ ws ++ "1" ++ edge]

def stepUp : Pattern :=
  anyOf [edge ++ group 1 word ++ spaced "+=" ++ "1" ++ edge, edge ++ group 2 word ++ ws ++ "++",
    "++" ++ ws ++ group 3 word ++ edge,
    edge ++ group 4 word ++ spaced "=" ++ group 5 word ++ spaced "+" ++ "1" ++ edge]

def stepDown : Pattern :=
  anyOf [edge ++ group 1 word ++ spaced "-=" ++ "1" ++ edge, edge ++ group 2 word ++ ws ++ "--",
    "--" ++ ws ++ group 3 word ++ edge,
    edge ++ group 4 word ++ spaced "=" ++ group 5 word ++ spaced "-" ++ "1" ++ edge]

def isMidpoint (line : Text) : Bool :=
  midpoint.occursIn line

def midpointName? (line : Text) : Option Text :=
  (halving.find? line).bind (·.group? 1)

/-- The variable that a step moves. A spelled-out step counts if both sides name the same. -/
def steppedName? (m : Match) : Option Text :=
  match m.group? 1 <|> m.group? 2 <|> m.group? 3 with
  | some name => some name
  | none =>
    match m.group? 4, m.group? 5 with
    | some a, some b => if a = b then some a else none
    | _, _ => none

def advanced (line : Text) : List Text :=
  (stepUp.findAll line).filterMap steppedName?

def retreated (line : Text) : List Text :=
  (stepDown.findAll line).filterMap steppedName?

def assignment : Pattern :=
  textStart ++ ws ++
    many (anyOf ["int", "long", "let", "var", "auto", "const", "size_t", "usize", "mut"] ++ ws1) ++
    group 1 word ++ ws ++ opt (":" ++ ws ++ word ++ ws) ++ "=" ++ ws ++
    group 2 (one (except "=") ++ lineRest) ++ textEnd

def pairAssignment : Pattern :=
  textStart ++ ws ++ group 1 word ++ spaced "," ++ group 2 word ++ spaced "=" ++
    group 3 (some1 (except "=,")) ++ "," ++ ws ++ group 4 (some1 (except "=")) ++ textEnd

/-- A decimal numeral with an optional sign whose value fits into 64 bits. -/
def isInteger (t : Text) : Bool :=
  let (negative, numeral) :=
    match t with
    | '-' :: rest => (true, rest)
    | '+' :: rest => (false, rest)
    | rest => (false, rest)
  let value := numeral.foldl (fun n c => 10 * n + (c.toNat - '0'.toNat)) 0
  !numeral.isEmpty && numeral.all Char.isDigit && value < Nat.pow 2 63 + (if negative then 1 else 0)

def mentionsWord (expression name : Text) : Bool :=
  ((whole word).findAll expression).any fun m => m.text = name

/-- The value does not derive from the variable itself: it is a number, or an expression over one of
the loop variables. -/
def isFresh (name : Text) (loopVariables : List Text) (value : Text) : Bool :=
  let value := Text.trim (Text.dropEndWhile (· = ';') (Text.trim value))
  !mentionsWord value name &&
    (isInteger value || loopVariables.any fun v => mentionsWord value v)

/-- The line assigns `name` a fresh value. The assignment of one variable goes before that of two;
of several values in the first, only the one before the first comma counts. -/
def assignsFresh (line name : Text) (loopVariables : List Text) : Bool :=
  let fresh := isFresh name loopVariables
  let pair : Bool :=
    match pairAssignment.find? line with
    | none => false
    | some m =>
      if m.group 1 = name then fresh (m.group 3)
      else if m.group 2 = name then fresh (m.group 4)
      else false
  match assignment.find? line with
  | some m => if m.group 1 = name then fresh ((m.group 2).takeWhile (· ≠ ',')) else pair
  | none => pair

end Motion

/-! ## Amortized inner loops
An inner loop does linear work over the whole of its outer loop if it only drains what the outer
loop has put on a stack or queue, or only advances the trailing edge of a window that the outer loop
never sets back. -/

namespace Loop

open Motion

def stackLike : Pattern :=
  caseless (anyOf [
    edge ++ wordRest ++ anyOf ["stack", "stk", "mono", "deque", "queue"] ++ wordRest ++ edge,
    whole (anyOf ["st", "dq", "q"])])

def peek : Pattern :=
  anyOf [
    "[" ++ spaced "-" ++ "1" ++ ws ++ "]", subscript "0",
    "." ++ call (anyOf ["peek", "top", "last", "back", "peekLast", "peekFirst", "getLast", "front",
      "first"]),
    "len(" ++ ws ++ word ++ spaced ")" ++ "-" ++ spaced "1" ++ "]",
    ".length" ++ spaced "-" ++ "1" ++ ws ++ "]", ".size()" ++ spaced "-" ++ "1"]

def removal : Pattern :=
  anyOf [
    "." ++ call (anyOf ["pop", "pop_back", "popBack", "pollLast", "pollFirst", "removeLast",
      "removeFirst", "popleft", "pop_front", "shift"]),
    "=" ++ ws ++ word ++ "[" ++ spaced ":" ++ "len(" ++ ws ++ word ++ spaced ")" ++ "-" ++
      spaced "1" ++ "]"]

def wholeLines (s : Snippet) (l : Loop) : List Text :=
  (l.line :: l.body).map s.line

def isStackDrain (s : Snippet) (l : Loop) : Bool :=
  stackLike.occursIn l.condition && peek.occursIn l.condition &&
    (wholeLines s l).any removal.occursIn

def trailingNames : List Text :=
  ["left", "l", "lo", "low", "start", "begin", "slow", "tail", "head", "i", "j", "p", "ptr",
    "windowstart", "winstart"].map String.toList

def resets (s : Snippet) (outer inner : Loop) (name : Text) : Bool :=
  outer.body.any fun number =>
    !(inner.line ≤ number && number ≤ inner.last) &&
      assignsFresh (s.line number) name outer.counter?.toList

def isWindowShrink (s : Snippet) (inner outer : Loop) : Bool :=
  (Text.sortedSet ((wholeLines s inner).flatMap advanced)).any fun name =>
    trailingNames.contains (Text.replace "_" [] (Text.lowercase name)) &&
      outer.counter? ≠ some name && !resets s outer inner name

def amortization? (s : Snippet) (inner outer : Loop) : Option Amortization :=
  if inner.kind ≠ .whileLoop then none
  else if isStackDrain s inner then some .stackDrain
  else if isWindowShrink s inner outer then some .windowShrink
  else none

def meeting : Pattern :=
  edge ++ group 1 (one nameStart ++ wordRest) ++ ws ++ "<" ++ opt "=" ++ ws ++
    group 2 (one nameStart ++ wordRest) ++ edge

def isConverging (s : Snippet) (l : Loop) : Bool :=
  (l.kind = .whileLoop || l.kind = .forLoop) &&
    match meeting.find? l.condition with
    | none => false
    | some m =>
      let low := m.group 1
      let high := m.group 2
      let body := l.body.map s.line
      low ≠ high && (body.any fun t => (advanced t).contains low) &&
        (body.any fun t => (retreated t).contains high) && !body.any isMidpoint

/-- Some loop body gives one of the names a fresh value, where the variables of all the loops around
the line count. -/
def pointerResets (s : Snippet) (loops : List Loop) (names : List Text) : Bool :=
  loops.any fun l => l.body.any fun number =>
    let counters := (loops.filter (·.holdsLine number)).filterMap (·.counter?)
    names.any fun name => assignsFresh (s.line number) name counters

/-! ## Detecting loops
The loop-like constructs of a snippet in the order of lines: loops with a keyword, comprehensions,
and calls that run through a collection. -/

def keywordHead : Pattern :=
  textStart ++ opt ("\x7d" ++ ws) ++ opt (word ++ spaced ":") ++
    group 1 (anyOf ["for", "foreach", "while", "until", "loop", "do"]) ++ edge ++
    group 2 lineRest ++ textEnd

/-- The loop that a trimmed line begins by keyword. A for without a colon continues a comprehension
where headers end in one; a condition behind a closing brace, or one that ends the line, only closes
a loop. -/
def keywordKind? (l : Language) (text : Text) : Option LoopKind :=
  match keywordHead.find? text with
  | none => none
  | some m =>
    let keyword := m.group 1
    if keyword = "for".toList || keyword = "foreach".toList then
      if l = .python && !text.elem ':' then some .comprehension else some .forLoop
    else if keyword = "while".toList || keyword = "until".toList then
      if Text.startsWith text "\x7d" || (Text.endsWith text ";" && !text.elem '\x7b') then none
      else some .whileLoop
    else
      let rest := part m 2
      if rest.isEmpty || Text.startsWith rest "\x7b" || Text.startsWith rest "do" then
        some .unbounded
      else none

def iterationCall : Pattern :=
  anyOf [
    "." ++ anyOf ["forEach", "map", "filter", "reduce", "reduceRight", "flatMap", "each",
      "each_with_index", "each_char", "times", "for_each", "fold", "some", "every", "indexOf",
      "includes"] ++ edge ++ ws ++ anyOf [one "(\x7b", "do" ++ edge],
    "." ++ anyOf ["each", "times"] ++ ws ++ textEnd,
    edge ++ "repeat" ++ spaced "(" ++ word ++ spaced ")" ++ "\x7b"]

def openingDo : Pattern :=
  whole "do" ++ ws ++ opt ("|" ++ any (except "|") ++ "|") ++ ws ++ textEnd

def make (s : Snippet) (kind : LoopKind) (first last column : Nat) (text : Text) : Loop :=
  let header := readHeader kind text
  let body := (List.range' (first + 1) (last - first)).map s.line
  let updates := if last = first then [s.line first] else body
  { kind, last, column
    line := first
    counter? := header.counter?
    condition := header.condition
    bounds := header.bounds
    growth := header.growth updates
    exitsEarly := (kind = .forLoop || kind = .whileLoop) && exitsFirst s first last header }

def keywordLoops (s : Snippet) (number : Nat) (text : Text) : List Loop :=
  match keywordKind? s.language text with
  | none => []
  | some kind =>
    let last := if kind = .comprehension then number else s.blockEnd number
    [make s kind number last 0 text]

def comprehensions (s : Snippet) (number column : Nat) (text : Text) : List Loop :=
  if s.language = .python then
    (List.range' column ((whole "for").count text - column)).map fun c =>
      make s .comprehension number number c text
  else []

/-- The iteration calls of a line. They share one body if the line opens a block. -/
def iterations (s : Snippet) (number : Nat) (line : Snippet.Line) (text : Text) : List Loop :=
  let opens := line.depth < line.depthAfter || openingDo.occursIn text
  let last := if opens then s.blockEnd number else number
  (List.range (iterationCall.count text)).map fun c => make s .iteration number last c text

/-- The loops that start on a line. Iteration calls count only on a line without other loops. -/
def ofLine (s : Snippet) (number : Nat) (line : Snippet.Line) : List Loop :=
  if line.isBlank then []
  else
    let text := Text.trim line.text
    let keyword := keywordLoops s number text
    let named := keyword ++ comprehensions s number keyword.length text
    if named.isEmpty then iterations s number line text else named

def detect (s : Snippet) : List Loop :=
  s.lines.zipIdx.flatMap fun (line, number) => ofLine s number line

end Loop

/-! ## The loop forest
Every loop of a snippet with the loop that directly surrounds it. Depth counts the loops around, and
credited depth only those that are not amortized. -/

structure NestedLoop extends Loop where
  parent? : Option Nat
  /-- One more than the number of loops around. -/
  depth : Nat
  amortization? : Option Amortization
  /-- The depth without the amortized loops. -/
  creditedDepth : Nat
  deriving DecidableEq, Repr

abbrev LoopForest := List NestedLoop

namespace LoopForest

def parentAmong? (earlier : LoopForest) (l : Loop) : Option Nat :=
  (earlier.zipIdx.reverse.find? fun (outer, _) => outer.holds l).map (·.2)

def nest (s : Snippet) (earlier : LoopForest) (l : Loop) : NestedLoop :=
  let parent := parentAmong? earlier l
  match parent.bind (earlier[·]?) with
  | none =>
    { l with parent? := none, depth := 1, amortization? := none, creditedDepth := 1 }
  | some outer =>
    let amortization := Loop.amortization? s l outer.toLoop
    { l with
      parent? := parent
      depth := outer.depth + 1
      amortization? := amortization
      creditedDepth := outer.creditedDepth + if amortization.isNone then 1 else 0 }

def grow (s : Snippet) (loops : List Loop) : LoopForest :=
  loops.foldl (fun earlier l => earlier ++ [nest s earlier l]) []

def ofSnippet (s : Snippet) : LoopForest :=
  grow s (Loop.detect s)

variable (f : LoopForest)

def loops : List Loop :=
  f.map (·.toLoop)

def maxDepth : Nat :=
  (f.map (·.depth)).foldl max 0

def maxCreditedDepth : Nat :=
  (f.map (·.creditedDepth)).foldl max 0

def inLoop (number : Nat) : Bool :=
  f.any (·.holdsLine number)

def hasChild (index : Nat) : Bool :=
  f.any fun l => l.parent? = some index

/-- The loop at an index and the loops around it, from the inside out. A parent stands before its
child, so `fuel` above the index is enough. -/
def chainFrom : Nat → Nat → List NestedLoop
  | 0, _ => []
  | fuel + 1, index =>
    match f[index]? with
    | none => []
    | some l =>
      match l.parent? with
      | none => [l]
      | some parent => l :: chainFrom fuel parent

def chain (index : Nat) : List NestedLoop :=
  chainFrom f (index + 1) index

end LoopForest

/-! ## Loop summary
The figures about the loops of a snippet that the time rules use. The growth of the summary is that
of the heaviest chain among the deepest loops. -/

structure LoopSummary where
  /-- The loops of credited depth one that are not amortized. -/
  singleLoops : Nat := 0
  /-- The loops of greater credited depth that are not amortized. -/
  nestedLoops : Nat := 0
  maxNestingDepth : Nat := 0
  growth : LoopGrowth := .linear
  bounds : List Text := []
  exitsEarly : Bool := false
  totalLoops : Nat := 0
  deriving DecidableEq, Repr

namespace LoopGrowth

def weight : LoopGrowth → Nat
  | linear => 3
  | sqrt => 2
  | logarithmic => 1

end LoopGrowth

namespace LoopForest

variable (f : LoopForest)

def chainGrowths (index : Nat) : List LoopGrowth :=
  ((chain f index).filter (·.amortization?.isNone)).map (·.growth)

def heaviest : List (List LoopGrowth) → List LoopGrowth
  | [] => []
  | first :: others =>
    let weight (gs : List LoopGrowth) : Nat := gs.foldl (fun n g => n + g.weight) 0
    others.foldl (fun best gs => if weight best < weight gs then gs else best) first

/-- The growth that the heaviest chain shows, the slowest that occurs in it. -/
def dominantGrowth : LoopGrowth :=
  let deepest := f.zipIdx.filter fun (l, _) =>
    l.creditedDepth = maxCreditedDepth f && l.amortization?.isNone
  let growths := heaviest (deepest.map fun (_, index) => chainGrowths f index)
  if growths.contains .logarithmic then .logarithmic
  else if growths.contains .sqrt then .sqrt
  else .linear

def isKeywordLoop (l : NestedLoop) : Bool :=
  l.kind ≠ .iteration && l.kind ≠ .comprehension

def summary : LoopSummary :=
  let counted := f.filter (·.amortization?.isNone)
  { singleLoops := (counted.filter (·.creditedDepth = 1)).length
    nestedLoops := (counted.filter (2 ≤ ·.creditedDepth)).length
    maxNestingDepth := maxCreditedDepth f
    growth := dominantGrowth f
    bounds := Text.sortedSet (f.flatMap (·.bounds))
    exitsEarly := !f.isEmpty && f.all fun l => isKeywordLoop l && l.exitsEarly
    totalLoops := f.length }

end LoopForest

end Asymptote
