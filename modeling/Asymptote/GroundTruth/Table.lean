import Asymptote.Feature.Structures
import Asymptote.Verdict.Basic

/-! # Ground truth
Known complexities of well-known problems, and how a snippet finds the problem that it solves. -/
namespace Asymptote.GroundTruth

/-! ## Titles and fingerprint tokens
Problems are recognized by their title, in a form that ignores numbering, case and punctuation, or
by the tokens of a solution: the keys of its identifiers and marks of its shape. -/

namespace Title

def isSeparator (c : Char) : Bool :=
  c = '.' || c = ')' || c = ':' || c = '-' || Text.isBlank c

/-- The title without the digits of a leading number. A number that runs into the title without a
separator is part of it. -/
def withoutNumber (title : Text) : Text :=
  let rest := title.dropWhile Char.isDigit
  if rest.length ≠ title.length && rest.head?.any isSeparator then rest else title

def normalize (title : Text) : Text :=
  ((withoutNumber (Text.trimStart title)).filter Text.isAlphanumeric).flatMap Text.lowerChar

end Title

namespace Token

def everyday : List Text :=
  ["i", "j", "k", "n", "m", "x", "left", "right", "lo", "hi", "low", "high", "mid", "target",
    "prev", "curr", "cur", "current", "head", "tail", "node", "root", "max", "min", "count",
    "result", "res", "ans", "dp", "memo", "seen", "path", "start", "end", "key", "val", "value",
    "index", "idx", "total", "temp", "tmp", "nums", "arr", "visited", "depth"].map String.toList

def isSalient (t : Text) : Bool :=
  t.head? ≠ some '#' && !everyday.contains t

def ofWritten (t : Text) : Text :=
  match t with
  | '#' :: shape => '#' :: Text.lowercase shape
  | _ => Snippet.nameKey t

open Pattern CharClass in
def sortCall : Pattern :=
  anyOf [
    edge ++ call "sorted", call ".sort", edge ++ call "sort", whole "Arrays.sort",
    ".sort_unstable" ++ wordRest ++ ws ++ "("]

def shapes (s : Snippet) : List (Bool × String) :=
  let f := LoopForest.ofSnippet s
  let structures := StructureFeatures.detect s (LiteralContainers.detect s)
  [(!f.isEmpty, "#loop"),
    (2 ≤ LoopForest.maxDepth f, "#nested"),
    (s.functions.any fun g => !(s.selfCalls g).isEmpty, "#recursion"),
    (structures.hashMap, "#hashmap"),
    (structures.hashSet, "#hashset"),
    (structures.heap, "#heap"),
    (structures.stack, "#stack"),
    (structures.queue, "#queue"),
    (structures.linkedList, "#linkedlist"),
    (structures.tree, "#tree"),
    (structures.graph, "#graph"),
    (s.shows sortCall, "#sort")]

def fingerprint (s : Snippet) : List Text :=
  Text.sortedSet (s.identifiers ++ ((shapes s).filter (·.1)).map fun shape => shape.2.toList)

end Token

/-! ## Ground truth entries
What is known about the approaches to one problem. An entry starts as a draft of free text and is
accepted by `EntryDraft.accept` if every class can be read, the optimal approach is there, no slower
approach is cheaper than a faster one, and the fingerprint can tell the problem from others. -/

structure Known where
  time : Complexity
  space : Complexity
  algorithm : String
  reason? : Option String := none
  deriving DecidableEq, Repr

namespace Known

def cheaper (a b : Known) : Bool :=
  a.time < b.time || (a.time = b.time && a.space < b.space)

def costText (a : Known) : String :=
  a.time.canonical ++ "/" ++ a.space.canonical

def explanation (a : Known) : String :=
  a.reason?.getD a.algorithm

end Known

structure Entry where
  id : String
  /-- Normalized titles. -/
  titles : List Text
  /-- Tokens, ascending. -/
  fingerprint : List Text
  bruteForce : Option Known := none
  better : Option Known := none
  optimal : Known
  /-- There is something to gain between brute force and optimal. -/
  hasLadder : Bool := true
  note : String := ""
  deriving DecidableEq, Repr

namespace Entry

def approaches (e : Entry) : Triple Known :=
  ⟨e.bruteForce, e.better, some e.optimal⟩

/-- The first of the approaches whose time is nearest to a class, where the faster of two equally
near ones goes first. -/
def nearest (time : Complexity) (best : Approach × Known) :
    List (Approach × Known) → Approach × Known
  | [] => best
  | a :: others =>
    let key (k : Known) : Nat × Nat := (k.time.distance time, k.time.rank)
    let closer :=
      (key a.2).1 < (key best.2).1 ||
        ((key a.2).1 = (key best.2).1 && (key a.2).2 < (key best.2).2)
    nearest time (if closer then a else best) others

def closest (e : Entry) (time : Complexity) : Approach × Known :=
  match e.approaches.toList with
  | [] => (.optimal, e.optimal)
  | first :: others => nearest time first others

end Entry

structure ApproachDraft where
  time : String := ""
  space : String := ""
  algorithm : String := ""
  reason? : Option String := none
  deriving DecidableEq, Repr

structure EntryDraft where
  id : String := ""
  titles : List String := []
  fingerprint : List String := []
  bruteForce : Option ApproachDraft := none
  better : Option ApproachDraft := none
  optimal : Option ApproachDraft := none
  hasLadder : Bool := true
  note : String := ""
  deriving DecidableEq, Repr

inductive EntryFault where
  | invalidComplexity (id : String) (approach : Approach) (field : String) (cause : UnknownNotation)
  | duplicateId (id : String)
  | missingOptimal (id : String)
  | genericFingerprint (id : String)
  | ladderViolation (id : String)
  | ordering (id : String) (slower : Approach) (slowerCost : Known) (faster : Approach)
      (fasterCost : Known)

namespace EntryFault

def quote (s : String) : String :=
  String.ofList (Text.quoted s.toList)

def message : EntryFault → String
  | invalidComplexity id approach field _ =>
    "entry " ++ quote id ++ ": " ++ approach.name ++ " " ++ field ++ " complexity is invalid"
  | duplicateId id => "duplicate entry id " ++ quote id
  | missingOptimal id => "entry " ++ quote id ++ " has no optimal approach"
  | genericFingerprint id => "entry " ++ quote id ++ " fingerprint has only generic tokens"
  | ladderViolation id =>
    "entry " ++ quote id ++ " declares a better approach without an optimization ladder"
  | ordering id slower slowerCost faster fasterCost =>
    "entry " ++ quote id ++ ": " ++ slower.name ++ " (" ++ slowerCost.costText ++
      ") must not be cheaper than " ++ faster.name ++ " (" ++ fasterCost.costText ++ ")"

end EntryFault

def ApproachDraft.accept (id : String) (slot : Approach) (a : ApproachDraft) :
    Except EntryFault Known :=
  match Complexity.read a.time.toList with
  | .error e => .error (.invalidComplexity id slot "time" e)
  | .ok time =>
    match Complexity.read a.space.toList with
    | .error e => .error (.invalidComplexity id slot "space" e)
    | .ok space => .ok ⟨time, space, a.algorithm, a.reason?⟩

def acceptOptional (id : String) (slot : Approach) :
    Option ApproachDraft → Except EntryFault (Option Known)
  | none => .ok none
  | some a => (a.accept id slot).map some

def inversion? : List (Approach × Known) → Option ((Approach × Known) × (Approach × Known))
  | slower :: faster :: others =>
    if slower.2.cheaper faster.2 then some (slower, faster) else inversion? (faster :: others)
  | _ => none

def Entry.check (e : Entry) : Except EntryFault Entry :=
  if e.better.isSome && !e.hasLadder then .error (.ladderViolation e.id)
  else
    match inversion? e.approaches.toList with
    | some (slower, faster) => .error (.ordering e.id slower.1 slower.2 faster.1 faster.2)
    | none =>
      if !e.fingerprint.isEmpty && !e.fingerprint.any Token.isSalient then
        .error (.genericFingerprint e.id)
      else .ok e

namespace EntryDraft

/-- The tokens of a fingerprint: a mark of shape is lowered, any other token is an identifier.
Tokens without content are left out. -/
def tokens (d : EntryDraft) : List Text :=
  Text.sortedSet ((d.fingerprint.map fun t => Token.ofWritten t.toList).filter fun t =>
    !t.isEmpty && t ≠ ['#'])

def entry (d : EntryDraft) (bruteForce better : Option Known) (optimal : Known) : Entry where
  id := d.id
  titles := (d.titles.map fun t => Title.normalize t.toList).filter (!·.isEmpty)
  fingerprint := d.tokens
  bruteForce := bruteForce
  better := better
  optimal := optimal
  hasLadder := d.hasLadder
  note := d.note

/-- Checks a draft. The causes of refusal are found in the order in which the code names them. -/
def accept (d : EntryDraft) : Except EntryFault Entry := do
  let bruteForce ← acceptOptional d.id .bruteForce d.bruteForce
  let better ← acceptOptional d.id .better d.better
  let optimal? ← acceptOptional d.id .optimal d.optimal
  match optimal? with
  | none => .error (.missingOptimal d.id)
  | some optimal => (d.entry bruteForce better optimal).check

end EntryDraft

/-! ## The ground truth table
Accepted entries with pairwise distinct ids. A lookup tries the title first and then the
fingerprint: the entry wins of whose tokens the snippet shows the greatest share, if that reaches a
threshold and one of the shared tokens is salient. -/

structure Table where
  entries : List Entry := []
  deriving DecidableEq, Repr

inductive MatchKind where
  | title
  | fingerprint
  deriving DecidableEq, Repr

def MatchKind.name : MatchKind → String
  | title => "title"
  | fingerprint => "fingerprint"

structure Finding where
  entry : Entry
  kind : MatchKind
  confidence : Float
  deriving Repr

namespace Table

def get? (t : Table) (id : String) : Option Entry :=
  t.entries.find? (·.id = id)

def push (t : Table) (e : Entry) : Except EntryFault Table :=
  if (t.get? e.id).isSome then .error (.duplicateId e.id) else .ok ⟨t.entries ++ [e]⟩

def pushDrafts (t : Table) : List EntryDraft → Except EntryFault Table
  | [] => .ok t
  | d :: others => do
    let e ← d.accept
    let t ← t.push e
    pushDrafts t others

def ofDrafts (drafts : List EntryDraft) : Except EntryFault Table :=
  pushDrafts {} drafts

def merged (t extra : Table) : Except EntryFault Table :=
  extra.entries.foldlM push t

def byTitle? (t : Table) (title : Text) : Option Entry :=
  let key := Title.normalize title
  if key.isEmpty then none else t.entries.find? fun e => e.titles.contains key

def hits (tokens : List Text) (e : Entry) : List Text :=
  e.fingerprint.filter tokens.contains

def overlap (tokens : List Text) (e : Entry) : Float :=
  Float.ofNat (hits tokens e).length / Float.ofNat e.fingerprint.length

def isEligible (tokens : List Text) (threshold : Float) (e : Entry) : Bool :=
  (hits tokens e).any Token.isSalient && threshold ≤ overlap tokens e

def greatestOverlap (tokens : List Text) : List Entry → Option Entry
  | [] => none
  | first :: others =>
    some (others.foldl (fun best e =>
      if overlap tokens best < overlap tokens e then e else best) first)

def byFingerprint? (t : Table) (tokens : List Text) (threshold : Float) : Option Entry :=
  greatestOverlap tokens (t.entries.filter (isEligible tokens threshold))

def lookup? (t : Table) (s : Snippet) (title : Option Text) (threshold : Float) : Option Finding :=
  match title.bind t.byTitle? with
  | some entry => some ⟨entry, .title, 1.0⟩
  | none =>
    if s.isEmpty then none
    else
      (t.byFingerprint? (Token.fingerprint s) threshold).map fun entry =>
        ⟨entry, .fingerprint, 0.95⟩

end Table
end Asymptote.GroundTruth
