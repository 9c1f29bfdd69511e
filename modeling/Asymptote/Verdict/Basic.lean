import Asymptote.Complexity
import Asymptote.Loop.Forest

/-! # Verdicts
The verdict on one snippet with the trail of the corrections that led to it, and triples of
approaches to one problem. -/
namespace Asymptote

/-- The working memory, and the memory with the output that is produced. -/
structure SpaceMetrics where
  peak : Complexity
  total : Complexity
  deriving DecidableEq, Repr

def SpaceMetrics.flat (space : Complexity) : SpaceMetrics := ⟨space, space⟩

/-- The snippet a correction is about: one on its own or a slot of a triple. -/
inductive Approach where
  | single
  | bruteForce
  | better
  | optimal
  deriving DecidableEq, Repr

def Approach.name : Approach → String
  | single => "single"
  | bruteForce => "brute_force"
  | better => "better"
  | optimal => "optimal"

structure Triple (α : Type) where
  bruteForce : Option α := none
  better : Option α := none
  optimal : Option α := none
  deriving DecidableEq, Repr

namespace Triple

variable {α β : Type} (t : Triple α)

/-- The member of a slot; a snippet on its own counts as optimal. -/
def get? : Approach → Option α
  | .bruteForce => t.bruteForce
  | .better => t.better
  | .optimal | .single => t.optimal

def toList : List (Approach × α) :=
  (t.bruteForce.map ((.bruteForce, ·))).toList ++ (t.better.map ((.better, ·))).toList ++
    (t.optimal.map ((.optimal, ·))).toList

def map (f : Approach → α → β) : Triple β where
  bruteForce := t.bruteForce.map (f .bruteForce)
  better := t.better.map (f .better)
  optimal := t.optimal.map (f .optimal)

def isEmpty : Bool :=
  t.bruteForce.isNone && t.better.isNone && t.optimal.isNone

end Triple

inductive CorrectedField where
  | time
  | space
  | presence
  deriving DecidableEq, Repr

def CorrectedField.name : CorrectedField → String
  | time => "time_complexity"
  | space => "space_complexity"
  | presence => "presence"

structure Correction where
  approach : Approach
  field : CorrectedField
  oldValue : String
  newValue : String
  reason : String
  deriving DecidableEq, Repr

structure Analysis where
  time : Complexity
  timeReason : String
  space : Complexity
  spaceReason : String
  spaceMetrics : SpaceMetrics := SpaceMetrics.flat space
  pattern? : Option String := none
  confidence : Float
  source : String
  corrections : List Correction := []
  deriving Repr

namespace Analysis

def correctTime (a : Analysis) (time : Complexity) (reason : String) : Analysis :=
  { a with
    time
    timeReason := reason
    corrections :=
      a.corrections ++ [⟨.single, .time, a.time.canonical, time.canonical, reason⟩] }

def noting (a : Analysis) (corrections : List Correction) : Analysis :=
  { a with corrections := a.corrections ++ corrections }

end Analysis

/-! ## Amortized verdicts
A loop nest whose depth overstates the work, because an inner pointer or stack only ever moves
forward, has linear time. What is detected is one of five patterns. -/

open Pattern CharClass

structure AmortizedVerdict where
  pattern : String
  time : Complexity
  space : Complexity
  reason : String
  deriving DecidableEq, Repr

namespace AmortizedVerdict

def monotonicQueue : AmortizedVerdict :=
  ⟨"monotonic_queue", .linear, .bounded, "each index enters and leaves the deque at most once"⟩

def monotonicStack : AmortizedVerdict :=
  ⟨"monotonic_stack", .linear, .linear, "each element is pushed and popped at most once"⟩

def hashWindow : AmortizedVerdict :=
  ⟨"hash_window", .linear, .bounded,
    "window edges only advance; the window table holds at most k keys"⟩

def slidingWindow : AmortizedVerdict :=
  ⟨"sliding_window", .linear, .constant, "both window edges only advance"⟩

def twoPointer : AmortizedVerdict :=
  ⟨"two_pointer", .linear, .constant, "two pointers converge; each step moves one of them"⟩

def dequeCondition : Pattern :=
  caseless (anyOf [
    whole "deque", whole "dq", ".popleft(", whole "ArrayDeque", whole "VecDeque", ".pop_front(",
    ".pollFirst("])

def dequeUse : Pattern :=
  caseless (anyOf [whole "deque", ".popleft(", ".pop_front(", ".pollFirst(", ".shift()"])

def hashTable : Pattern :=
  anyOf [
    whole (anyOf ["HashMap", "HashSet", "unordered_map", "unordered_set", "Counter", "defaultdict",
      "dict", "set", "Map", "Set"]),
    edge ++ "map[", word ++ spaced "=" ++ "\x7b" ++ ws ++ "\x7d"]

def hasConvergingLoop (s : Snippet) (f : LoopForest) : Bool :=
  f.zipIdx.any fun (l, index) =>
    l.parent?.isNone && !LoopForest.hasChild f index && Loop.isConverging s l.toLoop

/-- The pattern of a snippet: drains go before windows, windows before converging pointers. -/
def detect? (s : Snippet) (f : LoopForest) : Option AmortizedVerdict :=
  match f.find? fun l => l.amortization? = some .stackDrain with
  | some l =>
    if dequeCondition.occursIn l.condition || s.shows dequeUse then some monotonicQueue
    else some monotonicStack
  | none =>
    if f.any fun l => l.amortization? = some .windowShrink then
      if s.shows hashTable then some hashWindow else some slidingWindow
    else if hasConvergingLoop s f then some twoPointer
    else none

end AmortizedVerdict
end Asymptote
