import Asymptote.Loop.Forest

/-! # Features
What recognizers find in a snippet: the figures and flags from which the time and space rules derive
their verdicts. The default of every field says that nothing was found. -/
namespace Asymptote

structure PointerFeatures where
  twoPointers : Bool := false
  slidingWindow : Bool := false
  leftRight : Bool := false
  slowFast : Bool := false
  forwardOnly : Bool := false
  deriving DecidableEq, Repr

structure StructureFeatures where
  hashMap : Bool := false
  hashSet : Bool := false
  array : Bool := false
  heap : Bool := false
  stack : Bool := false
  queue : Bool := false
  tree : Bool := false
  graph : Bool := false
  linkedList : Bool := false
  trie : Bool := false
  unionFind : Bool := false
  stringBuilder : Bool := false
  deriving DecidableEq, Repr

structure AlgorithmFeatures where
  sorting : Bool := false
  sortInLoop : Bool := false
  binarySearch : Bool := false
  binarySearchInLoop : Bool := false
  recursion : Bool := false
  recursionInLoop : Bool := false
  memoization : Bool := false
  dp : Bool := false
  backtracking : Bool := false
  bfs : Bool := false
  dfs : Bool := false
  divideConquer : Bool := false
  monotonicStack : Bool := false
  sieve : Bool := false
  gcd : Bool := false
  isPermutation : Bool := false
  accumulatesResults : Bool := false
  heapify : Bool := false
  deriving DecidableEq, Repr

structure SpaceUsage where
  auxArrays : Nat := 0
  auxMaps : Nat := 0
  inPlace : Bool := false
  hiddenAllocations : Bool := false
  fixedKeyDomain : Bool := false
  stringConcatInLoop : Bool := false
  deriving DecidableEq, Repr

inductive RecursionArguments where
  | linear
  | divide
  | step
  deriving DecidableEq, Repr, Inhabited

def RecursionArguments.name : RecursionArguments → String
  | linear => "linear"
  | divide => "divide"
  | step => "step"

structure FeatureMetrics where
  recursionBranching : Nat := 0
  dpDimensions : Nat := 0
  recursionArguments : RecursionArguments := .linear
  isAmortized : Bool := false
  dominantPattern? : Option String := none
  deriving DecidableEq, Repr

structure FeatureSet where
  loops : LoopSummary := {}
  pointers : PointerFeatures := {}
  structures : StructureFeatures := {}
  algorithms : AlgorithmFeatures := {}
  space : SpaceUsage := {}
  metrics : FeatureMetrics := {}
  deriving DecidableEq, Repr

namespace FeatureSet

def isFeatureless (f : FeatureSet) : Bool :=
  f.loops.totalLoops = 0 &&
    !(f.pointers.twoPointers || f.pointers.slidingWindow || f.pointers.leftRight ||
      f.pointers.slowFast) &&
    f.structures = {} && f.algorithms = {} && f.space.auxArrays = 0 && f.space.auxMaps = 0 &&
    !f.space.hiddenAllocations

def patterns (f : FeatureSet) : List (Bool × String) :=
  [(f.algorithms.backtracking, "backtracking"),
    (f.algorithms.divideConquer, "divide_and_conquer"),
    (f.algorithms.dp || f.algorithms.memoization, "dynamic_programming"),
    (f.algorithms.sieve, "sieve"),
    (f.algorithms.binarySearch, "binary_search"),
    (f.algorithms.bfs, "bfs"),
    (f.algorithms.dfs, "dfs"),
    (f.algorithms.monotonicStack, "monotonic_stack"),
    (f.pointers.slidingWindow, "sliding_window"),
    (f.pointers.twoPointers, "two_pointers"),
    (f.algorithms.sorting, "sorting"),
    (f.structures.heap, "heap"),
    (f.algorithms.gcd, "gcd"),
    (f.algorithms.recursion, "recursion"),
    (f.structures.hashMap || f.structures.hashSet, "hashing"),
    (2 ≤ f.loops.maxNestingDepth, "nested_loops"),
    (f.loops.maxNestingDepth = 1, "single_loop")]

def leadingPattern? (f : FeatureSet) : Option String :=
  (f.patterns.find? (·.1)).map (·.2)

end FeatureSet

/-! ## Pointer features
Pairs of pointers that move toward each other or at different speeds, and windows. -/

namespace PointerFeatures

open Pattern CharClass Motion

def pointerNames : List String :=
  ["left", "right", "l", "r", "start", "end", "lo", "hi", "slow", "fast", "i", "j"]

def midSubscript : Pattern :=
  subscript "mid"

def doubleStep : Pattern :=
  anyOf [
    edge ++ "fast" ++ spaced "=" ++ "fast.next.next", edge ++ "fast.next.next",
    edge ++ "fast" ++ spaced "+=" ++ "2",
    edge ++ "fast" ++ spaced "=" ++ word ++ "[" ++ ws ++ word ++ "[" ++ spaced "fast" ++ "]" ++
      ws ++ "]",
    edge ++ "fast" ++ spaced "=" ++ "fast.next" ++ edge]

def fixedWindow : Pattern :=
  anyOf [
    word ++ spaced "[" ++ word ++ spaced "-" ++ "k" ++ ws ++ "]",
    caseless (edge ++ "window" ++ wordRest ++ ws ++ anyOf ["+=", "-="])]

/-- The code jumps to midpoints, as a binary search does with the same names of pointers. -/
def jumpsToMidpoint (s : Snippet) : Bool :=
  s.shows midSubscript || s.lines.any fun line => isMidpoint line.text

def detect (s : Snippet) (f : LoopForest) : PointerFeatures :=
  let up (name : String) : Bool := s.lines.any fun line => (advanced line.text).contains name.toList
  let down (name : String) : Bool :=
    s.lines.any fun line => (retreated line.text).contains name.toList
  let searching := jumpsToMidpoint s
  let converging := f.any fun l => l.parent?.isNone && Loop.isConverging s l.toLoop
  let leftRight :=
    !searching && ((up "left" && down "right") || (up "l" && down "r") || converging)
  let startEnd := !searching && up "start" && (down "end" || up "end")
  let slowFast := s.mentions ["slow"] && s.mentions ["fast"] && s.shows doubleStep
  let shrinking := f.any fun l => l.amortization? = some .windowShrink
  let fixed := 1 ≤ LoopForest.maxDepth f && s.shows fixedWindow
  let slidingWindow := !searching && (shrinking || fixed)
  let names := (pointerNames.filter fun name => s.mentions [name]).map String.toList
  { slidingWindow, leftRight, slowFast
    twoPointers := leftRight || startEnd || slowFast || slidingWindow
    forwardOnly := !Loop.pointerResets s (LoopForest.loops f) names }

end PointerFeatures

end Asymptote
