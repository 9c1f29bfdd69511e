import Asymptote.Complexity
import Asymptote.Feature.Basic

/-! # Time rules
Each recognized feature proposes candidates for the time class. Specific algorithm families have
priority over generic evidence such as loop depth: if any of them proposes something, only their
candidates compete. The highest competing candidate wins, the earliest of equal ones. -/
namespace Asymptote

inductive CandidateSource where
  | earlyExit
  | enumerationInLoop
  | sortInLoop
  | stringConcatInLoop
  | sieve
  | divideConquer
  | graphTraversal
  | binarySearch
  | monotonicStack
  | slidingWindow
  | heap
  | sorting
  | backtracking
  | recursionInLoop
  | treeRecursion
  | recursion
  | gcd
  | loops
  | hashUsage
  | twoPointers
  | dynamicProgramming
  deriving DecidableEq, Repr

namespace CandidateSource

def all : List CandidateSource :=
  [earlyExit, enumerationInLoop, sortInLoop, stringConcatInLoop, sieve, divideConquer,
    graphTraversal, binarySearch, monotonicStack, slidingWindow, heap, sorting, backtracking,
    recursionInLoop, treeRecursion, recursion, gcd, loops, hashUsage, twoPointers,
    dynamicProgramming]

def name : CandidateSource → String
  | earlyExit => "early_exit"
  | enumerationInLoop => "enumeration_in_loop"
  | sortInLoop => "sort_in_loop"
  | stringConcatInLoop => "string_concat_in_loop"
  | sieve => "sieve"
  | divideConquer => "divide_conquer"
  | graphTraversal => "graph_traversal"
  | binarySearch => "binary_search"
  | monotonicStack => "monotonic_stack"
  | slidingWindow => "sliding_window"
  | heap => "heap"
  | sorting => "sorting"
  | backtracking => "backtracking"
  | recursionInLoop => "recursion_in_loop"
  | treeRecursion => "tree_recursion"
  | recursion => "recursion"
  | gcd => "gcd"
  | loops => "loops"
  | hashUsage => "hash_usage"
  | twoPointers => "two_pointers"
  | dynamicProgramming => "dynamic_programming"

def hasPriority : CandidateSource → Bool
  | recursionInLoop | treeRecursion | recursion | gcd | loops | hashUsage | twoPointers
  | dynamicProgramming => false
  | _ => true

end CandidateSource

structure Candidate where
  source : CandidateSource
  complexity : Complexity
  explanation : String
  deriving DecidableEq, Repr

namespace Candidate

def highest : List Candidate → Option Candidate
  | [] => none
  | first :: others =>
    some (others.foldl (fun best c => if best.complexity < c.complexity then c else best) first)

/-- The highest candidate with priority or, if none has it, the highest of all. -/
def select (candidates : List Candidate) : Option Candidate :=
  let priority := candidates.filter (·.source.hasPriority)
  if priority.isEmpty then highest candidates else highest priority

end Candidate

structure TimeVerdict where
  complexity : Complexity
  explanation : String
  source? : Option CandidateSource
  candidates : List Candidate
  deriving DecidableEq, Repr

namespace FeatureSet

def propose (applies : Bool) (candidate : Candidate) : List Candidate :=
  if applies then [candidate] else []

variable (f : FeatureSet)

def hasLoops : Bool :=
  0 < f.loops.totalLoops

def ofRecursionInLoop : List Candidate :=
  if !f.algorithms.recursionInLoop then []
  else if !f.algorithms.backtracking then
    [⟨.recursionInLoop, .quadratic, "recursive call inside a loop"⟩]
  else if f.algorithms.isPermutation then
    [⟨.enumerationInLoop, .factorial, "recursion from a loop enumerates every permutation"⟩]
  else if 2 ≤ f.metrics.recursionBranching then
    [⟨.enumerationInLoop, .linearExponential,
      "branching recursion from a loop enumerates every subset"⟩]
  else [⟨.enumerationInLoop, .quadratic, "recursion from a loop over the remaining choices"⟩]

def ofSortInLoop : List Candidate :=
  propose f.algorithms.sortInLoop
    ⟨.sortInLoop, .quadraticLog, "sort called once per loop iteration"⟩

def ofStringConcat : List Candidate :=
  propose f.space.stringConcatInLoop
    ⟨.stringConcatInLoop, .quadratic, "immutable string rebuilt on every iteration"⟩

def ofSieve : List Candidate :=
  propose f.algorithms.sieve
    ⟨.sieve, .linearLogLog, "sieve marks multiples starting at each prime's square"⟩

def ofDivideConquer : List Candidate :=
  if !f.algorithms.divideConquer then []
  else if f.hasLoops || f.space.hiddenAllocations || 0 < f.space.auxArrays then
    [⟨.divideConquer, .linearLog, "halving recursion with a linear combine step"⟩]
  else [⟨.divideConquer, .linear, "halving recursion with constant combine work"⟩]

def ofTraversal : List Candidate :=
  if !(f.algorithms.bfs || f.algorithms.dfs) then []
  else if f.structures.graph then
    [⟨.graphTraversal, .graph, "graph traversal visits each vertex and edge once"⟩]
  else [⟨.graphTraversal, .linear, "traversal visits each node once"⟩]

def ofBinarySearch : List Candidate :=
  if !f.algorithms.binarySearch then []
  else if f.algorithms.binarySearchInLoop then
    [⟨.binarySearch, .linearLog, "binary search repeated inside a loop"⟩]
  else [⟨.binarySearch, .log, "search range halves every step"⟩]

def ofMonotonicStack : List Candidate :=
  propose f.algorithms.monotonicStack
    ⟨.monotonicStack, .linear, "each element is pushed and popped at most once"⟩

def ofSlidingWindow : List Candidate :=
  propose (f.pointers.slidingWindow && f.pointers.forwardOnly)
    ⟨.slidingWindow, .linear, "window edges only move forward"⟩

def ofHeap : List Candidate :=
  if !f.structures.heap then []
  else if f.hasLoops then
    [⟨.heap, .linearLog, "logarithmic heap operations inside a loop"⟩]
  else if f.algorithms.heapify then
    [⟨.heap, .linear, "heapify builds the heap bottom-up in linear time"⟩]
  else [⟨.heap, .log, "single heap operation"⟩]

def ofSorting : List Candidate :=
  propose f.algorithms.sorting ⟨.sorting, .linearLog, "comparison sort"⟩

def ofBacktracking : List Candidate :=
  if !f.algorithms.backtracking then []
  else if f.algorithms.isPermutation then
    [⟨.backtracking, .factorial, "backtracking over permutations"⟩]
  else if f.algorithms.accumulatesResults then
    [⟨.backtracking, .linearExponential, "backtracking copies every subset into the output"⟩]
  else
    [⟨.backtracking, .exponential, "backtracking explores every include/exclude choice"⟩]

def euclid : Candidate :=
  ⟨.gcd, .log, "Euclid's algorithm shrinks its arguments geometrically"⟩

def ofRecursion : List Candidate :=
  if 2 ≤ f.metrics.recursionBranching then
    [⟨.treeRecursion, .exponential, "each call branches into several recursive calls"⟩]
  else if !f.algorithms.recursion then []
  else if f.algorithms.gcd then [euclid]
  else if f.metrics.recursionArguments = .divide then
    [⟨.recursion, .log, "single recursive call on half the input"⟩]
  else [⟨.recursion, .linear, "single recursive call on a slightly smaller input"⟩]

def loopClass (depth : Nat) : LoopGrowth → Complexity × String
  | .linear =>
    (Complexity.polynomial depth,
      match depth with
      | 1 => "single loop over the input"
      | 2 => "two nested loops over the input"
      | _ => "three or more nested loops over the input")
  | .logarithmic =>
    match depth with
    | 1 => (.log, "loop variable grows or shrinks geometrically")
    | 2 => (.linearLog, "geometric loop nested in a linear loop")
    | 3 => (.quadraticLog, "geometric loop nested in two linear loops")
    | _ => (.cubic, "deeply nested loops")
  | .sqrt =>
    match depth with
    | 1 => (.sqrt, "loop runs up to the square root of n")
    | _ => (Complexity.polynomial depth, "nested loops over the input")

def ofLoops : List Candidate :=
  if 0 < f.loops.maxNestingDepth then
    let (complexity, explanation) := loopClass f.loops.maxNestingDepth f.loops.growth
    [⟨.loops, complexity, explanation⟩]
  else propose f.algorithms.gcd euclid

def ofHashing : List Candidate :=
  if !(f.structures.hashMap || f.structures.hashSet) then []
  else if f.hasLoops then
    [⟨.hashUsage, .linear, "constant-time hash lookups inside a single pass"⟩]
  else [⟨.hashUsage, .constant, "constant-time hash lookups"⟩]

def ofTwoPointers : List Candidate :=
  propose (f.pointers.twoPointers && !f.pointers.slidingWindow)
    ⟨.twoPointers, .linear, "pointers walk the input once"⟩

def ofDynamicProgramming : List Candidate :=
  if !(f.algorithms.dp || f.algorithms.memoization) then []
  else if 2 ≤ f.metrics.dpDimensions then
    [⟨.dynamicProgramming, .quadratic, "two-dimensional state table"⟩]
  else [⟨.dynamicProgramming, .linear, "one state per input position"⟩]

/-- All candidates in the order of the rules. Loops that leave at once, without recursion, leave
nothing else to consider. -/
def candidates : List Candidate :=
  if f.loops.exitsEarly && !f.algorithms.recursion then
    [⟨.earlyExit, .constant, "every loop exits on its first iteration"⟩]
  else
    ofRecursionInLoop f ++ ofSortInLoop f ++ ofStringConcat f ++ ofSieve f ++ ofDivideConquer f ++
      ofTraversal f ++ ofBinarySearch f ++ ofMonotonicStack f ++ ofSlidingWindow f ++ ofHeap f ++
      ofSorting f ++ ofBacktracking f ++ ofRecursion f ++ ofLoops f ++ ofHashing f ++
      ofTwoPointers f ++ ofDynamicProgramming f

def time : TimeVerdict :=
  match Candidate.select f.candidates with
  | some c => ⟨c.complexity, c.explanation, some c.source, f.candidates⟩
  | none =>
    { complexity := .constant
      explanation :=
        if f.isFeatureless then "nothing recognizable in the snippet"
        else "no loops, recursion or library work detected"
      source? := none
      candidates := f.candidates }

end FeatureSet
end Asymptote
