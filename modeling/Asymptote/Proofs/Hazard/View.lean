import Asymptote.Proofs.Feature.Algorithms
import Mathlib.Data.List.Find

/-! # Hazards around a blank line
A recognizer asks for names, patterns, structures, the nesting of loops and the calls of recursive
functions. None of these changes when a blank line is added, so that but for the sieve every
recognizer answers as before. -/
namespace Asymptote
open Snippet Pattern

namespace HazardView

structure Interlined (k : Nat) (v v' : HazardView) : Prop where
  snippet : Snippet.Interlined k v.snippet v'.snippet
  forest : v'.forest = v.forest.map (NestedLoop.pushed k)
  structures : v'.structures = v.structures

theorem interlined_ofSnippet {k : Nat} {s s' : Snippet} (h : Snippet.Interlined k s s') :
    Interlined k (ofSnippet s) (ofSnippet s') where
  snippet := h
  forest := LoopForest.ofSnippet_widened h.toWidened
  structures := by
    rw [ofSnippet, ofSnippet, LiteralContainers.detect_interlined h,
      StructureFeatures.detect_interlined h]

variable {k : Nat} {v v' : HazardView} (h : v.Interlined k v')
include h

/-! ## What recognizers ask for -/

theorem defines_eq (parts : List String) : v'.defines parts = v.defines parts :=
  h.snippet.defines_eq parts

theorem mentions_eq (keys : List String) : v'.mentions keys = v.mentions keys :=
  h.snippet.mentions_eq keys

theorem shows_eq {p : Pattern} (hp : p.Keeps true) : v'.shows p = v.shows p :=
  h.snippet.shows_eq hp

theorem any_findAll_eq {p : Pattern} (hp : p.isSafe true = true) {test : Match → Bool}
    (htest : ∀ {m m' : Match}, m'.group = m.group → test m' = test m) :
    (p.findAll v'.snippet.clean).any test = (p.findAll v.snippet.clean).any test :=
  h.snippet.any_findAll_eq (keeps_of_isSafe hp) fun hsame => htest (funext hsame.group_eq)

theorem depth_eq : v'.depth = v.depth := by
  rw [depth, h.forest, LoopForest.maxDepth_pushed, depth]

theorem hasLoops_eq : v'.hasLoops = v.hasLoops := by
  rw [hasLoops, h.forest, List.isEmpty_map, hasLoops]

theorem any_forest_eq {test : NestedLoop → Bool} (htest : ∀ l, test (l.pushed k) = test l) :
    v'.forest.any test = v.forest.any test := by
  rw [h.forest, LoopForest.any_pushed _ htest]

theorem recursiveCalls?_pushed (parts : List String) :
    v'.recursiveCalls? parts = (v.recursiveCalls? parts).map (List.map (CallSite.pushed k)) := by
  have hcalls : v'.snippet.selfCalls ∘ Function.pushed k =
      List.map (CallSite.pushed k) ∘ v.snippet.selfCalls := funext h.snippet.selfCalls_pushed
  have hempty : ((fun sites => !List.isEmpty sites) ∘ List.map (CallSite.pushed k)) =
      fun sites => !List.isEmpty sites := by
    funext sites
    simp only [Function.comp, List.isEmpty_map]
  rw [recursiveCalls?, recursiveCalls?, h.snippet.functions, List.filter_map, List.map_map, hcalls,
    ← List.map_map, List.find?_map, hempty]
  rfl

theorem recurses_eq : v'.recurses = v.recurses :=
  h.snippet.any_functions_eq fun f => by rw [h.snippet.selfCalls_pushed, List.isEmpty_map]

theorem branches_eq (test : Text → Bool) : v'.branches test = v.branches test := by
  apply h.snippet.any_functions_eq
  intro f
  simp only [h.snippet.selfCalls_pushed, RecursiveFunction.returnsExclusively_pushed
    h.snippet.toWidened, List.length_map, List.any_map]
  rfl

theorem sorts_eq : v'.sorts = v.sorts :=
  shows_eq h (keeps_of_isSafe rfl)

theorem memoizes_eq : v'.memoizes = v.memoizes :=
  shows_eq h (keeps_of_isSafe rfl)

/-! ## Recognizers with a question of their own -/

theorem hasScanInside_eq (count : Nat) : v'.hasScanInside count = v.hasScanInside count := by
  rw [hasScanInside, hasScanInside, h.forest, List.zipIdx_map, List.any_map]
  refine congrArg _ (funext fun ⟨l, index⟩ => ?_)
  simp only [Function.comp, Prod.map_apply, id, LoopForest.chain_pushed, ← List.map_drop,
    List.filter_map, List.length_map]
  rfl

theorem resetsLower_eq : v'.resetsLower = v.resetsLower := by
  have hloops : LoopForest.loops v'.forest = (LoopForest.loops v.forest).map (Loop.pushed k) := by
    rw [h.forest, LoopForest.loops, LoopForest.loops, List.map_map, List.map_map]
    rfl
  rw [resetsLower, hloops, Loop.pointerResets_pushed h.snippet.toWidened, resetsLower]

theorem searchesRecursively_pushed (f : Snippet.Function) :
    v'.searchesRecursively (f.pushed k) = v.searchesRecursively f := by
  have hwidened := h.snippet.toWidened
  have hlines : Padded ((List.range' f.line (f.last + 1 - f.line)).map v.snippet.line)
      ((List.range' (f.pushed k).line ((f.pushed k).last + 1 - (f.pushed k).line)).map
        v'.snippet.line) := hwidened.padded (renumbers_from k f.line f.last)
  have hloops : (v'.forest.any fun l => (f.pushed k).line ≤ l.line && l.line ≤ (f.pushed k).last) =
      v.forest.any fun l => f.line ≤ l.line && l.line ≤ f.last := by
    rw [h.forest]
    apply LoopForest.any_pushed
    intro l
    have hline : (l.pushed k).line = Snippet.pushed k l.line := rfl
    simp only [hline, Snippet.Function.pushed_line, Snippet.Function.pushed_last, pushed_le_pushed]
  simp only [searchesRecursively, hwidened.selfCalls_pushed, hloops,
    RecursiveFunction.returnsExclusively_pushed hwidened, List.isEmpty_map, List.length_map,
    hlines.any_eq Loop.not_isMidpoint_nil,
    hlines.filterMap_eq RecursiveFunction.midpointName?_nil]
  rw [@List.any_map _ _ (CallSite.pushed k)]
  rfl

theorem isBinarySearchIterative_eq : v'.isBinarySearchIterative = v.isBinarySearchIterative := by
  rw [isBinarySearchIterative, isBinarySearchIterative, h.forest]
  rcases v.forest with _ | ⟨l, _ | _⟩
  · rfl
  · have hbody := (h.snippet.padded (Loop.renumbers_body k l.toLoop)).any_eq Loop.not_isMidpoint_nil
    simp only [List.map_cons, List.map_nil, recurses_eq h, sorts_eq h]
    exact congrArg _ hbody
  · rfl

theorem isFactorialRecursive_eq : v'.isFactorialRecursive = v.isFactorialRecursive := by
  rw [isFactorialRecursive, isFactorialRecursive, recursiveCalls?_pushed h]
  rcases v.recursiveCalls? ["factorial", "fact"] with _ | _ | ⟨site, _ | _⟩ <;> rfl

theorem isBinarySearchRecursive_eq : v'.isBinarySearchRecursive = v.isBinarySearchRecursive :=
  h.snippet.any_functions_eq (searchesRecursively_pushed h)

/-! ## Families -/

def recurrences : List (HazardView → Bool) :=
  [isNQueens, isGenerateParentheses, isPermutations, isSubsets, isTowerOfHanoi, isFibonacciMemo,
    isFibonacciNaive, isFibonacciIterative, isFactorialRecursive, isFastPowerRecursive,
    isFastPowerIterative, isGcdRecursive, isGcdIterative]

def sortings : List (HazardView → Bool) :=
  [isQuickselect, isMergeSort, isQuickSort, isHeapSort, isCountingSort, isRadixSort, isBucketSort,
    isBubbleSort, isInsertionSort, isSelectionSort]

def scans : List (HazardView → Bool) :=
  [isFourSum, isThreeSum, isTwoSumHash, isBinarySearchRecursive, isBinarySearchIterative, isKadane,
    isBoyerMooreVote, isDutchNationalFlag, isFloydCycle, isReverseLinkedList]

def graphs : List (HazardView → Bool) :=
  [isDijkstra, isHeapTopK, isBellmanFord, isFloydWarshall, isTopologicalSort, isUnionFind]

def sequences : List (HazardView → Bool) :=
  [isKmp, isRabinKarp, isZFunction, isManacher, isMatrixMultiplication, isPrefixSum,
    isTreeTraversal, isLevelOrder, isKernighanBitCount, isCounterComparison, isValidParentheses,
    isTrie, isLruCache]

theorem recurrences_eq : ∀ recognizes ∈ recurrences, recognizes v' = recognizes v := by
  have hremainder := h.snippet.elem_eq (c := '%') rfl
  simp (disch := exact keeps_of_isSafe rfl) only [recurrences, List.forall_mem_cons, isNQueens,
    isGenerateParentheses, isPermutations, isSubsets, isTowerOfHanoi, isFibonacciMemo,
    isFibonacciNaive, isFibonacciIterative, isFactorialRecursive_eq h, isFastPowerRecursive,
    isFastPowerIterative, isGcdRecursive, isGcdIterative, defines_eq h, mentions_eq h, shows_eq h,
    hasLoops_eq h, recurses_eq h, memoizes_eq h, hremainder, recursiveCalls?_pushed h,
    Option.any_map, Option.isSome_map, Option.isNone_map, List.any_map, List.length_map,
    Function.comp_def, CallSite.pushed_arguments]
  simp

theorem isPrimeTrialDivision_eq : v'.isPrimeTrialDivision = v.isPrimeTrialDivision := by
  have hroot : (v'.forest.any fun l => l.growth = .sqrt) =
      v.forest.any fun l => l.growth = .sqrt := any_forest_eq h fun _ => rfl
  rw [isPrimeTrialDivision, isPrimeTrialDivision, defines_eq h, hasLoops_eq h, depth_eq h, hroot]

theorem sortings_eq : ∀ recognizes ∈ sortings, recognizes v' = recognizes v := by
  have hneighbours : v'.comparesNeighbours = v.comparesNeighbours :=
    any_findAll_eq h rfl fun hgroup => by rw [hgroup]
  simp only [sortings, List.forall_mem_cons, isQuickselect, isMergeSort, isQuickSort, isHeapSort,
    isCountingSort, isRadixSort, isBucketSort, isBubbleSort, isInsertionSort, isSelectionSort,
    defines_eq h, mentions_eq h, depth_eq h, branches_eq h,
    AlgorithmFeatures.swaps_eq h.snippet, hneighbours]
  simp

theorem scans_eq : ∀ recognizes ∈ scans, recognizes v' = recognizes v := by
  have hkadane : v'.isKadane = v.isKadane := by
    rw [isKadane, isKadane, any_findAll_eq h rfl, any_findAll_eq h rfl, depth_eq h]
    · exact fun hgroup => by rw [hgroup]
    · exact fun hgroup => by rw [hgroup]
  simp (disch := exact keeps_of_isSafe rfl) only [scans, List.forall_mem_cons, isFourSum,
    isThreeSum, isTwoSumHash, looksUpDifference, isBinarySearchRecursive_eq h,
    isBinarySearchIterative_eq h, hkadane, isBoyerMooreVote, isDutchNationalFlag, isFloydCycle,
    isReverseLinkedList, mentions_eq h, shows_eq h, depth_eq h, sorts_eq h, recurses_eq h,
    hasScanInside_eq h, resetsLower_eq h, h.structures]
  simp

theorem graphs_eq : ∀ recognizes ∈ graphs, recognizes v' = recognizes v := by
  simp (disch := exact keeps_of_isSafe rfl) only [graphs, List.forall_mem_cons, isDijkstra,
    isHeapTopK, isBellmanFord, isFloydWarshall, isTopologicalSort, isUnionFind, defines_eq h,
    mentions_eq h, shows_eq h, depth_eq h, h.structures]
  simp

theorem sequences_eq : ∀ recognizes ∈ sequences, recognizes v' = recognizes v := by
  have hproduct : v'.isMatrixMultiplication = v.isMatrixMultiplication := by
    rw [isMatrixMultiplication, isMatrixMultiplication, depth_eq h, any_findAll_eq h rfl]
    exact fun hgroup => by rw [hgroup]
  have hsum : v'.isPrefixSum = v.isPrefixSum := by
    rw [isPrefixSum, isPrefixSum, depth_eq h, any_findAll_eq h rfl]
    exact fun hgroup => by rw [hgroup]
  have hbits : v'.isKernighanBitCount = v.isKernighanBitCount := by
    rw [isKernighanBitCount, isKernighanBitCount, any_findAll_eq h rfl, any_findAll_eq h rfl]
    · exact fun hgroup => by rw [hgroup]
    · exact fun hgroup => by rw [hgroup]
  simp (disch := exact keeps_of_isSafe rfl) only [sequences, List.forall_mem_cons, isKmp,
    isRabinKarp, isZFunction, isManacher, hproduct, hsum, isTreeTraversal, isLevelOrder, hbits,
    isCounterComparison, isValidParentheses, isTrie, isLruCache, defines_eq h, shows_eq h,
    depth_eq h, recurses_eq h, h.structures]
  simp

end HazardView

namespace Hazard
open HazardView

theorem map_recognizes_table :
    table.map (·.recognizes) =
      recurrences ++ isSieveOfEratosthenes :: isPrimeTrialDivision ::
        (sortings ++ (scans ++ (graphs ++ sequences))) :=
  rfl

theorem recognizes_interlined {k : Nat} {v v' : HazardView} (h : v.Interlined k v')
    (hsieve : v'.isSieveOfEratosthenes = v.isSieveOfEratosthenes) :
    ∀ z ∈ table, z.recognizes v' = z.recognizes v := by
  have hall : ∀ recognizes ∈ table.map (·.recognizes), recognizes v' = recognizes v := by
    rw [map_recognizes_table]
    simp only [List.forall_mem_append, List.forall_mem_cons]
    exact ⟨recurrences_eq h, hsieve, isPrimeTrialDivision_eq h, sortings_eq h, scans_eq h,
      graphs_eq h, sequences_eq h⟩
  intro z hz
  exact hall z.recognizes (List.mem_map_of_mem hz)

theorem find?_interlined {k : Nat} {s s' : Snippet} (h : Snippet.Interlined k s s')
    (hsieve : AlgorithmFeatures.isSieve s' (LoopForest.ofSnippet s') =
      AlgorithmFeatures.isSieve s (LoopForest.ofSnippet s)) (disabled : List String) :
    find? s' disabled = find? s disabled := by
  have hrecognizes := recognizes_interlined (interlined_ofSnippet h) hsieve
  rw [find?, find?, h.isEmpty_eq]
  split
  · rfl
  · exact List.find?_congr fun z hz => by rw [hrecognizes z hz]

end Hazard
end Asymptote
