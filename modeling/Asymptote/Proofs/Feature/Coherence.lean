import Asymptote.Feature.Algorithms
import Asymptote.Proofs.Loop.Forest

/-! # Features that fit together
The recognizers work apart from each other, and the rules rely on how their flags go together: what
is said of a loop is said of the snippet too, a table has its dimensions, a nest of loops has two
loops, and recursion is a function that calls itself. -/
namespace Asymptote
open Snippet

namespace RecursiveFunction

variable {s : Snippet} {g : Snippet.Function} {r : RecursiveFunction} {rs : List RecursiveFunction}

theorem of?_eq_none_iff : of? s g = none ↔ s.selfCalls g = [] := by
  simp [of?]

theorem branching_pos_of_mem_of? (h : r ∈ of? s g) : 1 ≤ r.branching := by
  simp only [of?, Option.mem_def, Option.ite_none_left_eq_some, Option.some.injEq] at h
  obtain ⟨hsites, rfl⟩ := h
  split
  · exact Nat.le_refl 1
  · exact List.length_pos_iff.mpr (by simpa using hsites)

theorem mem_of_mostCalls (h : mostCalls rs = some r) : r ∈ rs := by
  cases rs with
  | nil => cases h
  | cons first others =>
    cases h
    exact foldl_mem_of_choice first others fun best r => (ite_eq_or_eq _ r best).symm

theorem mostCalls_eq_none_iff : mostCalls rs = none ↔ rs = [] := by
  cases rs <;> simp [mostCalls]

theorem find?_eq_none_iff : find? s = none ↔ ∀ g ∈ s.functions, s.selfCalls g = [] := by
  simp only [find?, mostCalls_eq_none_iff, List.filterMap_eq_nil_iff, of?_eq_none_iff]

theorem branching_pos (h : find? s = some r) : 1 ≤ r.branching := by
  obtain ⟨g, _, hr⟩ := List.mem_filterMap.mp (mem_of_mostCalls h)
  exact branching_pos_of_mem_of? hr

theorem getD_branching_pos_iff :
    1 ≤ ((find? s).map (·.branching)).getD 0 ↔ ∃ g ∈ s.functions, s.selfCalls g ≠ [] := by
  cases h : find? s with
  | none =>
    have hnone := find?_eq_none_iff.mp h
    simpa using hnone
  | some r =>
    have hsome : ¬ ∀ g ∈ s.functions, s.selfCalls g = [] := by
      rw [← find?_eq_none_iff, h]
      simp
    simpa [branching_pos h] using hsome

end RecursiveFunction

namespace AlgorithmFeatures

variable (s : Snippet) (f : LoopForest) (structures : StructureFeatures)

theorem recursion_detect_iff :
    (detect s f structures).1.recursion = true ↔ 1 ≤ (detect s f structures).2.branching :=
  decide_eq_true_iff

theorem branching_detect_iff :
    1 ≤ (detect s f structures).2.branching ↔ ∃ g ∈ s.functions, s.selfCalls g ≠ [] :=
  RecursiveFunction.getD_branching_pos_iff

theorem recursion_of_recursionInLoop (h : (detect s f structures).1.recursionInLoop = true) :
    (detect s f structures).1.recursion = true := by
  obtain ⟨r, hr, _⟩ := (Option.any_eq_true _ _).mp h
  rw [recursion_detect_iff]
  have hbranching : (detect s f structures).2.branching = r.branching :=
    congrArg (fun recursive => (recursive.map (·.branching)).getD 0) hr
  rw [hbranching]
  exact RecursiveFunction.branching_pos hr

theorem sorting_of_sortInLoop (h : (detect s f structures).1.sortInLoop = true) :
    (detect s f structures).1.sorting = true := by
  obtain ⟨number, hnumber, _⟩ := List.any_eq_true.mp h
  exact Bool.not_eq_true' _ |>.mpr (List.isEmpty_eq_false_iff_exists_mem.mpr ⟨number, hnumber⟩)

theorem searching_of_searchingInLoop {recursive : Option RecursiveFunction}
    (h : (binarySearching s f recursive).2 = true) : (binarySearching s f recursive).1 = true := by
  revert h
  rw [binarySearching.eq_def]
  split
  · exact fun _ => rfl
  · dsimp only
    split
    · exact fun _ => rfl
    · split
      · exact id
      · split
        · exact fun _ => rfl
        · exact id

theorem branching_of_divideConquer (h : (detect s f structures).1.divideConquer = true) :
    2 ≤ (detect s f structures).2.branching ∧ (detect s f structures).1.backtracking = false := by
  obtain ⟨h, hback⟩ := Bool.and_eq_true_iff.mp h
  obtain ⟨h, _⟩ := Bool.and_eq_true_iff.mp h
  obtain ⟨_, hbranching⟩ := Bool.and_eq_true_iff.mp h
  exact ⟨of_decide_eq_true hbranching, (Bool.not_eq_true' _).mp hback⟩

theorem dimensions_detect :
    (detect s f structures).2.dpDimensions =
      if (detect s f structures).1.dp || (detect s f structures).1.memoization then
        if isTwoDimensional s then 2 else 1
      else 0 :=
  rfl

theorem dimensions_detect_le : (detect s f structures).2.dpDimensions ≤ 2 := by
  rw [dimensions_detect]
  split_ifs <;> omega

theorem dimensions_detect_eq_zero_iff :
    (detect s f structures).2.dpDimensions = 0 ↔
      (detect s f structures).1.dp = false ∧ (detect s f structures).1.memoization = false := by
  rw [dimensions_detect, ← Bool.or_eq_false_iff]
  cases (detect s f structures).1.dp || (detect s f structures).1.memoization with
  | false => exact ⟨fun _ => rfl, fun _ => rfl⟩
  | true => cases isTwoDimensional s <;> simp

theorem two_le_length_of_isSieve {f : LoopForest} (hf : f.Nested) (h : isSieve s f = true) :
    2 ≤ f.length := by
  rw [isSieve, Bool.or_eq_true] at h
  rcases h with h | h
  · obtain ⟨l, hl, hsquare⟩ := List.any_eq_true.mp h
    refine hf.two_le_length hl (Option.isSome_iff_ne_none.mpr fun hparent => ?_)
    simp [startsAtSquare, hparent] at hsquare
  · obtain ⟨l, hl, hdepth⟩ :=
      LoopForest.exists_mem_of_lt_maxDepth (of_decide_eq_true (Bool.and_eq_true_iff.mp h).2)
    exact hf.two_le_length hl (hf.parent_of_depth hl hdepth)

theorem two_le_length_of_monotonicStack {f : LoopForest} (hf : f.Nested)
    (h : (detect s f structures).1.monotonicStack = true) : 2 ≤ f.length := by
  obtain ⟨l, hl, hdrain⟩ := List.any_eq_true.mp h
  have hamortized : l.amortization? ≠ none := by
    rw [of_decide_eq_true hdrain]
    simp
  exact hf.two_le_length hl (hf.parent_of_amortized hl hamortized)

end AlgorithmFeatures

theorem PointerFeatures.twoPointers_detect (s : Snippet) (f : LoopForest)
    (h : (detect s f).slidingWindow = true ∨ (detect s f).leftRight = true ∨
      (detect s f).slowFast = true) : (detect s f).twoPointers = true := by
  have htwo : (detect s f).twoPointers = ((detect s f).leftRight || _ || (detect s f).slowFast ||
      (detect s f).slidingWindow) := rfl
  rw [htwo]
  rcases h with h | h | h <;> simp [h]

theorem SpaceUsage.of_stringConcatInLoop (s : Snippet) (f : LoopForest)
    (structures : StructureFeatures) (literals : LiteralContainers)
    (h : (detect s f structures literals).stringConcatInLoop = true) :
    1 ≤ f.length ∧ structures.stringBuilder = false := by
  obtain ⟨h, hgrows⟩ := Bool.and_eq_true_iff.mp h
  obtain ⟨hbuilder, _⟩ := Bool.and_eq_true_iff.mp h
  obtain ⟨⟨line, number⟩, _, hline⟩ := List.any_eq_true.mp (Bool.and_eq_true_iff.mp hgrows).2
  obtain ⟨l, hl, _⟩ := List.any_eq_true.mp (Bool.and_eq_true_iff.mp hline).1
  exact ⟨List.length_pos_of_mem hl, (Bool.not_eq_true' _).mp hbuilder⟩

namespace FeatureSet

structure Coherent (f : FeatureSet) : Prop where
  recursion : f.algorithms.recursion = true ↔ 1 ≤ f.metrics.recursionBranching
  recursionInLoop : f.algorithms.recursionInLoop = true → f.algorithms.recursion = true
  sortInLoop : f.algorithms.sortInLoop = true → f.algorithms.sorting = true
  binarySearchInLoop : f.algorithms.binarySearchInLoop = true → f.algorithms.binarySearch = true
  divideConquer : f.algorithms.divideConquer = true →
    2 ≤ f.metrics.recursionBranching ∧ f.algorithms.backtracking = false
  dimensions_le : f.metrics.dpDimensions ≤ 2
  dimensions_eq_zero : f.metrics.dpDimensions = 0 ↔
    f.algorithms.dp = false ∧ f.algorithms.memoization = false
  twoPointers : f.pointers.slidingWindow = true ∨ f.pointers.leftRight = true ∨
    f.pointers.slowFast = true → f.pointers.twoPointers = true
  sieve : f.algorithms.sieve = true → 2 ≤ f.loops.totalLoops
  monotonicStack : f.algorithms.monotonicStack = true → 2 ≤ f.loops.totalLoops
  stringConcatInLoop : f.space.stringConcatInLoop = true →
    1 ≤ f.loops.totalLoops ∧ f.structures.stringBuilder = false
  depth_eq_zero : f.loops.maxNestingDepth = 0 ↔ f.loops.totalLoops = 0

theorem recursion_ofSnippet_iff (s : Snippet) :
    (ofSnippet s).algorithms.recursion = true ↔ ∃ g ∈ s.functions, s.selfCalls g ≠ [] :=
  (AlgorithmFeatures.recursion_detect_iff s _ _).trans
    (AlgorithmFeatures.branching_detect_iff s _ _)

theorem depth_ofSnippet_eq_zero_iff (s : Snippet) :
    (ofSnippet s).loops.maxNestingDepth = 0 ↔ LoopForest.ofSnippet s = [] :=
  LoopForest.maxCreditedDepth_eq_zero_iff (LoopForest.nested_ofSnippet s)

/-- The features of every snippet fit together, and recursion is a function of the snippet that
calls itself. -/
theorem coherent_ofSnippet (s : Snippet) :
    (ofSnippet s).Coherent ∧
      ((ofSnippet s).algorithms.recursion = true ↔ ∃ g ∈ s.functions, s.selfCalls g ≠ []) := by
  let f := LoopForest.ofSnippet s
  let structures := StructureFeatures.detect s (LiteralContainers.detect s)
  have hnested : f.Nested := LoopForest.nested_ofSnippet s
  refine ⟨?_, recursion_ofSnippet_iff s⟩
  exact
    { recursion := AlgorithmFeatures.recursion_detect_iff s f structures
      recursionInLoop := AlgorithmFeatures.recursion_of_recursionInLoop s f structures
      sortInLoop := AlgorithmFeatures.sorting_of_sortInLoop s f structures
      binarySearchInLoop := AlgorithmFeatures.searching_of_searchingInLoop s f
      divideConquer := AlgorithmFeatures.branching_of_divideConquer s f structures
      dimensions_le := AlgorithmFeatures.dimensions_detect_le s f structures
      dimensions_eq_zero := AlgorithmFeatures.dimensions_detect_eq_zero_iff s f structures
      twoPointers := PointerFeatures.twoPointers_detect s f
      sieve := AlgorithmFeatures.two_le_length_of_isSieve s hnested
      monotonicStack := AlgorithmFeatures.two_le_length_of_monotonicStack s structures hnested
      stringConcatInLoop := SpaceUsage.of_stringConcatInLoop s f structures _
      depth_eq_zero := (depth_ofSnippet_eq_zero_iff s).trans List.length_eq_zero_iff.symm }

end FeatureSet
end Asymptote
