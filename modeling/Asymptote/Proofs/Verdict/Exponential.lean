import Asymptote.Engine
import Asymptote.Proofs.Verdict.Candidates
import Asymptote.Proofs.Verdict.Clamp

/-! # Exponential verdicts
A time stays exponential through the clamps only for backtracking, or for branching recursion where
no specific family shows. So the clamp that cuts exponential sorts, searches and traversals finds
nothing to cut. -/
namespace Asymptote

theorem CandidateSource.of_isExponential (s : CandidateSource) :
    ∀ c ∈ s.classes, c.isExponential = true →
      s = .enumerationInLoop ∨ s = .backtracking ∨ s = .treeRecursion := by
  cases s <;> decide

namespace FeatureSet

variable {f : FeatureSet}

structure NoFamily (f : FeatureSet) : Prop where
  sorting : f.algorithms.sorting = false
  sortInLoop : f.algorithms.sortInLoop = false
  divideConquer : f.algorithms.divideConquer = false
  binarySearch : f.algorithms.binarySearch = false
  bfs : f.algorithms.bfs = false
  dfs : f.algorithms.dfs = false
  sieve : f.algorithms.sieve = false
  monotonicStack : f.algorithms.monotonicStack = false
  heap : f.structures.heap = false
  stringConcatInLoop : f.space.stringConcatInLoop = false

theorem NoFamily.of_shows (h : ∀ s, s.hasPriority = true → f.shows s = false) : f.NoFamily :=
  have htraversal := Bool.or_eq_false_iff.mp (h .graphTraversal rfl)
  { sorting := h .sorting rfl
    sortInLoop := h .sortInLoop rfl
    divideConquer := h .divideConquer rfl
    binarySearch := h .binarySearch rfl
    bfs := htraversal.1
    dfs := htraversal.2
    sieve := h .sieve rfl
    monotonicStack := h .monotonicStack rfl
    heap := h .heap rfl
    stringConcatInLoop := h .stringConcatInLoop rfl }

theorem justified_of_isExponential (h : f.time.complexity.isExponential = true) :
    f.algorithms.backtracking = true ∨ 2 ≤ f.metrics.recursionBranching ∧ f.NoFamily := by
  have hne : f.time.complexity ≠ .constant := by
    intro hconstant
    rw [hconstant] at h
    cases h
  obtain ⟨c, hselect, hc⟩ := exists_select_of_time rfl hne
  rw [← hc] at h
  have hmem := Candidate.mem_of_select hselect
  have hproposes := proposes_source hmem
  rcases c.source.of_isExponential _ (mem_classes_of_mem_candidates hmem) h with
    hsource | hsource | hsource
  · rw [hsource] at hproposes
    have hshows := (shows_of_proposes (by decide) hproposes).2
    exact .inl (Bool.and_eq_true_iff.mp hshows).2
  · rw [hsource] at hproposes
    exact .inl (shows_of_proposes (by decide) hproposes).2
  · have hpriority : c.source.hasPriority = false := by rw [hsource]; rfl
    rw [hsource] at hproposes
    obtain ⟨hleaves, hshows⟩ := shows_of_proposes (by decide) hproposes
    have hfamily : f.NoFamily :=
      .of_shows fun _ => shows_eq_false_of_select hselect hpriority hleaves
    exact .inr ⟨of_decide_eq_true hshows, hfamily⟩

end FeatureSet

namespace Clamp

variable {f : FeatureSet}

theorem ceilings_eq_nil (h : f.NoFamily) : ceilings f = [] :=
  ceilings_eq_nil_iff.mpr ⟨h.sorting, h.divideConquer, h.binarySearch, h.bfs, h.dfs⟩

theorem check_domainCeiling_time (f : FeatureSet) :
    domainCeiling.check f.time.complexity f = none := by
  cases h : f.time.complexity.isExponential with
  | false => simp [domainCeiling, h]
  | true =>
    rcases FeatureSet.justified_of_isExponential h with hback | ⟨_, hfamily⟩
    · simp [domainCeiling, hback]
    · simp [domainCeiling, ceilings_eq_nil hfamily]

end Clamp

namespace Heuristic
open Clamp (domainCeiling polynomialTable linearWindow)

theorem verify_eq (f : FeatureSet) :
    (ofFeatures f).verify f = [polynomialTable, linearWindow].foldl (Clamp.apply f) (ofFeatures f) :=
  congrArg ([polynomialTable, linearWindow].foldl (Clamp.apply f))
    (Clamp.apply_of_check_eq_none (Clamp.check_domainCeiling_time f))

/-- The verdict of the rules is exponential only with good reason: nothing is memoized, and the
snippet backtracks, or branches in its recursion where no specific family shows. -/
theorem exponential_verdict_justified (f : FeatureSet) :
    let a := ofFeatures f
    (.exponential ≤ (a.verify f).time →
      f.algorithms.dp = false ∧ f.algorithms.memoization = false ∧
        (f.algorithms.backtracking = true ∨ 2 ≤ f.metrics.recursionBranching ∧ f.NoFamily)) ∧
      domainCeiling.check f.time.complexity f = none ∧
      a.verify f = [polynomialTable, linearWindow].foldl (Clamp.apply f) a := by
  intro a
  refine ⟨fun hexponential => ?_, Clamp.check_domainCeiling_time f, verify_eq f⟩
  have h : (a.verify f).time.isExponential = true := decide_eq_true hexponential
  rw [verify_eq f, List.foldl_cons, List.foldl_cons, List.foldl_nil] at h
  have hwindow := Clamp.check_eq_none_of_isExponential (by simp [Clamp.all]) h
  rw [Clamp.apply_of_check_eq_none hwindow] at h
  have htable := Clamp.check_eq_none_of_isExponential (by simp [Clamp.all]) h
  rw [Clamp.apply_of_check_eq_none htable] at h
  obtain ⟨hdp, hmemoization⟩ := Clamp.polynomialTable_eq_none htable h
  exact ⟨hdp, hmemoization, FeatureSet.justified_of_isExponential h⟩

theorem exponential_verdict_justified_branching :
    let f : FeatureSet :=
      { algorithms := { recursion := true }, metrics := { recursionBranching := 2 } }
    .exponential ≤ ((ofFeatures f).verify f).time ∧
      f.algorithms.dp = false ∧ f.algorithms.memoization = false ∧
        (f.algorithms.backtracking = true ∨ 2 ≤ f.metrics.recursionBranching ∧ f.NoFamily) := by
  intro f
  have h : .exponential ≤ ((ofFeatures f).verify f).time := by decide
  exact ⟨h, (exponential_verdict_justified f).1 h⟩

end Heuristic
end Asymptote
