import Asymptote.Proofs.Order
import Asymptote.Verdict.Space
import Mathlib.Order.MinMax

/-! # What the clamps do
Each clamp is opened once: where it fires, the class it gives and the reason. A clamp leaves a
verdict alone or corrects its time, so what both keep, verification keeps. The classes that clamps
set are neither constant nor exponential. -/
namespace Asymptote
namespace Clamp

variable {time c : Complexity} {f : FeatureSet} {reason : String}

theorem domainCeiling_cases (h : domainCeiling.check time f = some (c, reason)) :
    time.isExponential = true ∧ f.algorithms.backtracking = false ∧
      f.algorithms.recursion = true ∧
      (∃ first others, ceilings f = first :: others ∧ c = others.foldl max first) ∧
      reason = "sorting, searching and traversal are never exponential without backtracking" := by
  simp only [domainCeiling, Option.ite_none_left_eq_some, Bool.or_eq_true, Bool.not_eq_true',
    not_or, Bool.not_eq_false, Bool.not_eq_true] at h
  obtain ⟨⟨⟨htime, hback⟩, hrecursion⟩, h⟩ := h
  cases hceilings : ceilings f with
  | nil => simp [hceilings] at h
  | cons first others =>
    rw [hceilings] at h
    cases h
    exact ⟨htime, hback, hrecursion, ⟨first, others, rfl, rfl⟩, rfl⟩

theorem polynomialTable_cases (h : polynomialTable.check time f = some (c, reason)) :
    time.isExponential = true ∧ (f.algorithms.dp = true ∨ f.algorithms.memoization = true) ∧
      (2 ≤ f.metrics.dpDimensions ∧ c = .quadratic ∧
          reason = "memoized state space is two-dimensional" ∨
        f.metrics.dpDimensions < 2 ∧ c = .linear ∧
          reason = "memoized state space is one-dimensional") := by
  simp only [polynomialTable, Option.ite_none_left_eq_some, Bool.or_eq_true, Bool.not_eq_true',
    not_or, Bool.not_eq_false] at h
  obtain ⟨⟨htime, hmemo⟩, h⟩ := h
  refine ⟨htime, hmemo, ?_⟩
  split at h
  next hdimensions =>
    cases h
    exact .inl ⟨hdimensions, rfl, rfl⟩
  next hdimensions =>
    cases h
    exact .inr ⟨Nat.lt_of_not_le hdimensions, rfl, rfl⟩

theorem linearWindow_cases (h : linearWindow.check time f = some (c, reason)) :
    (f.pointers.slidingWindow = true ∨
        f.pointers.twoPointers = true ∧ f.pointers.forwardOnly = true) ∧
      f.algorithms.sorting = false ∧ f.algorithms.binarySearch = false ∧
      f.structures.heap = false ∧ time ≠ .linear ∧ c = .linear ∧
      reason = "pointers only move forward, so each index is visited a constant number of times" := by
  simp only [linearWindow, Option.ite_none_left_eq_some, Bool.or_eq_true, Bool.not_eq_true',
    Bool.and_eq_true, decide_eq_true_eq, not_or, Bool.not_eq_false, Bool.not_eq_true] at h
  obtain ⟨⟨⟨hforward, ⟨hsorting, hsearch⟩, hheap⟩, htime⟩, h⟩ := h
  cases h
  exact ⟨hforward, hsorting, hsearch, hheap, htime, rfl, rfl⟩

def classes : List Complexity :=
  [.log, .linear, .graph, .linearLog, .quadratic]

theorem mem_classes_of_mem_ceilings (f : FeatureSet) : ∀ c ∈ ceilings f, c ∈ classes := by
  simp only [ceilings, List.forall_mem_append]
  refine ⟨⟨?_, ?_⟩, ?_⟩ <;> split_ifs <;> simp [classes]

theorem ceilings_eq_nil_iff : ceilings f = [] ↔
    f.algorithms.sorting = false ∧ f.algorithms.divideConquer = false ∧
      f.algorithms.binarySearch = false ∧ f.algorithms.bfs = false ∧
      f.algorithms.dfs = false := by
  simp [ceilings, apply_ite (· = []), and_assoc]

variable {clamp : Clamp}

theorem mem_all_iff :
    clamp ∈ all ↔ clamp = domainCeiling ∨ clamp = polynomialTable ∨ clamp = linearWindow := by
  simp [all]

theorem mem_classes_of_check (hclamp : clamp ∈ all) (h : clamp.check time f = some (c, reason)) :
    c ∈ classes := by
  rcases mem_all_iff.mp hclamp with rfl | rfl | rfl
  · obtain ⟨_, _, _, ⟨first, others, hceilings, rfl⟩, _⟩ := domainCeiling_cases h
    have hmem := foldl_mem_of_choice first others max_choice
    rw [← hceilings] at hmem
    exact mem_classes_of_mem_ceilings f _ hmem
  · obtain ⟨_, _, ⟨_, rfl, _⟩ | ⟨_, rfl, _⟩⟩ := polynomialTable_cases h
    · decide
    · decide
  · obtain ⟨_, _, _, _, _, rfl, _⟩ := linearWindow_cases h
    decide

theorem isExponential_of_mem_classes : ∀ c ∈ classes, c.isExponential = false := by
  decide

theorem apply_cases (f : FeatureSet) (a : Analysis) (clamp : Clamp) :
    apply f a clamp = a ∨ ∃ c reason, clamp.check a.time f = some (c, reason) ∧ c ≠ a.time ∧
      apply f a clamp = a.correctTime c reason := by
  rw [apply]
  split
  · exact .inl rfl
  next c reason hcheck =>
    split
    · exact .inl rfl
    next hne => exact .inr ⟨c, reason, hcheck, hne, rfl⟩

variable {a : Analysis}

theorem apply_of_check_eq_none (h : clamp.check a.time f = none) : apply f a clamp = a := by
  rw [apply, h]

theorem time_apply (h : clamp.check a.time f = some (c, reason)) :
    (apply f a clamp).time = c := by
  rw [apply, h]
  by_cases hc : c = a.time
  · simp [hc]
  · simp [hc, Analysis.correctTime]

theorem check_eq_none_of_isExponential (hclamp : clamp ∈ all)
    (h : (apply f a clamp).time.isExponential = true) : clamp.check a.time f = none := by
  cases hcheck : clamp.check a.time f with
  | none => rfl
  | some change =>
    obtain ⟨c, reason⟩ := change
    rw [time_apply hcheck,
      isExponential_of_mem_classes c (mem_classes_of_check hclamp hcheck)] at h
    cases h

theorem polynomialTable_eq_none (h : polynomialTable.check time f = none)
    (htime : time.isExponential = true) :
    f.algorithms.dp = false ∧ f.algorithms.memoization = false := by
  by_cases hdimensions : 2 ≤ f.metrics.dpDimensions <;>
    simpa [polynomialTable, htime, hdimensions] using h

end Clamp

namespace Analysis

theorem verify_induction {P : Analysis → Prop} {f : FeatureSet}
    (hstep : ∀ a, P a → ∀ clamp ∈ Clamp.all, P (clamp.apply f a)) {a : Analysis} (h : P a) :
    P (a.verify f) :=
  List.foldlRecOn Clamp.all (Clamp.apply f) h hstep

theorem time_verify (a : Analysis) (f : FeatureSet) :
    (a.verify f).time = a.time ∨ (a.verify f).time ∈ Clamp.classes := by
  refine verify_induction (P := fun b => b.time = a.time ∨ b.time ∈ Clamp.classes) ?_ (.inl rfl)
  intro b hb clamp hclamp
  rcases Clamp.apply_cases f b clamp with hsame | ⟨c, reason, hcheck, _, happly⟩
  · rw [hsame]
    exact hb
  · rw [happly]
    exact .inr (Clamp.mem_classes_of_check hclamp hcheck)

end Analysis

end Asymptote
