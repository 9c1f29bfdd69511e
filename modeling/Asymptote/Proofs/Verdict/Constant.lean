import Asymptote.Engine
import Asymptote.Proofs.Feature.Coherence
import Asymptote.Proofs.Verdict.Candidates
import Asymptote.Proofs.Verdict.Clamp

/-! # Constant verdicts
Only loops that leave at once and hashing propose constant time, and no clamp sets it. So where the
rules find constant time, nothing that repeats has been passed over. -/
namespace Asymptote

theorem CandidateSource.of_constant (s : CandidateSource) (h : .constant ∈ s.classes) :
    s = .earlyExit ∨ s = .hashUsage := by
  revert h
  cases s <;> decide

namespace FeatureSet

variable {f : FeatureSet}

theorem source_of_constant (hleaves : f.leavesAtOnce = false) {c : Candidate}
    (hc : c ∈ f.candidates) (h : c.complexity = .constant) : c.source = .hashUsage := by
  have hclasses := mem_classes_of_mem_candidates hc
  rw [h] at hclasses
  rcases c.source.of_constant hclasses with hsource | hsource
  · have hproposes := proposes_source hc
    rw [hsource] at hproposes
    simp [proposes, hleaves, shows] at hproposes
  · exact hsource

theorem constant_of_mem_candidates (h : f.time.complexity = .constant)
    (hleaves : f.leavesAtOnce = false) {c : Candidate} (hc : c ∈ f.candidates) :
    c.complexity = .constant := by
  rw [time] at h
  cases hselect : Candidate.select f.candidates with
  | none =>
    rw [Candidate.select_eq_none_iff.mp hselect] at hc
    cases hc
  | some best =>
    have hbest : best.complexity = .constant := by
      rw [hselect] at h
      exact h
    have hsource := source_of_constant hleaves (Candidate.mem_of_select hselect) hbest
    have hhighest := Candidate.highest_of_select hselect (by rw [hsource]; rfl)
    have hle := Candidate.le_of_highest hhighest c hc
    rw [hbest] at hle
    exact le_antisymm hle (Nat.zero_le c.complexity.rank)

theorem shows_eq_false_of_constant (h : f.time.complexity = .constant)
    (hleaves : f.leavesAtOnce = false) {s : CandidateSource} (hs : .constant ∉ s.classes) :
    f.shows s = false := by
  apply Bool.eq_false_iff.mpr
  intro hshows
  obtain ⟨c, hc, rfl⟩ := exists_mem_candidates hleaves hshows
  have hclasses := mem_classes_of_mem_candidates hc
  rw [constant_of_mem_candidates h hleaves hc] at hclasses
  exact hs hclasses

theorem exists_shows_of_recursion (h : f.algorithms.recursion = true) :
    ∃ s, f.shows s = true ∧ .constant ∉ s.classes := by
  by_cases hbranching : 2 ≤ f.metrics.recursionBranching
  · exact ⟨.treeRecursion, by simpa [shows] using hbranching, by decide⟩
  · cases hgcd : f.algorithms.gcd with
    | true => exact ⟨.gcd, by simp [shows, h, hgcd, Nat.not_le.mp hbranching], by decide⟩
    | false => exact ⟨.recursion, by simp [shows, h, hgcd, Nat.not_le.mp hbranching], by decide⟩

theorem recursion_eq_false_of_constant (h : f.time.complexity = .constant) :
    f.algorithms.recursion = false := by
  apply Bool.eq_false_iff.mpr
  intro hrecursion
  have hleaves : f.leavesAtOnce = false := by simp [leavesAtOnce, hrecursion]
  obtain ⟨s, hshows, hs⟩ := exists_shows_of_recursion hrecursion
  rw [shows_eq_false_of_constant h hleaves hs] at hshows
  cases hshows

theorem exitsEarly_or_depth_eq_zero_of_constant (h : f.time.complexity = .constant) :
    f.loops.exitsEarly = true ∨ f.loops.maxNestingDepth = 0 := by
  cases hleaves : f.leavesAtOnce with
  | true => exact .inl (Bool.and_eq_true_iff.mp hleaves).1
  | false =>
    have hloops := shows_eq_false_of_constant h hleaves (s := .loops) (by decide)
    exact .inr (by simpa [shows] using hloops)

end FeatureSet

namespace Heuristic

theorem time_ofSnippet_of_constant {s : Snippet} {disabled : List String}
    (hnone : Hazard.find? s disabled = none)
    (h : (ofSnippet s disabled).verdict.time = .constant) :
    (FeatureSet.ofSnippet s).time.complexity = .constant := by
  rw [ofSnippet, hnone] at h
  rcases (ofFeatures (.ofSnippet s)).time_verify (.ofSnippet s) with hsame | hclamped
  · exact hsame.symm.trans h
  · rw [FeatureSet.ofSnippet, h] at hclamped
    simp [Clamp.classes] at hclamped

/-- Without a hazard, constant time is found only for a snippet in which no function calls itself
and every loop, if there is any, is a `for` or `while` that leaves in its first round. -/
theorem constant_verdict_justified (s : Snippet) (disabled : List String)
    (hnone : Hazard.find? s disabled = none)
    (h : (ofSnippet s disabled).verdict.time = .constant) :
    (∀ g ∈ s.functions, s.selfCalls g = []) ∧
      (LoopForest.ofSnippet s = [] ∨ ∀ l ∈ LoopForest.ofSnippet s,
        (l.kind = .forLoop ∨ l.kind = .whileLoop) ∧ l.exitsEarly = true) := by
  have htime := time_ofSnippet_of_constant hnone h
  constructor
  · by_contra hcalls
    have hrecursion : (FeatureSet.ofSnippet s).algorithms.recursion = true :=
      (FeatureSet.recursion_ofSnippet_iff s).mpr (by simpa using hcalls)
    rw [FeatureSet.recursion_eq_false_of_constant htime] at hrecursion
    cases hrecursion
  · rcases FeatureSet.exitsEarly_or_depth_eq_zero_of_constant htime with hexit | hdepth
    · exact .inr (LoopForest.exitsEarly_of_summary hexit)
    · exact .inl ((FeatureSet.depth_ofSnippet_eq_zero_iff s).mp hdepth)

theorem constant_verdict_justified_break :
    let s := Snippet.ofCode .python "for x in xs:\n    break".toList
    Hazard.find? s [] = none ∧ (ofSnippet s []).verdict.time = .constant ∧
      (∀ g ∈ s.functions, s.selfCalls g = []) ∧
        (LoopForest.ofSnippet s = [] ∨ ∀ l ∈ LoopForest.ofSnippet s,
          (l.kind = .forLoop ∨ l.kind = .whileLoop) ∧ l.exitsEarly = true) := by
  intro s
  have hnone : Hazard.find? s [] = none := by decide
  have h : (ofSnippet s []).verdict.time = .constant := by
    rw [ofSnippet, hnone]
    decide
  exact ⟨hnone, h, constant_verdict_justified s [] hnone h⟩

end Heuristic
end Asymptote
