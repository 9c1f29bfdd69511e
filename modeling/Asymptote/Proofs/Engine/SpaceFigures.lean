import Asymptote.Proofs.Engine.Authority

/-! # Figures of memory
Whoever gives a verdict, its peak does not exceed its total, and the total is the space that is
reported. By the rules the peak is at most quadratic, and only an enumeration that keeps its answers
takes exponential space. -/
namespace Asymptote

structure SpaceMetrics.BearOut (m : SpaceMetrics) (space : Complexity) : Prop where
  peak_le : m.peak ≤ m.total
  total_eq : m.total = space

theorem SpaceMetrics.bearOut_flat (space : Complexity) : (flat space).BearOut space :=
  ⟨le_rfl, rfl⟩

namespace FeatureSet

variable (f : FeatureSet)

theorem raise_fst (peak c : Contribution) : (raise peak c).1 = max peak.1 c.1 := by
  rw [raise]
  split
  next h => exact (max_eq_right h.le).symm
  next h => exact (max_eq_left (not_lt.mp h)).symm

theorem contributions_le : ∀ c ∈ f.contributions, c.1 ≤ .quadratic := by
  simp only [contributions, List.forall_mem_append, and_assoc]
  refine ⟨?_, ?_, ?_, ?_, ?_, ?_, ?_, ?_, ?_⟩ <;> split_ifs <;> simp <;> decide

theorem foldl_raise_le_iff {cs : List Contribution} {peak : Contribution} {bound : Complexity} :
    (cs.foldl raise peak).1 ≤ bound ↔ peak.1 ≤ bound ∧ ∀ c ∈ cs, c.1 ≤ bound := by
  induction cs generalizing peak with
  | nil => simp
  | cons c cs ih =>
    rw [List.foldl_cons, ih, raise_fst, max_le_iff, List.forall_mem_cons, and_assoc]

variable {f} in
theorem peak_le_iff {bound : Complexity} :
    f.peak.1 ≤ bound ↔ ∀ c ∈ f.contributions, c.1 ≤ bound := by
  have hconstant : .constant ≤ bound := Nat.zero_le _
  rw [peak, foldl_raise_le_iff, and_iff_right hconstant]

theorem peak_le_quadratic : f.peak.1 ≤ .quadratic :=
  peak_le_iff.mpr f.contributions_le

theorem output?_eq_none_iff : f.output? = none ↔
    ¬ (f.algorithms.backtracking = true ∧ f.algorithms.accumulatesResults = true) := by
  rw [output?, ← Bool.and_eq_true_iff]
  split_ifs with h <;> simp [h]

theorem exponential_le_output {output : Contribution} (h : f.output? = some output) :
    .exponential ≤ output.1 := by
  rw [output?] at h
  split_ifs at h <;> cases h <;> decide

theorem peak_spaceVerdict : f.spaceVerdict.metrics.peak = f.peak.1 := by
  rw [spaceVerdict]
  cases f.output? <;> rfl

theorem bearOut_spaceVerdict : f.spaceVerdict.metrics.BearOut f.spaceVerdict.complexity := by
  rw [spaceVerdict]
  cases f.output? with
  | none => exact SpaceMetrics.bearOut_flat _
  | some output => exact ⟨le_max_right _ _, (max_comm _ _).trans (raise_fst f.peak output).symm⟩

theorem exponential_le_spaceVerdict_iff : .exponential ≤ f.spaceVerdict.complexity ↔
    f.algorithms.backtracking = true ∧ f.algorithms.accumulatesResults = true := by
  have houtput := f.output?_eq_none_iff
  rw [spaceVerdict]
  cases h : f.output? with
  | none =>
    rw [h, eq_self, true_iff] at houtput
    have hpeak : ¬ .exponential ≤ f.peak.1 :=
      fun hle => absurd (hle.trans f.peak_le_quadratic) (by decide)
    exact iff_of_false hpeak houtput
  | some output =>
    have hkeeps : f.algorithms.backtracking = true ∧ f.algorithms.accumulatesResults = true := by
      by_contra hnot
      rw [houtput.mpr hnot] at h
      cases h
    have hle : .exponential ≤ (raise f.peak output).1 := by
      rw [raise_fst]
      exact (f.exponential_le_output h).trans (le_max_right _ _)
    exact iff_of_true hle hkeeps

end FeatureSet

namespace Engine

theorem bearOut_verify {a : Analysis} (h : a.spaceMetrics.BearOut a.space) (f : FeatureSet) :
    (a.verify f).spaceMetrics.BearOut (a.verify f).space := by
  refine Analysis.verify_induction (P := fun b => b.spaceMetrics.BearOut b.space)
    (fun b hb clamp _ => ?_) h
  rcases Clamp.apply_cases f b clamp with hsame | ⟨_, _, _, _, happly⟩
  · rw [hsame]
    exact hb
  · rw [happly]
    exact hb

theorem bearOut_analyze (e : Engine) (text : Text) (l : Language) (title : Option Text) :
    (e.analyze text l title).spaceMetrics.BearOut (e.analyze text l title).space := by
  refine e.analyze_induction (P := fun a => a.spaceMetrics.BearOut a.space) ?_ ?_ ?_ text l title
  · exact fun hazard => SpaceMetrics.bearOut_flat hazard.space
  · exact fun f => bearOut_verify f.bearOut_spaceVerdict f
  · exact fun finding h => SpaceMetrics.bearOut_flat (finding.entry.closest h.time).2.space

/-- The figures of memory bear out the reported space on every path, be it a hazard, the rules or
ground truth that decides. The rules see a peak that is quadratic at most, and exponential space
exactly for an enumeration that keeps its answers. -/
theorem space_figures_coherent (e : Engine) (text : Text) (l : Language) (title : Option Text) :
    let a := e.analyze text l title
    (a.spaceMetrics.peak ≤ a.spaceMetrics.total ∧ a.spaceMetrics.total = a.space) ∧
    ∀ f : FeatureSet, f.spaceVerdict.metrics.peak ≤ .quadratic ∧
      (.exponential ≤ f.spaceVerdict.complexity ↔
        f.algorithms.backtracking = true ∧ f.algorithms.accumulatesResults = true) := by
  intro a
  have hfigures : a.spaceMetrics.BearOut a.space := e.bearOut_analyze text l title
  refine ⟨⟨hfigures.peak_le, hfigures.total_eq⟩, fun f => ?_⟩
  rw [f.peak_spaceVerdict]
  exact ⟨f.peak_le_quadratic, f.exponential_le_spaceVerdict_iff⟩

end Engine
end Asymptote
