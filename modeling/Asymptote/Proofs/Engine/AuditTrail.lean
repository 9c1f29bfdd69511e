import Asymptote.Proofs.Engine.ClaimCheck

/-! # The audit trail
The corrections of a verdict on one snippet change a class for a reason, and the last one of each
field ends at the class that is reported, whoever appended it: a clamp, ground truth or the check of
a claim. -/
namespace Asymptote

structure Correction.Justified (c : Correction) : Prop where
  approach : c.approach = .single
  field : c.field = .time ∨ c.field = .space
  changes : c.oldValue ≠ c.newValue
  reason : c.reason ≠ ""

def lastOn (field : CorrectedField) (corrections : List Correction) : Option Correction :=
  (corrections.filter (·.field = field)).getLast?

/-- A list of corrections that leads to the notations reported for the fields. -/
structure Trail (corrections : List Correction) (reported : CorrectedField → Option String) :
    Prop where
  justified : ∀ c ∈ corrections, c.Justified
  ends : ∀ field, ∀ c ∈ lastOn field corrections, reported field = some c.newValue

namespace Trail

variable {corrections new : List Correction} {reported reported' : CorrectedField → Option String}
  {c : Correction}

theorem nil : Trail [] reported where
  justified := by simp
  ends := by simp [lastOn]

theorem lastOn_concat (field : CorrectedField) :
    lastOn field (corrections ++ [c]) =
      if c.field = field then some c else lastOn field corrections := by
  rw [lastOn, List.filter_append]
  by_cases h : c.field = field
  · simp [h]
  · simp [h, lastOn]

theorem concat (h : Trail corrections reported) (hc : c.Justified)
    (hnew : reported' c.field = some c.newValue)
    (hothers : ∀ field, field ≠ c.field → reported' field = reported field) :
    Trail (corrections ++ [c]) reported' where
  justified := List.forall_mem_append.mpr ⟨h.justified, by simpa using hc⟩
  ends field last hlast := by
    rw [lastOn_concat] at hlast
    split at hlast
    · next hfield =>
      cases hlast
      exact hfield ▸ hnew
    · next hfield =>
      rw [hothers field (Ne.symm hfield)]
      exact h.ends field last hlast

theorem append (h : Trail corrections reported)
    (hnew : ∀ c ∈ new, c.Justified ∧ reported c.field = some c.newValue) :
    Trail (corrections ++ new) reported := by
  -- Each further correction ends where the trail already led, so what is reported stays.
  induction new generalizing corrections with
  | nil => rwa [List.append_nil]
  | cons c new ih =>
    obtain ⟨⟨hc, hends⟩, hrest⟩ := List.forall_mem_cons.mp hnew
    rw [List.append_cons]
    exact ih (h.concat hc hends fun _ _ => rfl) hrest

theorem of_forall (h : ∀ c ∈ corrections, c.Justified ∧ reported c.field = some c.newValue) :
    Trail corrections reported :=
  nil.append h

end Trail

theorem UnknownNotation.message_ne_empty (u : UnknownNotation) : u.message ≠ "" := by
  have happend (text : String) : "unrecognized complexity notation: " ++ text ≠ "" := by simp
  exact happend _

namespace Analysis

variable {a : Analysis}

def reported (a : Analysis) : CorrectedField → Option String
  | .time => some a.time.canonical
  | .space => some a.space.canonical
  | .presence => none

def Traced (a : Analysis) : Prop := Trail a.corrections a.reported

theorem Traced.correctTime (h : a.Traced) {time : Complexity} {reason : String}
    (htime : time ≠ a.time) (hreason : reason ≠ "") : (a.correctTime time reason).Traced := by
  refine Trail.concat h ⟨rfl, .inl rfl, ?_, hreason⟩ rfl ?_
  · exact fun heq => htime (Complexity.canonical_injective heq).symm
  · intro field hfield
    cases field with
    | time => exact absurd rfl hfield
    | space => rfl
    | presence => rfl

end Analysis

theorem Clamp.reason_ne_empty {clamp : Clamp} (hclamp : clamp ∈ all) {time c : Complexity}
    {f : FeatureSet} {reason : String} (h : clamp.check time f = some (c, reason)) :
    reason ≠ "" := by
  rcases mem_all_iff.mp hclamp with rfl | rfl | rfl
  · obtain ⟨_, _, _, _, rfl⟩ := domainCeiling_cases h
    decide
  · obtain ⟨_, _, ⟨_, _, rfl⟩ | ⟨_, _, rfl⟩⟩ := polynomialTable_cases h
    · decide
    · decide
  · obtain ⟨_, _, _, _, _, _, rfl⟩ := linearWindow_cases h
    decide

namespace Analysis

variable {a : Analysis}

theorem Traced.apply (h : a.Traced) (f : FeatureSet) {clamp : Clamp}
    (hclamp : clamp ∈ Clamp.all) : (clamp.apply f a).Traced := by
  rcases Clamp.apply_cases f a clamp with hsame | ⟨c, reason, hcheck, hne, happly⟩
  · rw [hsame]
    exact h
  · rw [happly]
    exact h.correctTime hne (Clamp.reason_ne_empty hclamp hcheck)

theorem Traced.verify (h : a.Traced) (f : FeatureSet) : (a.verify f).Traced :=
  verify_induction (fun _ ha _ => ha.apply f) h

theorem traced_of_corrections_eq_nil (h : a.corrections = []) : a.Traced := by
  rw [Traced, h]
  exact .nil

theorem justified_of_mem_append {times spaces : List Correction}
    (htimes : ∀ c ∈ times, c.Justified ∧ c.field = .time ∧ c.newValue = a.time.canonical)
    (hspaces : ∀ c ∈ spaces, c.Justified ∧ c.field = .space ∧ c.newValue = a.space.canonical) :
    ∀ c ∈ times ++ spaces, c.Justified ∧ a.reported c.field = some c.newValue := by
  refine List.forall_mem_append.mpr ⟨?_, ?_⟩
  · intro c hc
    obtain ⟨hjust, hfield, hnew⟩ := htimes c hc
    rw [hfield, hnew]
    exact ⟨hjust, rfl⟩
  · intro c hc
    obtain ⟨hjust, hfield, hnew⟩ := hspaces c hc
    rw [hfield, hnew]
    exact ⟨hjust, rfl⟩

theorem Traced.noting (h : a.Traced) {corrections : List Correction}
    (hnew : ∀ c ∈ corrections, c.Justified ∧ a.reported c.field = some c.newValue) :
    (a.noting corrections).Traced :=
  h.append hnew

end Analysis

namespace Engine
open GroundTruth (Finding)

theorem justified_of_mem_ite {field : CorrectedField} {old new : Complexity} {reason : String}
    {c : Correction} (hfield : field = .time ∨ field = .space) (hreason : reason ≠ "")
    (hc : c ∈ if old = new then [] else [⟨.single, field, old.canonical, new.canonical, reason⟩]) :
    c.Justified ∧ c.field = field ∧ c.newValue = new.canonical := by
  split at hc
  · cases hc
  · next hne =>
    cases List.mem_singleton.mp hc
    exact ⟨⟨rfl, hfield, fun heq => hne (Complexity.canonical_injective heq), hreason⟩, rfl, rfl⟩

theorem traced_ofGroundTruth (finding : Finding) (heuristic : Analysis) :
    (ofGroundTruth finding heuristic).Traced := by
  have hreason : "ground truth for " ++ finding.entry.id ≠ "" := by simp
  refine Trail.of_forall (Analysis.justified_of_mem_append ?_ ?_)
  · exact fun c => justified_of_mem_ite (.inl rfl) hreason
  · exact fun c => justified_of_mem_ite (.inr rfl) hreason

theorem Objection.justified {field : CorrectedField} {claimed override : String}
    {reported : Complexity} {c : Correction} (hfield : field = .time ∨ field = .space)
    (hoverride : override ≠ "") (h : Objection field claimed reported override c) :
    c.Justified ∧ c.field = field ∧ c.newValue = reported.canonical := by
  cases h with
  | overridden _ hne =>
    exact ⟨⟨rfl, hfield, fun heq => hne (Complexity.canonical_injective heq), hoverride⟩, rfl, rfl⟩
  | unreadable hread =>
    have hchanges : claimed ≠ reported.canonical := by
      rintro rfl
      rw [Complexity.read, Complexity.read?_canonical] at hread
      cases hread
    exact ⟨⟨rfl, hfield, hchanges, UnknownNotation.message_ne_empty _⟩, rfl, rfl⟩

variable (e : Engine)

theorem traced_analyze (text : Text) (l : Language) (title : Option Text) :
    (e.analyze text l title).Traced := by
  refine e.analyze_induction ?_ ?_ traced_ofGroundTruth text l title
  · exact fun _ => Analysis.traced_of_corrections_eq_nil rfl
  · exact fun f => Analysis.Traced.verify (Analysis.traced_of_corrections_eq_nil rfl) f

theorem traced_check (text : Text) (l : Language) (claim : Claim) :
    (e.check text l claim).corrected.Traced := by
  refine (e.traced_analyze text l none).noting (Analysis.justified_of_mem_append ?_ ?_)
  · exact fun c hc => (objection_of_mem hc).justified (.inl rfl) (by simp)
  · exact fun c hc => (objection_of_mem hc).justified (.inr rfl) (by simp)

/-- The corrections of a verdict, and those of the verdict that the check of a claim gives, change a
class of the one snippet for a reason and end at what is reported. -/
theorem trail_ends_at_verdict (text : Text) (l : Language) (title : Option Text) :
    (e.analyze text l title).Traced ∧
      ∀ claim, (e.check text l claim).corrected.Traced :=
  ⟨e.traced_analyze text l title, fun claim => e.traced_check text l claim⟩

end Engine
end Asymptote
