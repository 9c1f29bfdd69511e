import Asymptote.Proofs.Consensus.Presence

/-! # Confirmed claims
A decided slot leaves no correction of a claim exactly if both claimed texts stand for the decided
classes. So where a consensus holds no correction at all, each claim is what the solution says. -/
namespace Asymptote
open GroundTruth (Finding)

namespace Claim

structure StandsFor (c : Claim) (time space : Complexity) : Prop where
  time : Complexity.read c.time.toList = .ok time
  space : Complexity.read c.space.toList = .ok space

variable {c : Claim} {time space : Complexity}

theorem classes?_eq_some_iff : c.classes? = some (time, space) ↔ c.StandsFor time space := by
  constructor
  · intro h
    rw [classes?] at h
    split at h
    next htime hspace =>
      cases h
      exact ⟨htime, hspace⟩
    next => cases h
  · intro h
    simp [classes?, h.time, h.space]

theorem unreadableCorrections_eq_nil_iff (slot : Approach) :
    c.unreadableCorrections slot = [] ↔ c.classes?.isSome := by
  simp only [unreadableCorrections, classes?]
  cases Complexity.read c.time.toList <;> cases Complexity.read c.space.toList <;> simp

end Claim

namespace Decision

variable {c : Claim} {slot : Approach} {layer : Layer} {a : Solution} {e : Evidence}

theorem overrides_eq_nil_iff {time space : Complexity} :
    overrides slot layer a time space = [] ↔ time = a.time ∧ space = a.space := by
  by_cases htime : time = a.time <;> by_cases hspace : space = a.space <;>
    simp [overrides, htime, hspace]

theorem claimCorrections_eq_nil_iff :
    claimCorrections slot (some (layer, a)) c = [] ↔ c.StandsFor a.time a.space := by
  rw [claimCorrections, List.append_eq_nil_iff, Claim.unreadableCorrections_eq_nil_iff,
    ← Claim.classes?_eq_some_iff]
  cases c.classes? with
  | none => simp
  | some classes => simp [overrides_eq_nil_iff, Prod.ext_iff]

theorem isSome_verdict?_ofEvidence (truth : Option Finding) (claimConfidence : Float)
    (slot : Approach) (hclaim : c ∈ e.claim?) (hread : c.classes?.isSome) :
    (ofEvidence truth claimConfidence slot e).verdict?.isSome := by
  have hempty : e.isEmpty = false := by simp [Evidence.isEmpty, Option.mem_def.mp hclaim]
  have hverdict : (e.verdict? claimConfidence).isSome := by
    simp [Evidence.verdict?, Option.mem_def.mp hclaim, hread]
  rw [verdict?_ofEvidence, hempty]
  simp [hverdict]

theorem exists_verdict?_of_corrections_eq_nil {truth : Option Finding} {claimConfidence : Float}
    (hclaim : c ∈ e.claim?) (h : (ofEvidence truth claimConfidence slot e).corrections = []) :
    ∃ layer a, (ofEvidence truth claimConfidence slot e).verdict? = some (layer, a) ∧
      c.StandsFor a.time a.space := by
  rw [corrections_ofEvidence, Option.mem_def.mp hclaim, Option.map_some, Option.getD_some] at h
  have hread : c.classes?.isSome :=
    (Claim.unreadableCorrections_eq_nil_iff slot).mp (List.append_eq_nil_iff.mp h).1
  obtain ⟨⟨layer, a⟩, hverdict⟩ := Option.isSome_iff_exists.mp
    (isSome_verdict?_ofEvidence truth claimConfidence slot hclaim hread)
  rw [hverdict, claimCorrections_eq_nil_iff] at h
  exact ⟨layer, a, hverdict, h⟩

end Decision

namespace Consensus

variable {truth : Option Finding} {evidence : Triple Evidence} {claimConfidence : Float}
  {slot : Approach} {e : Evidence}

theorem slot?_decided :
    (unrepaired (decided truth evidence claimConfidence)).solution.slot? slot =
      (evidence.slot? slot).bind fun e =>
        (Decision.ofEvidence truth claimConfidence slot e).verdict?.map (·.2) := by
  cases slot <;>
    simp [Triple.slot?, unrepaired, decided, Triple.map, Option.map_bind]

theorem corrections_eq_nil_of_valid (hvalid : (build truth evidence claimConfidence).valid = true) :
    (build truth evidence claimConfidence).corrections = [] :=
  List.isEmpty_iff.mp hvalid

theorem slot?_build_of_valid (hvalid : (build truth evidence claimConfidence).valid = true)
    {a : Solution}
    (ha : a ∈ (unrepaired (decided truth evidence claimConfidence)).solution.slot? slot) :
    a ∈ (build truth evidence claimConfidence).solution.slot? slot := by
  have hnil := corrections_eq_nil_of_valid hvalid
  rcases change_build_or truth evidence claimConfidence slot with hchange | ⟨rfl, hcopied, _⟩
  · rw [hnil] at hchange
    rw [Option.mem_def, hchange.eq_of_nil]
    exact ha
  · exact absurd (hcopied.before.symm.trans ha) (by simp)

/-- In a valid consensus each claim can be read, and the solution has an approach in its slot whose
time and space are the claimed ones. -/
theorem standsFor_of_valid {c : Claim}
    (hvalid : (build truth evidence claimConfidence).valid = true)
    (he : e ∈ evidence.slot? slot) (hclaim : c ∈ e.claim?) :
    ∃ a ∈ (build truth evidence claimConfidence).solution.slot? slot,
      c.StandsFor a.time a.space := by
  have hnil := corrections_eq_nil_of_valid hvalid
  rw [(build_eq_repair truth evidence claimConfidence).2.2, List.append_eq_nil_iff,
    List.flatMap_eq_nil_iff] at hnil
  have hslot := hnil.1 _ (List.mem_map.mpr ⟨(slot, e), Triple.mem_toList_iff.mpr he, rfl⟩)
  obtain ⟨layer, a, hverdict, hstands⟩ := Decision.exists_verdict?_of_corrections_eq_nil hclaim hslot
  refine ⟨a, slot?_build_of_valid hvalid ?_, hstands⟩
  rw [slot?_decided, Option.mem_def.mp he, Option.bind_some, hverdict]
  rfl

def agreed : Triple Evidence where
  bruteForce := some { claim? := some ⟨"O(N * N)", "O(k)"⟩ }
  optimal := some { analysis? := some constantAnalysis, claim? := some ⟨"1", "constant"⟩ }

theorem standsFor_of_valid_agreed :
    let c : Claim := ⟨"O(N * N)", "O(k)"⟩
    (build none agreed 0.5).valid = true ∧
      ({ claim? := some c } : Evidence) ∈ agreed.slot? .bruteForce ∧
      ∃ a ∈ (build none agreed 0.5).solution.slot? .bruteForce, c.StandsFor a.time a.space := by
  intro c
  have hvalid : (build none agreed 0.5).valid = true := by decide
  have he : ({ claim? := some c } : Evidence) ∈ agreed.slot? .bruteForce := rfl
  exact ⟨hvalid, he, standsFor_of_valid hvalid he rfl⟩

end Consensus
end Asymptote
