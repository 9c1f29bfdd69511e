import Asymptote.Proofs.Consensus.Progression

/-! # The record of claimed values
A decided slot records each claimed class that it overwrites and each claimed text that cannot be
read, once. A readable text beside an unreadable one is the exception: it is overwritten without a
correction. The repair of the triple records no class at all. -/
namespace Asymptote
open GroundTruth (Finding)

def recorded (slot : Approach) (field : CorrectedField) (corrections : List Correction) : Nat :=
  corrections.countP fun c => c.approach = slot ∧ c.field = field

theorem recorded_append (slot : Approach) (field : CorrectedField)
    (cs ds : List Correction) :
    recorded slot field (cs ++ ds) = recorded slot field cs + recorded slot field ds :=
  List.countP_append

theorem recorded_eq_zero {slot : Approach} {field : CorrectedField} {cs : List Correction}
    (h : ∀ c ∈ cs, c.approach = slot → c.field ≠ field) : recorded slot field cs = 0 :=
  List.countP_eq_zero.mpr fun c hc => by simpa using h c hc

theorem recorded_flatMap {slots : List (Approach × List Correction)} {slot : Approach}
    {cs : List Correction} (field : CorrectedField) (hnodup : (slots.map (·.1)).Nodup)
    (hown : ∀ s ∈ slots, ∀ c ∈ s.2, c.approach = s.1) (h : (slot, cs) ∈ slots) :
    recorded slot field (slots.flatMap (·.2)) = recorded slot field cs := by
  induction slots with
  | nil => cases h
  | cons s slots ih =>
    obtain ⟨hs, hothers⟩ := List.forall_mem_cons.mp hown
    obtain ⟨hnew, hrest⟩ := List.nodup_cons.mp hnodup
    rw [List.flatMap_cons, recorded_append]
    rcases List.mem_cons.mp h with rfl | hmem
    · have hzero : recorded slot field (slots.flatMap (·.2)) = 0 := by
        refine recorded_eq_zero fun c hc happroach => ?_
        obtain ⟨s, hmem, hc⟩ := List.mem_flatMap.mp hc
        rw [hothers s hmem c hc] at happroach
        exact absurd (List.mem_map.mpr ⟨s, hmem, happroach⟩) hnew
      rw [hzero, Nat.add_zero]
    · have hzero : recorded slot field s.2 = 0 := by
        refine recorded_eq_zero fun c hc happroach => ?_
        rw [hs c hc] at happroach
        exact absurd (List.mem_map.mpr ⟨_, hmem, happroach.symm⟩) hnew
      rw [hzero, Nat.zero_add, ih hrest hothers hmem]

theorem Triple.nodup_slots {α : Type} (t : Triple α) : (t.toList.map (·.1)).Nodup := by
  cases hb : t.bruteForce <;> cases hm : t.better <;> cases ho : t.optimal <;>
    simp [Triple.toList, hb, hm, ho]

theorem Triple.mem_toList {α : Type} {t : Triple α} {slot : Approach} {a : α} :
    (slot, a) ∈ t.toList ↔ slot ≠ .single ∧ a ∈ t.get? slot := by
  simp only [toList, List.mem_append, Option.mem_toList, Option.map_eq_some_iff]
  cases slot <;> simp [get?]

structure Correction.Concerns (slot : Approach) (c : Correction) : Prop where
  approach : c.approach = slot
  field : c.field ≠ .presence

namespace Claim

def isOverwritten (claimed : String) (decided : Complexity) : Bool :=
  Complexity.read? claimed.toList ≠ some decided

def isOverlooked (claimed beside : String) : Bool :=
  (Complexity.read? claimed.toList).isSome && (Complexity.read? beside.toList).isNone

end Claim

namespace Decision

variable {truth : Option Finding} {claimConfidence : Float} {slot : Approach} {e : Evidence}

def claimCorrections (slot : Approach) (verdict? : Option (Layer × Solution)) (c : Claim) :
    List Correction :=
  c.unreadableCorrections slot ++
    (verdict?.bind fun v => c.classes?.map fun k => overrides slot v.1 v.2 k.1 k.2).getD []

theorem corrections_ofEvidence (truth : Option Finding) (claimConfidence : Float)
    (slot : Approach) (e : Evidence) :
    (ofEvidence truth claimConfidence slot e).corrections =
      (e.claim?.map (claimCorrections slot
        (ofEvidence truth claimConfidence slot e).verdict?)).getD [] := by
  rw [ofEvidence]
  split
  · next hempty =>
    have hclaim : e.claim? = none := by simpa using (Bool.and_eq_true_iff.mp hempty).2
    rw [hclaim]
    rfl
  · cases Opinion.rank (e.opinions slot truth claimConfidence) with
    | none => cases e.claim? <;> simp [claimCorrections]
    | some o =>
      cases e.claim? with
      | none => simp
      | some c => cases h : c.classes? <;> simp [claimCorrections, h]

theorem concerns_of_mem_unreadableCorrections {c : Claim} {k : Correction}
    (h : k ∈ c.unreadableCorrections slot) : k.Concerns slot := by
  simp only [Claim.unreadableCorrections, List.mem_append] at h
  rcases h with h | h
  · split at h
    · cases h
    · rw [List.mem_singleton.mp h]
      exact ⟨rfl, by simp⟩
  · split at h
    · cases h
    · rw [List.mem_singleton.mp h]
      exact ⟨rfl, by simp⟩

theorem concerns_of_mem_overrides {layer : Layer} {a : Solution} {time space : Complexity}
    {k : Correction} (h : k ∈ overrides slot layer a time space) : k.Concerns slot := by
  simp only [overrides, List.mem_append] at h
  rcases h with h | h
  · split at h
    · cases h
    · rw [List.mem_singleton.mp h]
      exact ⟨rfl, by simp⟩
  · split at h
    · cases h
    · rw [List.mem_singleton.mp h]
      exact ⟨rfl, by simp⟩

theorem concerns_of_mem_claimCorrections {verdict? : Option (Layer × Solution)} {c : Claim}
    {k : Correction} (h : k ∈ claimCorrections slot verdict? c) : k.Concerns slot := by
  rcases List.mem_append.mp h with h | h
  · exact concerns_of_mem_unreadableCorrections h
  · cases verdict? with
    | none => cases h
    | some v =>
      cases hclasses : c.classes? with
      | none => simp [hclasses] at h
      | some classes =>
        rw [Option.bind_some, hclasses, Option.map_some, Option.getD_some] at h
        exact concerns_of_mem_overrides h

theorem concerns_of_mem_corrections {k : Correction}
    (h : k ∈ (ofEvidence truth claimConfidence slot e).corrections) : k.Concerns slot := by
  rw [corrections_ofEvidence] at h
  cases hclaim : e.claim? with
  | none => simp [hclaim] at h
  | some c =>
    rw [hclaim, Option.map_some, Option.getD_some] at h
    exact concerns_of_mem_claimCorrections h

theorem recorded_claimCorrections (slot : Approach) (layer : Layer) (a : Solution) (c : Claim) :
    recorded slot .time (claimCorrections slot (some (layer, a)) c) =
        (Claim.isOverwritten c.time a.time && !Claim.isOverlooked c.time c.space).toNat ∧
      recorded slot .space (claimCorrections slot (some (layer, a)) c) =
        (Claim.isOverwritten c.space a.space && !Claim.isOverlooked c.space c.time).toNat := by
  simp only [claimCorrections, Claim.unreadableCorrections, Claim.classes?, Complexity.read,
    Claim.isOverwritten, Claim.isOverlooked]
  cases Complexity.read? c.time.toList with
  | none =>
    cases Complexity.read? c.space.toList with
    | none => simp [recorded]
    | some space => simp [recorded]
  | some time =>
    cases Complexity.read? c.space.toList with
    | none => simp [recorded]
    | some space =>
      by_cases htime : time = a.time <;> by_cases hspace : space = a.space <;>
        simp [overrides, recorded, htime, hspace]

end Decision

namespace Progression

variable {p q r : Progression}

def RecordsPresence (p q : Progression) : Prop :=
  ∀ c ∈ q.corrections, c ∈ p.corrections ∨ c.field = .presence

theorem RecordsPresence.trans (hpq : p.RecordsPresence q) (hqr : q.RecordsPresence r) :
    p.RecordsPresence r := by
  intro c hc
  rcases hqr c hc with hq | hfield
  · exact hpq c hq
  · exact .inr hfield

theorem Drops.recordsPresence (h : p.Drops q) : p.RecordsPresence q := by
  intro c hc
  rcases h with rfl | ⟨better, reason, rfl⟩
  · exact .inl hc
  · rcases List.mem_append.mp hc with hp | hnew
    · exact .inl hp
    · exact .inr (by rw [List.mem_singleton.mp hnew])

theorem recordsPresence_swapInverted : p.RecordsPresence p.swapInverted := by
  intro c hc
  rw [swapInverted] at hc
  split at hc
  · split at hc
    · rcases List.mem_append.mp hc with hp | hnew
      · exact .inl hp
      · right
        rcases List.mem_cons.mp hnew with rfl | hnew
        · rfl
        · rw [List.mem_singleton.mp hnew]
    · exact .inl hc
  · exact .inl hc

theorem recordsPresence_promoteBrute : p.RecordsPresence p.promoteBrute := by
  intro c hc
  rw [promoteBrute] at hc
  split at hc
  · exact .inl hc
  · exact .inl hc

theorem recordsPresence_repair (truth : Option Finding) :
    p.RecordsPresence (p.repair truth) :=
  (p.drops_dropWithoutLadder truth).recordsPresence.trans <|
    recordsPresence_swapInverted.trans <| (drops_dropIdentical _).recordsPresence.trans <|
      (drops_dropUnordered _).recordsPresence.trans recordsPresence_promoteBrute

end Progression

namespace Consensus

variable {truth : Option Finding} {evidence : Triple Evidence} {claimConfidence : Float}
  {slot : Approach} {e : Evidence} {field : CorrectedField}

theorem recorded_build (he : (slot, e) ∈ evidence.toList) (hfield : field ≠ .presence) :
    recorded slot field (build truth evidence claimConfidence).corrections =
      recorded slot field (Decision.ofEvidence truth claimConfidence slot e).corrections := by
  obtain ⟨_, _, hcorrections⟩ := build_eq_repair truth evidence claimConfidence
  rw [hcorrections, recorded_append]
  have hrepair : recorded slot field
      ((unrepaired (decided truth evidence claimConfidence)).repair truth).corrections = 0 := by
    refine recorded_eq_zero fun c hc _ => ?_
    rcases Progression.recordsPresence_repair truth c hc with hnone | hpresence
    · cases hnone
    · exact hpresence ▸ hfield.symm
  rw [hrepair, Nat.add_zero]
  refine recorded_flatMap field ?_ ?_ (List.mem_map.mpr ⟨(slot, e), he, rfl⟩)
  · rw [slotCorrections, List.map_map]
    exact evidence.nodup_slots
  · intro s hs c hc
    obtain ⟨⟨slot, e⟩, _, rfl⟩ := List.mem_map.mp hs
    exact (Decision.concerns_of_mem_corrections hc).approach

theorem verdict?_of_mem_decided {v : Layer × Solution} (he : (slot, e) ∈ evidence.toList)
    (hv : (slot, v) ∈ (decided truth evidence claimConfidence).toList) :
    (Decision.ofEvidence truth claimConfidence slot e).verdict? = some v := by
  obtain ⟨_, he⟩ := Triple.mem_toList.mp he
  obtain ⟨_, hv⟩ := Triple.mem_toList.mp hv
  rw [get?_decided, Option.mem_def.mp he] at hv
  exact hv

/-- Of a slot that has a claim and is decided each field is recorded once if its claimed text does
not stand for the decided class, and not at all otherwise. The exception is a readable text beside
an unreadable one, which is never recorded. -/
theorem recorded_claims {c : Claim} {layer : Layer} {a : Solution}
    (he : (slot, e) ∈ evidence.toList) (hclaim : c ∈ e.claim?)
    (hdecided : (slot, (layer, a)) ∈ (decided truth evidence claimConfidence).toList) :
    let corrections := (build truth evidence claimConfidence).corrections
    recorded slot .time corrections =
        (Claim.isOverwritten c.time a.time && !Claim.isOverlooked c.time c.space).toNat ∧
      recorded slot .space corrections =
        (Claim.isOverwritten c.space a.space && !Claim.isOverlooked c.space c.time).toNat := by
  have hverdict := verdict?_of_mem_decided he hdecided
  have hcorrections := Decision.corrections_ofEvidence truth claimConfidence slot e
  rw [hverdict, Option.mem_def.mp hclaim, Option.map_some, Option.getD_some] at hcorrections
  simp only [recorded_build he (show CorrectedField.time ≠ .presence by decide),
    recorded_build he (show CorrectedField.space ≠ .presence by decide), hcorrections]
  exact Decision.recorded_claimCorrections slot layer a c

def constantAnalysis : Analysis where
  time := .constant
  timeReason := "no loops"
  space := .constant
  spaceReason := "in-place; only scalar variables"
  confidence := 0.75
  source := "rule_engine"

def disputed (c : Claim) : Evidence where
  analysis? := some constantAnalysis
  claim? := some c

def disputedOptimal (c : Claim) : Triple Evidence where
  optimal := some (disputed c)

theorem mem_disputedOptimal (c : Claim) :
    (.optimal, disputed c) ∈ (disputedOptimal c).toList :=
  Triple.mem_toList.mpr ⟨by decide, rfl⟩

theorem mem_decided_disputedOptimal (c : Claim) (claimConfidence : Float) :
    (.optimal, (.ruleEngine, .ofAnalysis constantAnalysis)) ∈
      (decided none (disputedOptimal c) claimConfidence).toList := by
  refine Triple.mem_toList.mpr ⟨by decide, ?_⟩
  rw [get?_decided, disputedOptimal, Triple.get?, Option.bind_some,
    Decision.verdict?_ofEvidence]
  rfl

theorem recorded_claims_linearTime :
    let c : Claim := ⟨"O(n)", "O(1)"⟩
    let corrections := (build none (disputedOptimal c) 0.5).corrections
    (.optimal, disputed c) ∈ (disputedOptimal c).toList ∧ c ∈ (disputed c).claim? ∧
      (.optimal, (.ruleEngine, .ofAnalysis constantAnalysis)) ∈
        (decided none (disputedOptimal c) 0.5).toList ∧
      recorded .optimal .time corrections = 1 ∧ recorded .optimal .space corrections = 0 := by
  intro c corrections
  have he := mem_disputedOptimal c
  have hdecided := mem_decided_disputedOptimal c 0.5
  obtain ⟨htime, hspace⟩ := recorded_claims he rfl hdecided
  exact ⟨he, rfl, hdecided, htime.trans (by decide), hspace.trans (by decide)⟩

/-- A claimed text that can be read may be overwritten without a correction, beside one that
cannot. -/
theorem not_forall_recorded_claims :
    ¬ ∀ (truth : Option Finding) (evidence : Triple Evidence) (claimConfidence : Float)
        (slot : Approach) (e : Evidence) (c : Claim) (layer : Layer) (a : Solution),
      (slot, e) ∈ evidence.toList → c ∈ e.claim? →
        (slot, (layer, a)) ∈ (decided truth evidence claimConfidence).toList →
          let corrections := (build truth evidence claimConfidence).corrections
          recorded slot .time corrections = (Claim.isOverwritten c.time a.time).toNat ∧
            recorded slot .space corrections = (Claim.isOverwritten c.space a.space).toNat := by
  intro hall
  let c : Claim := ⟨"fast", "O(n)"⟩
  obtain ⟨_, hspace⟩ := hall none (disputedOptimal c) 0.5 .optimal (disputed c) c .ruleEngine
    (.ofAnalysis constantAnalysis) (mem_disputedOptimal c) rfl (mem_decided_disputedOptimal c 0.5)
  have hnone : recorded .optimal .space (build none (disputedOptimal c) 0.5).corrections = 0 := by
    decide
  have hone : (Claim.isOverwritten c.space .constant).toNat = 1 := by decide
  exact absurd (hnone.symm.trans (hspace.trans hone)) (by decide)

end Consensus
end Asymptote
