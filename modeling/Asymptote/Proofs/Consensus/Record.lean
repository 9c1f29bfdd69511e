import Asymptote.Proofs.Consensus.Foremost

/-! # Verdicts and their record
What a consensus depends on is what decides its slots; what it records bears on nothing. -/
namespace Asymptote

/-! ## What decides a slot
The opinions about a slot stand in falling authority, so ranking them is asking the layers one after
the other. A consensus reads nothing else of the evidence than what decides its slots, the record of
corrections apart. -/

open GroundTruth (Finding)

def GroundTruth.Finding.verdict? (f : Finding) (slot : Approach) : Option (Layer × Solution) :=
  (f.entry.approaches.get? slot).map fun k => (.groundTruth, .ofKnown k f.confidence)

namespace Evidence

/-- What the evidence itself says: analysis, or else an amortized pattern, or else a claim that can
be read. -/
def verdict? (e : Evidence) (claimConfidence : Float) : Option (Layer × Solution) :=
  e.analysis?.map (fun a => (.ruleEngine, .ofAnalysis a)) <|>
    e.amortized?.map (fun v => (.patternDetector, .ofAmortized v)) <|>
      (e.claim?.bind Claim.classes?).map fun (time, space) =>
        (.externalClaim, .ofClaim time space claimConfidence)

theorem verdict?_claim (c : Claim) (claimConfidence : Float) :
    ({ claim? := some c } : Evidence).verdict? claimConfidence =
      c.classes?.map fun (time, space) =>
        (.externalClaim, .ofClaim time space claimConfidence) := by
  simp [verdict?]

variable (e : Evidence) (slot : Approach) (truth : Option Finding) (claimConfidence : Float)

theorem opinions_pairwise : (e.opinions slot truth claimConfidence).Pairwise
    fun a b => a.layer.priority < b.layer.priority := by
  cases truth with
  | none =>
    cases ha : e.analysis? <;> cases hm : e.amortized? <;>
      cases hc : e.claim?.bind Claim.classes? <;> simp [opinions, ha, hm, hc, Layer.priority]
  | some f =>
    cases hk : f.entry.approaches.get? slot <;> cases ha : e.analysis? <;>
      cases hm : e.amortized? <;> cases hc : e.claim?.bind Claim.classes? <;>
        simp [opinions, hk, ha, hm, hc, Layer.priority]

theorem head?_opinions : (e.opinions slot truth claimConfidence).head?.map
      (fun o => (o.layer, o.candidate)) =
    (truth.bind (·.verdict? slot) <|> e.verdict? claimConfidence) := by
  simp only [opinions, verdict?]
  cases truth with
  | none =>
    cases e.analysis? <;> cases e.amortized? <;> cases e.claim?.bind Claim.classes? <;> rfl
  | some f =>
    cases hk : f.entry.approaches.get? slot with
    | none =>
      cases e.analysis? <;> cases e.amortized? <;> cases e.claim?.bind Claim.classes? <;>
        simp [Finding.verdict?, hk]
    | some k => simp [Finding.verdict?, hk]

end Evidence

theorem Decision.verdict?_ofEvidence (truth : Option Finding) (claimConfidence : Float)
    (slot : Approach) (e : Evidence) :
    (ofEvidence truth claimConfidence slot e).verdict? =
      if e.isEmpty then none
      else truth.bind (·.verdict? slot) <|> e.verdict? claimConfidence := by
  rw [← e.head?_opinions, ← Opinion.rank_of_pairwise (e.opinions_pairwise ..), ofEvidence]
  split
  · rfl
  · cases Opinion.rank (e.opinions slot truth claimConfidence) <;> rfl

/-! ## The record of a consensus
Corrections are written and never read: the repair of a triple is the same behind any earlier
record, and a consensus depends on the evidence only through what decides its slots, its corrections
apart. -/

namespace Progression

def recordedAfter (p : Progression) (corrections : List Correction) (notes : List String) :
    Progression :=
  { p with corrections := corrections ++ p.corrections, notes := notes ++ p.notes }

variable (p : Progression) (truth : Option Finding)
variable (corrections : List Correction) (notes : List String)

theorem dropWithoutLadder_recordedAfter :
    (p.recordedAfter corrections notes).dropWithoutLadder truth =
      (p.dropWithoutLadder truth).recordedAfter corrections notes := by
  cases truth with
  | none => rfl
  | some f =>
    cases hb : p.solution.better <;> cases hl : f.entry.hasLadder <;>
      simp [dropWithoutLadder, recordedAfter, dropBetter, hb, hl]

theorem swapInverted_recordedAfter :
    (p.recordedAfter corrections notes).swapInverted =
      p.swapInverted.recordedAfter corrections notes := by
  cases hb : p.solution.bruteForce with
  | none => simp [swapInverted, recordedAfter, hb]
  | some brute =>
    cases ho : p.solution.optimal with
    | none => simp [swapInverted, recordedAfter, hb, ho]
    | some optimal =>
      cases hc : brute.cheaper optimal <;> simp [swapInverted, recordedAfter, hb, ho, hc]

theorem dropIdentical_recordedAfter :
    (p.recordedAfter corrections notes).dropIdentical =
      p.dropIdentical.recordedAfter corrections notes := by
  cases hb : p.solution.better with
  | none => simp [dropIdentical, recordedAfter, hb]
  | some better =>
    cases ho : p.solution.optimal with
    | none => simp [dropIdentical, recordedAfter, hb, ho]
    | some optimal =>
      cases hc : better.sameCost optimal <;>
        simp [dropIdentical, recordedAfter, dropBetter, hb, ho, hc]

theorem dropUnordered_recordedAfter :
    (p.recordedAfter corrections notes).dropUnordered =
      p.dropUnordered.recordedAfter corrections notes := by
  cases hb : p.solution.better with
  | none => simp [dropUnordered, recordedAfter, hb]
  | some better =>
    cases ho : p.solution.optimal.all (fun o => o.cheaper better) <;>
      cases hl : p.solution.bruteForce.all (fun b => better.cheaper b) <;>
        simp [dropUnordered, recordedAfter, dropBetter, hb, ho, hl]

theorem promoteBrute_recordedAfter :
    (p.recordedAfter corrections notes).promoteBrute =
      p.promoteBrute.recordedAfter corrections notes := by
  cases hb : p.solution.bruteForce <;> cases hm : p.solution.better <;>
    cases ho : p.solution.optimal <;> simp [promoteBrute, recordedAfter, hb, hm, ho]

theorem repair_recordedAfter :
    (p.recordedAfter corrections notes).repair truth =
      (p.repair truth).recordedAfter corrections notes := by
  simp only [repair, dropWithoutLadder_recordedAfter, swapInverted_recordedAfter,
    dropIdentical_recordedAfter, dropUnordered_recordedAfter, promoteBrute_recordedAfter]

end Progression

theorem Triple.toList_map {α β : Type} (t : Triple α) (f : Approach → α → β) :
    (t.map f).toList = t.toList.map fun (slot, a) => (slot, f slot a) := by
  cases hb : t.bruteForce <;> cases hm : t.better <;> cases ho : t.optimal <;>
    simp [map, toList, hb, hm, ho]

namespace Consensus

def decided (truth : Option Finding) (evidence : Triple Evidence) (claimConfidence : Float) :
    Triple (Layer × Solution) :=
  let verdict? (slot : Approach) (e : Evidence) :=
    (Decision.ofEvidence truth claimConfidence slot e).verdict?
  ⟨evidence.bruteForce.bind (verdict? .bruteForce), evidence.better.bind (verdict? .better),
    evidence.optimal.bind (verdict? .optimal)⟩

def unrepaired (d : Triple (Layer × Solution)) : Progression where
  solution := d.map fun _ => (·.2)

/-- The two differ at most in their corrections and in whether there are any. -/
structure SameVerdict (a b : Consensus) : Prop where
  solution : a.solution = b.solution
  notes : a.notes = b.notes
  source : a.source = b.source
  confidence : a.confidence = b.confidence

variable (truth : Option Finding) (evidence : Triple Evidence) (claimConfidence : Float)

theorem get?_decided (slot : Approach) :
    (decided truth evidence claimConfidence).get? slot =
      (evidence.get? slot).bind fun e =>
        (Decision.ofEvidence truth claimConfidence slot e).verdict? := by
  cases slot with
  | single =>
    simp only [Triple.get?, decided, Decision.verdict?_ofEvidence]
    rfl
  | bruteForce => rfl
  | better => rfl
  | optimal => rfl

def slotCorrections : List (Approach × List Correction) :=
  evidence.toList.map fun (slot, e) =>
    (slot, (Decision.ofEvidence truth claimConfidence slot e).corrections)

theorem flatMap_corrections :
    ((evidence.map (Decision.ofEvidence truth claimConfidence)).toList.map (·.2)).flatMap
        (·.corrections) =
      (slotCorrections truth evidence claimConfidence).flatMap (·.2) := by
  rw [Triple.toList_map, slotCorrections, List.flatMap_map, List.flatMap_map, List.flatMap_map]

theorem build_eq_repair :
    let c := build truth evidence claimConfidence
    let r := (unrepaired (decided truth evidence claimConfidence)).repair truth
    c.solution = r.solution ∧ c.notes = r.notes ∧
      c.corrections =
        (slotCorrections truth evidence claimConfidence).flatMap (·.2) ++ r.corrections := by
  let p := unrepaired (decided truth evidence claimConfidence)
  let d := evidence.map (Decision.ofEvidence truth claimConfidence)
  let solution (d : Option Decision) : Option Solution := (d.bind (·.verdict?)).map (·.2)
  let corrections := (d.toList.map (·.2)).flatMap (·.corrections)
  have hsolution :
      p.solution = ⟨solution d.bruteForce, solution d.better, solution d.optimal⟩ := by
    simp only [p, d, solution, unrepaired, decided, Triple.map, Option.map_bind, Option.bind_map,
      Function.comp_def]
  have hstart : p.recordedAfter corrections [] =
      { solution := ⟨solution d.bruteForce, solution d.better, solution d.optimal⟩
        corrections } := by
    rw [← hsolution]
    simp [Progression.recordedAfter, p, unrepaired]
  have hrepair := p.repair_recordedAfter truth corrections []
  rw [hstart] at hrepair
  have hsame := congrArg Progression.solution hrepair
  have hnotes := congrArg Progression.notes hrepair
  have hcorrections := congrArg Progression.corrections hrepair
  refine ⟨hsame, hnotes, ?_⟩
  rw [← flatMap_corrections]
  exact hcorrections

theorem filterMap_verdict? :
    ((evidence.map (Decision.ofEvidence truth claimConfidence)).toList.map (·.2)).filterMap
        (·.verdict?) =
      (decided truth evidence claimConfidence).toList.map (·.2) := by
  have hslot (slot : Approach) (e : Option Evidence) :
      (((e.map (Decision.ofEvidence truth claimConfidence slot)).map (slot, ·)).toList.map
        (·.2)).filterMap (·.verdict?) =
      ((e.bind fun e => (Decision.ofEvidence truth claimConfidence slot e).verdict?).map
        (slot, ·)).toList.map (·.2) := by
    cases e with
    | none => rfl
    | some e => cases h : (Decision.ofEvidence truth claimConfidence slot e).verdict? <;> simp [h]
  simp only [Triple.toList, Triple.map, List.map_append, List.filterMap_append, hslot, decided]

theorem source_build : (build truth evidence claimConfidence).source =
    ((highest (((decided truth evidence claimConfidence).toList.map (·.2)).map (·.1))).map
      Layer.name).getD "none" := by
  rw [← filterMap_verdict?]
  rfl

theorem confidence_build : (build truth evidence claimConfidence).confidence =
    (lowest (((decided truth evidence claimConfidence).toList.map (·.2)).map
      (·.2.confidence))).getD 0.0 := by
  rw [← filterMap_verdict?]
  rfl

theorem build_congr {evidence₁ evidence₂ : Triple Evidence}
    (h : decided truth evidence₁ claimConfidence = decided truth evidence₂ claimConfidence) :
    SameVerdict (build truth evidence₁ claimConfidence)
      (build truth evidence₂ claimConfidence) := by
  obtain ⟨hsolution₁, hnotes₁, _⟩ := build_eq_repair truth evidence₁ claimConfidence
  obtain ⟨hsolution₂, hnotes₂, _⟩ := build_eq_repair truth evidence₂ claimConfidence
  rw [← h] at hsolution₂ hnotes₂
  constructor
  · rw [hsolution₁, hsolution₂]
  · rw [hnotes₁, hnotes₂]
  · rw [source_build, source_build, h]
  · rw [confidence_build, confidence_build, h]

end Consensus
end Asymptote
