import Asymptote.Proofs.Consensus.ClaimRecord
import Asymptote.Proofs.Consensus.Displacement

/-! # Confidences decide nothing
No two opinions about a slot are of one layer, so no tie between them is left to their confidences,
and the repair asks for times and spaces alone. A consensus is therefore the same however sure its
layers are, the confidences in it apart. The one that it reports is at most any that is a number. -/
namespace Asymptote
open GroundTruth (Finding)

def Solution.unweighted (a : Solution) : Solution :=
  { a with confidence := 0 }

def Analysis.unweighted (a : Analysis) : Analysis :=
  { a with confidence := 0 }

def Evidence.unweighted (e : Evidence) : Evidence :=
  { e with analysis? := e.analysis?.map (·.unweighted) }

/-- A finding is as sure as its kind, so both go. -/
def GroundTruth.Finding.unweighted (f : Finding) : Finding :=
  { f with kind := .title, confidence := 0 }

def Consensus.unweighted (c : Consensus) : Consensus :=
  { c with confidence := 0, solution := c.solution.map fun _ => (·.unweighted) }

/-! ## Deciding a slot -/

namespace Decision

def unweigh (v : Layer × Solution) : Layer × Solution :=
  (v.1, v.2.unweighted)

def unweighted (d : Decision) : Decision :=
  { d with verdict? := d.verdict?.map unweigh }

theorem unweigh_verdict?_finding (f : Finding) (slot : Approach) :
    (f.verdict? slot).map unweigh = (f.unweighted.verdict? slot).map unweigh := by
  simp only [Finding.verdict?, Option.map_map]
  rfl

theorem unweigh_verdict?_evidence (e : Evidence) (claimConfidence : Float) :
    (e.verdict? claimConfidence).map unweigh = (e.unweighted.verdict? 0).map unweigh := by
  simp only [Evidence.verdict?, Evidence.unweighted]
  cases e.analysis? with
  | some a => rfl
  | none =>
    cases e.amortized? with
    | some v => rfl
    | none => cases e.claim?.bind Claim.classes? <;> rfl

theorem unweigh_orElse (u v : Option (Layer × Solution)) :
    (u <|> v).map unweigh = (u.map unweigh <|> v.map unweigh) := by
  cases u <;> rfl

theorem isEmpty_unweighted (e : Evidence) : e.unweighted.isEmpty = e.isEmpty := by
  simp [Evidence.unweighted, Evidence.isEmpty]

variable (truth : Option Finding) (claimConfidence : Float) (slot : Approach) (e : Evidence)

theorem unweigh_verdict?_ofEvidence :
    (ofEvidence truth claimConfidence slot e).verdict?.map unweigh =
      (ofEvidence (truth.map (·.unweighted)) 0 slot e.unweighted).verdict?.map unweigh := by
  have htruth : (truth.bind (·.verdict? slot)).map unweigh =
      ((truth.map (·.unweighted)).bind (·.verdict? slot)).map unweigh := by
    cases truth with
    | none => rfl
    | some f => exact unweigh_verdict?_finding f slot
  rw [verdict?_ofEvidence, verdict?_ofEvidence, isEmpty_unweighted]
  split
  · rfl
  · rw [unweigh_orElse, unweigh_orElse, htruth, unweigh_verdict?_evidence]

theorem claimCorrections_unweigh (verdict? : Option (Layer × Solution)) (c : Claim) :
    claimCorrections slot (verdict?.map unweigh) c = claimCorrections slot verdict? c := by
  cases verdict? <;> rfl

theorem unweighted_ofEvidence :
    (ofEvidence truth claimConfidence slot e).unweighted =
      (ofEvidence (truth.map (·.unweighted)) 0 slot e.unweighted).unweighted := by
  have hverdict := unweigh_verdict?_ofEvidence truth claimConfidence slot e
  have hcorrections : (ofEvidence truth claimConfidence slot e).corrections =
      (ofEvidence (truth.map (·.unweighted)) 0 slot e.unweighted).corrections := by
    have hclaim : e.unweighted.claim? = e.claim? := rfl
    have hsame : claimCorrections slot (ofEvidence truth claimConfidence slot e).verdict? =
        claimCorrections slot
          (ofEvidence (truth.map (·.unweighted)) 0 slot e.unweighted).verdict? := by
      funext c
      rw [← claimCorrections_unweigh, hverdict, claimCorrections_unweigh]
    rw [corrections_ofEvidence, corrections_ofEvidence, hclaim, hsame]
  simp only [unweighted, hverdict, hcorrections]

end Decision

/-! ## The repair -/

/-- Times and spaces stay as they are, and with them all that the repair asks for. -/
structure KeepsCost (f : Solution → Solution) : Prop where
  time : ∀ a, (f a).time = a.time
  space : ∀ a, (f a).space = a.space

namespace KeepsCost

variable {f : Solution → Solution} (hf : KeepsCost f)
include hf

theorem cheaper_eq (a b : Solution) : (f a).cheaper (f b) = a.cheaper b := by
  simp [Solution.cheaper, hf.time, hf.space]

theorem sameCost_eq (a b : Solution) : (f a).sameCost (f b) = a.sameCost b := by
  simp [Solution.sameCost, hf.time, hf.space]

theorem description_eq (a : Solution) : (f a).description = a.description := by
  simp [Solution.description, hf.time, hf.space]

end KeepsCost

theorem keepsCost_unweighted : KeepsCost Solution.unweighted :=
  ⟨fun _ => rfl, fun _ => rfl⟩

namespace Progression

def mapped (p : Progression) (f : Solution → Solution) : Progression :=
  { p with solution := p.solution.map fun _ => f }

variable {f : Solution → Solution} (hf : KeepsCost f) (p : Progression)

section
include hf

theorem dropBetter_mapped (better : Solution) (reason : String) :
    (p.mapped f).dropBetter (f better) reason = (p.dropBetter better reason).mapped f := by
  simp [dropBetter, mapped, Triple.map, hf.description_eq]

theorem dropWithoutLadder_mapped (truth : Option Finding) :
    (p.mapped f).dropWithoutLadder truth = (p.dropWithoutLadder truth).mapped f := by
  cases truth with
  | none => rfl
  | some t =>
    have hbetter : (p.mapped f).solution.better = p.solution.better.map f := rfl
    unfold dropWithoutLadder
    rw [hbetter]
    cases p.solution.better with
    | none => rfl
    | some better =>
      dsimp only [Option.map_some]
      cases t.entry.hasLadder with
      | true => rfl
      | false => exact dropBetter_mapped hf p better _

theorem swapInverted_mapped : (p.mapped f).swapInverted = p.swapInverted.mapped f := by
  have hbrute : (p.mapped f).solution.bruteForce = p.solution.bruteForce.map f := rfl
  have hoptimal : (p.mapped f).solution.optimal = p.solution.optimal.map f := rfl
  rw [swapInverted, swapInverted, hbrute, hoptimal]
  cases p.solution.bruteForce with
  | none => rfl
  | some brute =>
    cases p.solution.optimal with
    | none => rfl
    | some optimal =>
      simp only [Option.map_some, hf.cheaper_eq, hf.description_eq]
      cases brute.cheaper optimal <;> rfl

theorem dropIdentical_mapped : (p.mapped f).dropIdentical = p.dropIdentical.mapped f := by
  have hbetter : (p.mapped f).solution.better = p.solution.better.map f := rfl
  have hoptimal : (p.mapped f).solution.optimal = p.solution.optimal.map f := rfl
  rw [dropIdentical, dropIdentical, hbetter, hoptimal]
  cases p.solution.better with
  | none => rfl
  | some better =>
    cases p.solution.optimal with
    | none => rfl
    | some optimal =>
      simp only [Option.map_some, hf.sameCost_eq, dropBetter_mapped hf]
      cases better.sameCost optimal <;> rfl

theorem dropUnordered_mapped : (p.mapped f).dropUnordered = p.dropUnordered.mapped f := by
  have hbrute : (p.mapped f).solution.bruteForce = p.solution.bruteForce.map f := rfl
  have hbetter : (p.mapped f).solution.better = p.solution.better.map f := rfl
  have hoptimal : (p.mapped f).solution.optimal = p.solution.optimal.map f := rfl
  rw [dropUnordered, dropUnordered, hbetter, hbrute, hoptimal]
  cases p.solution.better with
  | none => rfl
  | some better =>
    simp only [Option.map_some, Option.all_map, hf.cheaper_eq, dropBetter_mapped hf]
    split <;> rfl

omit hf in
theorem promoteBrute_mapped : (p.mapped f).promoteBrute = p.promoteBrute.mapped f := by
  obtain ⟨⟨brute, better, optimal⟩, corrections, notes⟩ := p
  cases brute <;> cases better <;> cases optimal <;> rfl

theorem repair_mapped (truth : Option Finding) :
    (p.mapped f).repair truth = (p.repair truth).mapped f := by
  simp only [repair, dropWithoutLadder_mapped hf, swapInverted_mapped hf, dropIdentical_mapped hf,
    dropUnordered_mapped hf, promoteBrute_mapped]

end

theorem repair_unweighted (truth : Option Finding) :
    p.repair (truth.map (·.unweighted)) = p.repair truth := by
  have hladder : p.dropWithoutLadder (truth.map (·.unweighted)) = p.dropWithoutLadder truth := by
    unfold dropWithoutLadder
    cases truth with
    | none => rfl
    | some f => cases p.solution.better <;> rfl
  rw [repair, repair, hladder]

end Progression

/-! ## The consensus -/

namespace Consensus

variable (truth : Option Finding) (evidence : Triple Evidence) (claimConfidence : Float)

def unweightedEvidence (evidence : Triple Evidence) : Triple Evidence :=
  evidence.map fun _ => (·.unweighted)

theorem unweigh_decided :
    (decided truth evidence claimConfidence).map (fun _ => Decision.unweigh) =
      (decided (truth.map (·.unweighted)) (unweightedEvidence evidence) 0).map
        fun _ => Decision.unweigh := by
  have hslot (slot : Approach) (e : Option Evidence) :
      (e.bind fun e => (Decision.ofEvidence truth claimConfidence slot e).verdict?).map
          Decision.unweigh =
        ((e.map (·.unweighted)).bind fun e =>
          (Decision.ofEvidence (truth.map (·.unweighted)) 0 slot e).verdict?).map
            Decision.unweigh := by
    cases e with
    | none => rfl
    | some e => exact Decision.unweigh_verdict?_ofEvidence truth claimConfidence slot e
  simp only [decided, unweightedEvidence, Triple.map, hslot]

theorem slotCorrections_unweighted :
    slotCorrections truth evidence claimConfidence =
      slotCorrections (truth.map (·.unweighted)) (unweightedEvidence evidence) 0 := by
  rw [slotCorrections, slotCorrections, unweightedEvidence, Triple.toList_map, List.map_map]
  refine List.map_congr_left fun x _ => ?_
  have hcorrections := congrArg Decision.corrections
    (Decision.unweighted_ofEvidence truth claimConfidence x.1 x.2)
  exact congrArg (x.1, ·) hcorrections

theorem layers_unweigh (t : Triple (Layer × Solution)) :
    (t.map fun _ => Decision.unweigh).toList.map (·.2.1) = t.toList.map (·.2.1) := by
  rw [Triple.toList_map, List.map_map]
  rfl

theorem mapped_unrepaired (t : Triple (Layer × Solution)) :
    (unrepaired t).mapped Solution.unweighted =
      unrepaired (t.map fun _ => Decision.unweigh) := by
  simp only [unrepaired, Progression.mapped, Triple.map, Option.map_map]
  rfl

theorem unweighted_build :
    (build truth evidence claimConfidence).unweighted =
      (build (truth.map (·.unweighted)) (unweightedEvidence evidence) 0).unweighted := by
  let d := decided truth evidence claimConfidence
  let d' := decided (truth.map (·.unweighted)) (unweightedEvidence evidence) 0
  have hdecided : d.map (fun _ => Decision.unweigh) = d'.map fun _ => Decision.unweigh :=
    unweigh_decided truth evidence claimConfidence
  have hrepair : ((unrepaired d).repair truth).mapped Solution.unweighted =
      ((unrepaired d').repair (truth.map (·.unweighted))).mapped Solution.unweighted := by
    rw [Progression.repair_unweighted, ← Progression.repair_mapped keepsCost_unweighted,
      ← Progression.repair_mapped keepsCost_unweighted, mapped_unrepaired, mapped_unrepaired,
      hdecided]
  obtain ⟨hsolution, hnotes, hcorrections⟩ := build_eq_repair truth evidence claimConfidence
  obtain ⟨hsolution', hnotes', hcorrections'⟩ :=
    build_eq_repair (truth.map (·.unweighted)) (unweightedEvidence evidence) 0
  have hrecord := congrArg Progression.corrections hrepair
  have hnoted := congrArg Progression.notes hrepair
  have hlayers : d.toList.map (·.2.1) = d'.toList.map (·.2.1) := by
    rw [← layers_unweigh, hdecided, layers_unweigh]
  have hall : (build truth evidence claimConfidence).corrections =
      (build (truth.map (·.unweighted)) (unweightedEvidence evidence) 0).corrections := by
    rw [hcorrections, hcorrections', slotCorrections_unweighted]
    exact congrArg (_ ++ ·) hrecord
  simp only [unweighted, mk.injEq]
  refine ⟨congrArg List.isEmpty hall, ?source, trivial, ?solution, hall, ?notes⟩
  case source =>
    rw [source_build, source_build, List.map_map, List.map_map]
    exact congrArg (fun layers => ((highest layers).map Layer.name).getD "none") hlayers
  case solution =>
    rw [hsolution, hsolution']
    exact congrArg Progression.solution hrepair
  case notes =>
    rw [hnotes, hnotes']
    exact hnoted

/-! ## The reported confidence -/

section
open FloatOrder

variable {a b x : Float}

theorem lesser_le_left (ha : IsNumber a) : lesser a b ≤ a := by
  rw [lesser, isNumber_iff.mp ha, Bool.false_or]
  split
  · next hlt => exact le_of_lt (of_decide_eq_true hlt)
  · exact FloatOrder.le_refl ha

theorem lesser_le_right (hb : IsNumber b) : lesser a b ≤ b := by
  rw [lesser]
  split
  · exact FloatOrder.le_refl hb
  · next hkept =>
    obtain ⟨hnan, hle⟩ : a.isNaN = false ∧ ¬ b < a := by simpa using hkept
    exact (not_lt_iff hb (isNumber_iff.mpr hnan)).mp hle

theorem foldl_lesser_le (first : Float) (others : List Float) (hx : IsNumber x)
    (h : x ∈ first :: others) : others.foldl lesser first ≤ x := by
  induction others generalizing first x with
  | nil =>
    rw [List.mem_singleton.mp h]
    exact FloatOrder.le_refl (List.mem_singleton.mp h ▸ hx)
  | cons next others ih =>
    have hkept (hle : lesser first next ≤ x) : (next :: others).foldl lesser first ≤ x :=
      FloatOrder.le_trans (ih _ (isNumber_of_ge hle) List.mem_cons_self) hle
    rcases List.mem_cons.mp h with rfl | h
    · exact hkept (lesser_le_left hx)
    · rcases List.mem_cons.mp h with rfl | h
      · exact hkept (lesser_le_right hx)
      · exact ih _ hx (List.mem_cons_of_mem _ h)

theorem lowest_le {xs : List Float} (hx : IsNumber x) (h : x ∈ xs) (default : Float) :
    (lowest xs).getD default ≤ x := by
  cases xs with
  | nil => cases h
  | cons first others => exact foldl_lesser_le first others hx h

theorem confidence_le {s : Solution}
    (hs : s ∈ (build truth evidence claimConfidence).solution) (hnumber : IsNumber s.confidence) :
    (build truth evidence claimConfidence).confidence ≤ s.confidence := by
  obtain ⟨layer, hdecided⟩ := exists_mem_decided hs
  rw [confidence_build]
  exact lowest_le hnumber
    (List.mem_map.mpr ⟨_, Triple.mem_map_snd_toList.mpr hdecided, rfl⟩) 0.0

end

def analyzedSum (confidence : Float) : Triple Evidence where
  bruteForce := some
    { analysis? := some { constantAnalysis with time := .quadratic, confidence }
      claim? := some ⟨"O(n)", "O(1)"⟩ }
  optimal := some { claim? := some ⟨"O(n)", "fast"⟩ }

theorem unweighted_analyzedSum (confidence : Float) :
    unweightedEvidence (analyzedSum confidence) = analyzedSum 0 := rfl

end Consensus
end Asymptote
