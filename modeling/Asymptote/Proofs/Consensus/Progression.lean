import Asymptote.Proofs.Consensus.Record
import Mathlib.Data.Option.Basic
import Mathlib.Tactic.MkIffOfInductiveProp

/-! # The repaired progression
Every step of the repair either leaves the triple as it is, and then its own condition holds, or
makes one change. After all steps the triple is settled, and on a settled triple no step has
anything to do. -/
namespace Asymptote
open GroundTruth (Finding)

/-- What the first two steps establish and the others keep. -/
structure Upright (truth : Option Finding) (t : Triple Solution) : Prop where
  better_eq_none : ∀ f ∈ truth, f.entry.hasLadder = false → t.better = none
  optimal_le_brute : ∀ brute ∈ t.bruteForce, ∀ optimal ∈ t.optimal, optimal.cost ≤ brute.cost

@[mk_iff]
structure Between (t : Triple Solution) (better : Solution) : Prop where
  optimal_lt : ∀ optimal ∈ t.optimal, optimal.cost < better.cost
  lt_brute : ∀ brute ∈ t.bruteForce, better.cost < brute.cost

/-- What all steps establish together: no step has anything left to do. -/
structure Settled (truth : Option Finding) (t : Triple Solution) : Prop
    extends Upright truth t where
  between : ∀ better ∈ t.better, Between t better
  optimal_isSome : t.bruteForce.isSome → t.better = none → t.optimal.isSome

namespace Progression

variable (p : Progression) (truth : Option Finding)

theorem dropWithoutLadder_cases :
    (p.dropWithoutLadder truth = p ∧
      ∀ f ∈ truth, f.entry.hasLadder = false → p.solution.better = none) ∨
    ∃ f ∈ truth, ∃ better ∈ p.solution.better, ∃ reason, f.entry.hasLadder = false ∧
      p.dropWithoutLadder truth = p.dropBetter better reason := by
  cases truth with
  | none => left; simp [dropWithoutLadder]
  | some f =>
    cases hb : p.solution.better with
    | none => left; simp [dropWithoutLadder, hb]
    | some better =>
      cases hl : f.entry.hasLadder with
      | true => left; simp [dropWithoutLadder, hb, hl]
      | false => right; simp [dropWithoutLadder, hb, hl]

theorem swapInverted_cases :
    (p.swapInverted = p ∧ ∀ brute ∈ p.solution.bruteForce, ∀ optimal ∈ p.solution.optimal,
      optimal.cost ≤ brute.cost) ∨
    ∃ brute ∈ p.solution.bruteForce, ∃ optimal ∈ p.solution.optimal, brute.cost < optimal.cost ∧
      p.swapInverted.solution = ⟨some optimal, p.solution.better, some brute⟩ := by
  cases hb : p.solution.bruteForce with
  | none => left; simp [swapInverted, hb]
  | some brute =>
    cases ho : p.solution.optimal with
    | none => left; simp [swapInverted, hb, ho]
    | some optimal =>
      by_cases hlt : brute.cost < optimal.cost
      · right; simp [swapInverted, hb, ho, hlt, Solution.cheaper_iff]
      · left; simp [swapInverted, hb, ho, hlt, Solution.cheaper_iff, le_of_not_gt hlt]

theorem dropIdentical_cases :
    (p.dropIdentical = p ∧ ∀ better ∈ p.solution.better, ∀ optimal ∈ p.solution.optimal,
      better.cost ≠ optimal.cost) ∨
    ∃ better ∈ p.solution.better, ∃ optimal ∈ p.solution.optimal, ∃ reason,
      better.cost = optimal.cost ∧ p.dropIdentical = p.dropBetter better reason := by
  cases hb : p.solution.better with
  | none => left; simp [dropIdentical, hb]
  | some better =>
    cases ho : p.solution.optimal with
    | none => left; simp [dropIdentical, hb, ho]
    | some optimal =>
      by_cases heq : better.cost = optimal.cost
      · right; simp [dropIdentical, hb, ho, heq, Solution.sameCost_iff]
      · left; simp [dropIdentical, hb, ho, heq, Solution.sameCost_iff]

theorem dropUnordered_cases :
    (p.dropUnordered = p ∧ ∀ better ∈ p.solution.better, Between p.solution better) ∨
    ∃ better ∈ p.solution.better, ∃ reason, ¬ Between p.solution better ∧
      p.dropUnordered = p.dropBetter better reason := by
  cases hb : p.solution.better with
  | none => left; simp [dropUnordered, hb]
  | some better =>
    have hguard : (p.solution.optimal.all (fun o => o.cheaper better) &&
        p.solution.bruteForce.all fun b => better.cheaper b) = true ↔
        Between p.solution better := by
      simp [between_iff, Option.all_eq_true, Solution.cheaper_iff]
    by_cases hbt : Between p.solution better
    · left; simp [dropUnordered, hb, hguard, hbt]
    · right; simp [dropUnordered, hb, hguard, hbt]

theorem promoteBrute_cases :
    (p.promoteBrute = p ∧
      (p.solution.bruteForce.isSome → p.solution.better = none → p.solution.optimal.isSome)) ∨
    ∃ brute ∈ p.solution.bruteForce, p.solution.better = none ∧ p.solution.optimal = none ∧
      p.promoteBrute.solution = ⟨some brute, none, some brute⟩ := by
  cases hb : p.solution.bruteForce with
  | none => left; simp [promoteBrute, hb]
  | some brute =>
    cases hm : p.solution.better with
    | some better => left; simp [promoteBrute, hb, hm]
    | none =>
      cases ho : p.solution.optimal with
      | some optimal => left; simp [promoteBrute, hb, hm, ho]
      | none => right; simp [promoteBrute, hb, hm, ho]

def Drops (q : Progression) : Prop :=
  q = p ∨ ∃ better reason, q = p.dropBetter better reason

theorem drops_dropWithoutLadder : p.Drops (p.dropWithoutLadder truth) := by
  rcases p.dropWithoutLadder_cases truth with ⟨hsame, _⟩ | ⟨_, _, better, _, reason, _, hdrop⟩
  · exact .inl hsame
  · exact .inr ⟨better, reason, hdrop⟩

theorem drops_dropIdentical : p.Drops p.dropIdentical := by
  rcases p.dropIdentical_cases with ⟨hsame, _⟩ | ⟨better, _, _, _, reason, _, hdrop⟩
  · exact .inl hsame
  · exact .inr ⟨better, reason, hdrop⟩

theorem drops_dropUnordered : p.Drops p.dropUnordered := by
  rcases p.dropUnordered_cases with ⟨hsame, _⟩ | ⟨better, _, reason, _, hdrop⟩
  · exact .inl hsame
  · exact .inr ⟨better, reason, hdrop⟩

theorem upright_swapInverted : Upright truth (p.dropWithoutLadder truth).swapInverted.solution := by
  have hladder : ∀ f ∈ truth, f.entry.hasLadder = false →
      (p.dropWithoutLadder truth).solution.better = none := by
    rcases p.dropWithoutLadder_cases truth with ⟨hsame, hcond⟩ | ⟨_, _, _, _, _, _, hdrop⟩
    · rwa [hsame]
    · rw [hdrop]
      exact fun _ _ _ => rfl
  rcases (p.dropWithoutLadder truth).swapInverted_cases with
    ⟨hsame, hle⟩ | ⟨brute, _, optimal, _, hlt, hswap⟩
  · rw [hsame]
    exact ⟨hladder, hle⟩
  · rw [hswap]
    refine ⟨hladder, ?_⟩
    intro b hb o ho
    cases hb
    cases ho
    exact hlt.le

end Progression

namespace Upright

variable {p q : Progression} {truth : Option Finding}

theorem of_drops (h : Upright truth p.solution) (hdrops : p.Drops q) :
    Upright truth q.solution := by
  rcases hdrops with rfl | ⟨better, reason, rfl⟩
  · exact h
  · exact ⟨fun _ _ _ => rfl, h.optimal_le_brute⟩

theorem promoteBrute (h : Upright truth p.solution)
    (hbetween : ∀ better ∈ p.solution.better, Between p.solution better) :
    Settled truth p.promoteBrute.solution := by
  rcases p.promoteBrute_cases with ⟨hsame, hsome⟩ | ⟨brute, _, _, _, hcopy⟩
  · rw [hsame]
    exact ⟨h, hbetween, hsome⟩
  · rw [hcopy]
    exact ⟨⟨fun _ _ _ => rfl, by simp⟩, by simp, by simp⟩

end Upright

namespace Progression

theorem between_dropUnordered (p : Progression) :
    ∀ better ∈ p.dropUnordered.solution.better, Between p.dropUnordered.solution better := by
  rcases p.dropUnordered_cases with ⟨hsame, hbetween⟩ | ⟨_, _, _, _, hdrop⟩
  · rwa [hsame]
  · rw [hdrop]
    simp [dropBetter]

theorem repair_settled (p : Progression) (truth : Option Finding) :
    Settled truth (p.repair truth).solution := by
  have hswapped := p.upright_swapInverted truth
  have hdropped := (hswapped.of_drops (drops_dropIdentical _)).of_drops (drops_dropUnordered _)
  exact hdropped.promoteBrute (between_dropUnordered _)

theorem repair_eq_self {p : Progression} {truth : Option Finding} (h : Settled truth p.solution) :
    p.repair truth = p := by
  have hladder : p.dropWithoutLadder truth = p := by
    rcases p.dropWithoutLadder_cases truth with ⟨hsame, _⟩ | ⟨f, hf, _, hbetter, _, hnot, _⟩
    · exact hsame
    · simp [h.better_eq_none f hf hnot] at hbetter
  have hswap : p.swapInverted = p := by
    rcases p.swapInverted_cases with ⟨hsame, _⟩ | ⟨brute, hb, optimal, ho, hlt, _⟩
    · exact hsame
    · exact absurd hlt (h.optimal_le_brute brute hb optimal ho).not_gt
  have hidentical : p.dropIdentical = p := by
    rcases p.dropIdentical_cases with ⟨hsame, _⟩ | ⟨better, hb, optimal, ho, _, heq, _⟩
    · exact hsame
    · exact absurd heq ((h.between better hb).optimal_lt optimal ho).ne'
  have hunordered : p.dropUnordered = p := by
    rcases p.dropUnordered_cases with ⟨hsame, _⟩ | ⟨better, hb, _, hnot, _⟩
    · exact hsame
    · exact absurd (h.between better hb) hnot
  have hpromote : p.promoteBrute = p := by
    rcases p.promoteBrute_cases with ⟨hsame, _⟩ | ⟨brute, hb, hm, ho, _⟩
    · exact hsame
    · simpa [ho] using h.optimal_isSome (by simp [Option.mem_def.mp hb]) hm
  rw [repair, hladder, hswap, hidentical, hunordered, hpromote]

end Progression

namespace Consensus

/-- A consensus holds a settled triple, and one more repair of it changes nothing and records
nothing. -/
theorem build_settled (truth : Option Finding) (evidence : Triple Evidence)
    (claimConfidence : Float) :
    let t := (build truth evidence claimConfidence).solution
    Settled truth t ∧ ∀ corrections notes,
      Progression.repair ⟨t, corrections, notes⟩ truth = ⟨t, corrections, notes⟩ := by
  intro t
  have hsettled : Settled truth t := Progression.repair_settled _ truth
  exact ⟨hsettled, fun _ _ => Progression.repair_eq_self hsettled⟩

end Consensus

/-! ## Where a consensus takes its solutions from
The repair removes, moves and copies solutions and makes none up, so each solution of a consensus is
what ground truth or the evidence said about some slot. -/

instance {α : Type} : Membership α (Triple α) :=
  ⟨fun t a => a ∈ t.bruteForce ∨ a ∈ t.better ∨ a ∈ t.optimal⟩

theorem Triple.mem_iff_get? {α : Type} {t : Triple α} {a : α} :
    a ∈ t ↔ ∃ slot, a ∈ t.get? slot := by
  constructor
  · rintro (h | h | h)
    · exact ⟨.bruteForce, h⟩
    · exact ⟨.better, h⟩
    · exact ⟨.optimal, h⟩
  · rintro ⟨slot, h⟩
    cases slot with
    | single => exact .inr (.inr h)
    | bruteForce => exact .inl h
    | better => exact .inr (.inl h)
    | optimal => exact .inr (.inr h)

theorem Triple.mem_map_snd_toList {α : Type} {t : Triple α} {a : α} :
    a ∈ t.toList.map (·.2) ↔ a ∈ t := by
  have hslot (slot : Approach) (o : Option α) :
      a ∈ (o.map (slot, ·)).toList.map (·.2) ↔ a ∈ o := by
    cases o <;> simp [eq_comm]
  simp only [toList, List.map_append, List.mem_append, hslot, or_assoc]
  rfl

namespace Progression

variable {p q : Progression} {truth : Option Finding} {a : Solution}

theorem Drops.mem_of_mem (hdrops : p.Drops q) (h : a ∈ q.solution) : a ∈ p.solution := by
  rcases hdrops with rfl | ⟨better, reason, rfl⟩
  · exact h
  · rcases h with h | h | h
    · exact .inl h
    · cases h
    · exact .inr (.inr h)

theorem mem_of_mem_swapInverted (h : a ∈ p.swapInverted.solution) : a ∈ p.solution := by
  rcases p.swapInverted_cases with ⟨hsame, _⟩ | ⟨brute, hb, optimal, ho, _, hswap⟩
  · rwa [hsame] at h
  · rw [hswap] at h
    rcases h with h | h | h
    · cases h
      exact .inr (.inr ho)
    · exact .inr (.inl h)
    · cases h
      exact .inl hb

theorem mem_of_mem_promoteBrute (h : a ∈ p.promoteBrute.solution) : a ∈ p.solution := by
  rcases p.promoteBrute_cases with ⟨hsame, _⟩ | ⟨brute, hb, _, _, hcopy⟩
  · rwa [hsame] at h
  · rw [hcopy] at h
    rcases h with h | h | h
    · cases h
      exact .inl hb
    · cases h
    · cases h
      exact .inl hb

theorem mem_of_mem_repair (h : a ∈ (p.repair truth).solution) : a ∈ p.solution := by
  have hidentical := (drops_dropUnordered _).mem_of_mem (mem_of_mem_promoteBrute h)
  have hswapped := (drops_dropIdentical _).mem_of_mem hidentical
  exact (p.drops_dropWithoutLadder truth).mem_of_mem (mem_of_mem_swapInverted hswapped)

end Progression

namespace Consensus

variable {truth : Option Finding} {evidence : Triple Evidence} {claimConfidence : Float}

theorem mem_get?_decided {slot : Approach} {v : Layer × Solution} :
    v ∈ (decided truth evidence claimConfidence).get? slot ↔
      ∃ e ∈ evidence.get? slot, e.isEmpty = false ∧
        v ∈ (truth.bind (·.verdict? slot) <|> e.verdict? claimConfidence) := by
  simp only [get?_decided, Option.mem_def, Option.bind_eq_some_iff, Decision.verdict?_ofEvidence]
  refine exists_congr fun e => and_congr_right fun _ => ?_
  cases e.isEmpty <;> simp

theorem mem_decided {v : Layer × Solution} (h : v ∈ decided truth evidence claimConfidence) :
    ∃ slot, ∃ e ∈ evidence.get? slot,
      v ∈ truth.bind (·.verdict? slot) ∨ v ∈ e.verdict? claimConfidence := by
  obtain ⟨slot, hv⟩ := Triple.mem_iff_get?.mp h
  obtain ⟨e, he, _, hv⟩ := mem_get?_decided.mp hv
  exact ⟨slot, e, he, ((Option.orElse_eq_some ..).mp hv).imp_right And.right⟩

theorem exists_mem_decided {a : Solution}
    (h : a ∈ (build truth evidence claimConfidence).solution) :
    ∃ layer, (layer, a) ∈ decided truth evidence claimConfidence := by
  rw [(build_eq_repair truth evidence claimConfidence).1] at h
  rcases Progression.mem_of_mem_repair h with h | h | h
  · obtain ⟨v, hv, rfl⟩ := Option.map_eq_some_iff.mp h
    exact ⟨v.1, .inl hv⟩
  · obtain ⟨v, hv, rfl⟩ := Option.map_eq_some_iff.mp h
    exact ⟨v.1, .inr (.inl hv)⟩
  · obtain ⟨v, hv, rfl⟩ := Option.map_eq_some_iff.mp h
    exact ⟨v.1, .inr (.inr hv)⟩

theorem mem_build {a : Solution} (h : a ∈ (build truth evidence claimConfidence).solution) :
    ∃ layer slot, ∃ e ∈ evidence.get? slot,
      (layer, a) ∈ truth.bind (·.verdict? slot) ∨ (layer, a) ∈ e.verdict? claimConfidence := by
  obtain ⟨layer, hlayer⟩ := exists_mem_decided h
  exact ⟨layer, mem_decided hlayer⟩

end Consensus
end Asymptote
