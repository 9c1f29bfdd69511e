import Asymptote.Proofs.Consensus.Progression
import Asymptote.Proofs.GroundTruth.Acceptance

/-! # Ground truth under the repair
The repair moves brute force and optimal by their costs alone and asks no layer. Where an entry
knows no brute force, one that the evidence makes cheaper than the known optimal approach takes its
place; in every other case the optimal slot is the entry's. -/
namespace Asymptote
open GroundTruth (Finding)

/-- The outer slots, which only a swap and a copy change. -/
def Triple.ends (t : Triple Solution) : Option Solution × Option Solution :=
  (t.bruteForce, t.optimal)

namespace Progression

variable {p q : Progression} (truth : Option Finding)

theorem Drops.ends_eq (h : p.Drops q) : q.solution.ends = p.solution.ends := by
  rcases h with rfl | ⟨better, reason, rfl⟩
  · rfl
  · rfl

theorem ends_promoteBrute {o : Solution} (h : p.solution.optimal = some o) :
    p.promoteBrute.solution.ends = p.solution.ends := by
  rcases p.promoteBrute_cases with ⟨hsame, _⟩ | ⟨_, _, _, hnone, _⟩
  · rw [hsame]
  · simp [h] at hnone

theorem ends_repair {o : Solution}
    (h : (p.dropWithoutLadder truth).swapInverted.solution.optimal = some o) :
    (p.repair truth).solution.ends = (p.dropWithoutLadder truth).swapInverted.solution.ends := by
  let q := (p.dropWithoutLadder truth).swapInverted
  have hdrops : q.dropIdentical.dropUnordered.solution.ends = q.solution.ends :=
    q.dropIdentical.drops_dropUnordered.ends_eq.trans q.drops_dropIdentical.ends_eq
  have hoptimal : q.dropIdentical.dropUnordered.solution.optimal = some o :=
    (congrArg Prod.snd hdrops).trans h
  exact (ends_promoteBrute hoptimal).trans hdrops

theorem ends_repair_of_lt {brute optimal : Solution} (hb : p.solution.bruteForce = some brute)
    (ho : p.solution.optimal = some optimal) (hlt : brute.cost < optimal.cost) :
    (p.repair truth).solution.ends = (some optimal, some brute) := by
  have hladder := (p.drops_dropWithoutLadder truth).ends_eq
  have hbrute := (congrArg Prod.fst hladder).trans hb
  have hoptimal := (congrArg Prod.snd hladder).trans ho
  rcases (p.dropWithoutLadder truth).swapInverted_cases with ⟨_, hle⟩ | ⟨b, hb', o, ho', _, hswap⟩
  · exact absurd hlt (hle brute hbrute optimal hoptimal).not_gt
  · cases hbrute.symm.trans hb'
    cases hoptimal.symm.trans ho'
    rw [ends_repair truth (congrArg Triple.optimal hswap), hswap]
    rfl

theorem ends_repair_of_le {optimal : Solution} (ho : p.solution.optimal = some optimal)
    (hle : ∀ brute ∈ p.solution.bruteForce, optimal.cost ≤ brute.cost) :
    (p.repair truth).solution.ends = p.solution.ends := by
  have hladder := (p.drops_dropWithoutLadder truth).ends_eq
  have hoptimal := (congrArg Prod.snd hladder).trans ho
  rcases (p.dropWithoutLadder truth).swapInverted_cases with ⟨hsame, _⟩ | ⟨b, hb, o, ho', hlt, _⟩
  · rw [ends_repair truth (by rw [hsame]; exact hoptimal), hsame, hladder]
  · cases hoptimal.symm.trans ho'
    have hbrute := (congrArg Prod.fst hladder).symm.trans hb
    exact absurd hlt (hle b hbrute).not_gt

end Progression

theorem Evidence.isEmpty_of_verdict? {e : Evidence} {claimConfidence : Float}
    {v : Layer × Solution} (h : v ∈ e.verdict? claimConfidence) : e.isEmpty = false := by
  cases hempty : e.isEmpty with
  | false => rfl
  | true =>
    simp only [isEmpty, Bool.and_eq_true, Option.isNone_iff_eq_none] at hempty
    simp [verdict?, hempty] at h

namespace Consensus

/-- The entry says nothing of brute force, and the evidence decides a brute force that costs less
than the optimal approach of the entry. -/
def Displaces (truth : Finding) (evidence : Triple Evidence) (claimConfidence : Float)
    (brute : Solution) : Prop :=
  truth.entry.bruteForce = none ∧ brute.cost < truth.entry.optimal.cost ∧
    ∃ e ∈ evidence.bruteForce, ∃ layer, (layer, brute) ∈ e.verdict? claimConfidence

variable {truth : Finding} {evidence : Triple Evidence} {claimConfidence : Float}

theorem decided_optimal {e : Evidence} (he : e ∈ evidence.optimal) (hsome : e.isEmpty = false) :
    (decided (some truth) evidence claimConfidence).optimal =
      some (.groundTruth, .ofKnown truth.entry.optimal truth.confidence) := by
  have hverdict : truth.verdict? .optimal =
      some (.groundTruth, .ofKnown truth.entry.optimal truth.confidence) := rfl
  simp [decided, Option.mem_def.mp he, Decision.verdict?_ofEvidence, hsome, hverdict]

theorem mem_decided_bruteForce {v : Layer × Solution} :
    v ∈ (decided (some truth) evidence claimConfidence).bruteForce ↔
      ∃ e ∈ evidence.bruteForce, e.isEmpty = false ∧
        v ∈ (truth.entry.bruteForce.map (fun k => (.groundTruth, .ofKnown k truth.confidence)) <|>
          e.verdict? claimConfidence) :=
  @mem_get?_decided (some truth) evidence claimConfidence .bruteForce v

theorem displaces_iff (hvalid : truth.entry.Valid) (brute : Solution) :
    Displaces truth evidence claimConfidence brute ↔
      (∃ layer, (layer, brute) ∈ (decided (some truth) evidence claimConfidence).bruteForce) ∧
        brute.cost < truth.entry.optimal.cost := by
  simp only [mem_decided_bruteForce]
  constructor
  · rintro ⟨hnone, hlt, e, he, layer, hv⟩
    have hempty := Evidence.isEmpty_of_verdict? hv
    exact ⟨⟨layer, e, he, hempty, by simpa [hnone] using hv⟩, hlt⟩
  · rintro ⟨⟨layer, e, he, _, hv⟩, hlt⟩
    cases hk : truth.entry.bruteForce with
    | none => exact ⟨hk, hlt, e, he, layer, by simpa [hk] using hv⟩
    | some k =>
      have hbrute : brute = .ofKnown k truth.confidence := by
        rw [hk] at hv
        cases hv
        rfl
      rw [hbrute, Solution.cost_ofKnown] at hlt
      exact absurd hlt (hvalid.optimal_le_brute hk).not_gt

section

variable {e : Evidence} (he : e ∈ evidence.optimal) (hsome : e.isEmpty = false)
include he hsome

theorem unrepaired_optimal :
    (unrepaired (decided (some truth) evidence claimConfidence)).solution.optimal =
      some (.ofKnown truth.entry.optimal truth.confidence) :=
  congrArg (Option.map Prod.snd) (decided_optimal he hsome)

theorem ends_build_of_displaces (hvalid : truth.entry.Valid) {brute : Solution}
    (h : Displaces truth evidence claimConfidence brute) :
    (build (some truth) evidence claimConfidence).solution.ends =
      (some (.ofKnown truth.entry.optimal truth.confidence), some brute) := by
  obtain ⟨⟨layer, hdecided⟩, hlt⟩ := (displaces_iff hvalid brute).mp h
  have hbrute : (unrepaired (decided (some truth) evidence claimConfidence)).solution.bruteForce =
      some brute := congrArg (Option.map Prod.snd) hdecided
  rw [(build_eq_repair ..).1]
  exact Progression.ends_repair_of_lt _ hbrute (unrepaired_optimal he hsome) hlt

theorem build_optimal_of_not_displaces (hvalid : truth.entry.Valid)
    (h : ¬ ∃ brute, Displaces truth evidence claimConfidence brute) :
    (build (some truth) evidence claimConfidence).solution.optimal =
      some (.ofKnown truth.entry.optimal truth.confidence) := by
  let p := unrepaired (decided (some truth) evidence claimConfidence)
  have hoptimal : p.solution.optimal = some (.ofKnown truth.entry.optimal truth.confidence) :=
    unrepaired_optimal he hsome
  have hle : ∀ brute ∈ p.solution.bruteForce, truth.entry.optimal.cost ≤ brute.cost := by
    intro brute hbrute
    obtain ⟨⟨layer, _⟩, hdecided, rfl⟩ := Option.map_eq_some_iff.mp hbrute
    by_contra hlt
    exact h ⟨_, (displaces_iff hvalid _).mpr ⟨⟨layer, hdecided⟩, not_le.mp hlt⟩⟩
  rw [(build_eq_repair ..).1]
  exact (congrArg Prod.snd (Progression.ends_repair_of_le _ hoptimal hle)).trans hoptimal

end

/-- The optimal slot is the entry's exactly if nothing displaces it; what displaces it changes
places with it. -/
theorem build_optimal_iff (haccepted : truth.entry.Accepted) {e : Evidence}
    (he : e ∈ evidence.optimal) (hsome : e.isEmpty = false) :
    let t := (build (some truth) evidence claimConfidence).solution
    ((∃ a ∈ t.optimal, a.time = truth.entry.optimal.time ∧ a.space = truth.entry.optimal.space) ↔
      ¬ ∃ brute, Displaces truth evidence claimConfidence brute) ∧
    ∀ brute, Displaces truth evidence claimConfidence brute →
      t.optimal = some brute ∧
        t.bruteForce = some (.ofKnown truth.entry.optimal truth.confidence) := by
  intro t
  have hdisplaced {brute : Solution} (h : Displaces truth evidence claimConfidence brute) :
      t.optimal = some brute ∧
        t.bruteForce = some (.ofKnown truth.entry.optimal truth.confidence) := by
    have hends := ends_build_of_displaces he hsome haccepted.valid h
    exact ⟨congrArg Prod.snd hends, congrArg Prod.fst hends⟩
  refine ⟨⟨?_, fun hnone => ?_⟩, fun brute hbrute => hdisplaced hbrute⟩
  · rintro ⟨a, ha, htime, hspace⟩ ⟨brute, hbrute⟩
    obtain rfl : brute = a := Option.some.inj ((hdisplaced hbrute).1.symm.trans ha)
    have hcost : brute.cost = truth.entry.optimal.cost := by
      rw [Solution.cost, htime, hspace, GroundTruth.Known.cost]
    exact hbrute.2.1.ne hcost
  · exact ⟨_, build_optimal_of_not_displaces he hsome haccepted.valid hnone, rfl, rfl⟩

def runningSum : GroundTruth.EntryDraft where
  id := "sum"
  optimal := some { time := "O(n)", space := "O(1)", algorithm := "scan" }

def knownSum : Finding where
  entry := { id := "sum", titles := [], fingerprint := [],
             optimal := ⟨.linear, .constant, "scan", none⟩ }
  kind := .title
  confidence := 1.0

theorem accepted_knownSum : knownSum.entry.Accepted :=
  ⟨runningSum, rfl⟩

def claimedSum : Triple Evidence where
  bruteForce := some { claim? := some ⟨"O(1)", "O(1)"⟩ }
  optimal := some { claim? := some ⟨"O(n)", "O(1)"⟩ }

theorem displaces_claimedSum :
    Displaces knownSum claimedSum 0.5 (.ofClaim .constant .constant 0.5) := by
  refine ⟨rfl, by decide, _, rfl, .externalClaim, ?_⟩
  rw [Evidence.verdict?_claim]
  rfl

theorem build_optimal_claimedSum :
    let t := (build (some knownSum) claimedSum 0.5).solution
    knownSum.entry.Accepted ∧
      (∃ e ∈ claimedSum.optimal, e.isEmpty = false) ∧
      Displaces knownSum claimedSum 0.5 (.ofClaim .constant .constant 0.5) ∧
      ((∃ a ∈ t.optimal, a.time = .linear ∧ a.space = .constant) ↔
        ¬ ∃ brute, Displaces knownSum claimedSum 0.5 brute) ∧
      t.optimal = some (.ofClaim .constant .constant 0.5) ∧
      t.bruteForce = some (.ofKnown knownSum.entry.optimal 1.0) := by
  have he : { claim? := some ⟨"O(n)", "O(1)"⟩ } ∈ claimedSum.optimal := rfl
  obtain ⟨hiff, hdisplaced⟩ := @build_optimal_iff knownSum _ 0.5 accepted_knownSum _ he rfl
  exact ⟨accepted_knownSum, ⟨_, he, rfl⟩, displaces_claimedSum, hiff,
    hdisplaced _ displaces_claimedSum⟩

theorem not_forall_build_optimal :
    ¬ ∀ (truth : Finding) (evidence : Triple Evidence) (claimConfidence : Float),
      truth.entry.Accepted → (∃ e ∈ evidence.optimal, e.isEmpty = false) →
        ∃ a ∈ (build (some truth) evidence claimConfidence).solution.optimal,
          a.time = truth.entry.optimal.time ∧ a.space = truth.entry.optimal.space := by
  intro hkeeps
  obtain ⟨a, ha, htime, _⟩ := hkeeps knownSum claimedSum 0.5 accepted_knownSum ⟨_, rfl, rfl⟩
  have he : { claim? := some ⟨"O(n)", "O(1)"⟩ } ∈ claimedSum.optimal := rfl
  have hends := ends_build_of_displaces he rfl accepted_knownSum.valid displaces_claimedSum
  obtain rfl := Option.some.inj ((congrArg Prod.snd hends).symm.trans ha)
  cases htime

end Consensus
end Asymptote
