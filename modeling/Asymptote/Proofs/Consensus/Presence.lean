import Asymptote.Proofs.Consensus.ClaimRecord

/-! # The record of presence
Between the decided triple and the repaired one each slot has at most one correction of its presence.
It describes what was decided there and what stands there now, and a slot without one is as it was
decided. Only the copy of a lone brute force is noted instead. -/
namespace Asymptote
open GroundTruth (Finding)

/-- The content of a slot. A snippet on its own is no slot of a triple. -/
def Triple.slot? {α : Type} (t : Triple α) : Approach → Option α
  | .single => none
  | .bruteForce => t.bruteForce
  | .better => t.better
  | .optimal => t.optimal

theorem Triple.mem_toList_iff {α : Type} {t : Triple α} {slot : Approach} {a : α} :
    (slot, a) ∈ t.toList ↔ a ∈ t.slot? slot := by
  rw [mem_toList]
  cases slot <;> simp [slot?, get?]

def presences (slot : Approach) (corrections : List Correction) : List Correction :=
  corrections.filter fun c => c.approach = slot ∧ c.field = .presence

theorem presences_append (slot : Approach) (cs ds : List Correction) :
    presences slot (cs ++ ds) = presences slot cs ++ presences slot ds :=
  List.filter_append ..

def Solution.described (a? : Option Solution) : String :=
  (a?.map description).getD "absent"

/-- What becomes of a slot and the corrections that tell it: none if the content stays, one with both
descriptions if a content gives way to another or to none. -/
inductive Change (slot : Approach) (before after : Option Solution) : List Correction → Prop
  | kept (h : after = before) : Change slot before after []
  | replaced {a : Solution} {reason : String} (ha : a ∈ before) (h : after ≠ before) :
      Change slot before after
        [⟨slot, .presence, a.description, Solution.described after, reason⟩]

namespace Change

variable {slot : Approach} {before after later : Option Solution} {cs ds : List Correction}

theorem eq_of_nil (h : Change slot before after []) : after = before := by
  cases h with
  | kept h => exact h

theorem of_none (h : Change slot none after cs) : after = none ∧ cs = [] := by
  cases h with
  | kept h => exact ⟨h, rfl⟩
  | replaced ha => cases ha

theorem trans (hfirst : Change slot before after cs) (hsecond : Change slot after later ds)
    (h : after = before ∨ after = none ∨ later = after) : Change slot before later (cs ++ ds) := by
  cases hfirst with
  | kept hkept =>
    subst hkept
    exact hsecond
  | replaced ha hne =>
    have hkept : later = after := by
      rcases h with h | rfl | h
      · exact absurd h hne
      · exact hsecond.of_none.1
      · exact h
    subst hkept
    cases hsecond with
    | kept => exact .replaced ha hne
    | replaced _ hne => exact absurd rfl hne

end Change

structure Copies (before after : Triple Solution) : Prop where
  before : before.optimal = none
  isSome : after.optimal.isSome
  copy : after.optimal = after.bruteForce

namespace Progression

variable {p q r : Progression} {slot : Approach}

def Tells (p q : Progression) (slot : Approach) : Prop :=
  ∃ new, presences slot q.corrections = presences slot p.corrections ++ new ∧
    Change slot (p.solution.slot? slot) (q.solution.slot? slot) new

theorem Tells.refl (p : Progression) (slot : Approach) : p.Tells p slot :=
  ⟨[], by simp, .kept rfl⟩

theorem Tells.trans (hpq : p.Tells q slot) (hqr : q.Tells r slot)
    (h : q.solution.slot? slot = p.solution.slot? slot ∨ q.solution.slot? slot = none ∨
      r.solution.slot? slot = q.solution.slot? slot) : p.Tells r slot := by
  obtain ⟨cs, hq, hfirst⟩ := hpq
  obtain ⟨ds, hr, hsecond⟩ := hqr
  exact ⟨cs ++ ds, by rw [hr, hq, List.append_assoc], hfirst.trans hsecond h⟩

theorem tells_dropBetter {better : Solution} (hb : better ∈ p.solution.better) (reason : String)
    (slot : Approach) : p.Tells (p.dropBetter better reason) slot := by
  cases slot with
  | better =>
    refine ⟨_, presences_append .., .replaced hb ?_⟩
    simp [Triple.slot?, dropBetter, Option.mem_def.mp hb]
  | single => exact ⟨[], by simp [dropBetter, presences], .kept rfl⟩
  | bruteForce => exact ⟨[], by simp [dropBetter, presences], .kept rfl⟩
  | optimal => exact ⟨[], by simp [dropBetter, presences], .kept rfl⟩

theorem tells_dropWithoutLadder (p : Progression) (truth : Option Finding) (slot : Approach) :
    p.Tells (p.dropWithoutLadder truth) slot := by
  rcases p.dropWithoutLadder_cases truth with ⟨hsame, _⟩ | ⟨_, _, better, hb, reason, _, hdrop⟩
  · rw [hsame]
    exact .refl p slot
  · rw [hdrop]
    exact tells_dropBetter hb reason slot

theorem tells_dropIdentical (p : Progression) (slot : Approach) :
    p.Tells p.dropIdentical slot := by
  rcases p.dropIdentical_cases with ⟨hsame, _⟩ | ⟨better, hb, _, _, reason, _, hdrop⟩
  · rw [hsame]
    exact .refl p slot
  · rw [hdrop]
    exact tells_dropBetter hb reason slot

theorem tells_dropUnordered (p : Progression) (slot : Approach) :
    p.Tells p.dropUnordered slot := by
  rcases p.dropUnordered_cases with ⟨hsame, _⟩ | ⟨better, hb, reason, _, hdrop⟩
  · rw [hsame]
    exact .refl p slot
  · rw [hdrop]
    exact tells_dropBetter hb reason slot

theorem tells_swapInverted (p : Progression) (slot : Approach) : p.Tells p.swapInverted slot := by
  rw [swapInverted]
  split
  next brute optimal hb ho =>
    split
    next hcheaper =>
      have hne : brute ≠ optimal := by
        rintro rfl
        exact lt_irrefl _ (Solution.cheaper_iff.mp hcheaper)
      cases slot with
      | bruteForce =>
        refine ⟨_, presences_append .., .replaced hb ?_⟩
        simpa [Triple.slot?, hb] using hne.symm
      | optimal =>
        refine ⟨_, presences_append .., .replaced ho ?_⟩
        simpa [Triple.slot?, ho] using hne
      | better => exact ⟨[], by simp [presences], .kept rfl⟩
      | single => exact ⟨[], by simp [presences], .kept rfl⟩
    next => exact .refl p slot
  next => exact .refl p slot

theorem Drops.slot?_eq (h : p.Drops q) (hslot : slot ≠ .better) :
    q.solution.slot? slot = p.solution.slot? slot := by
  rcases h with rfl | ⟨better, reason, rfl⟩
  · rfl
  · cases slot with
    | better => exact absurd rfl hslot
    | single => rfl
    | bruteForce => rfl
    | optimal => rfl

theorem Drops.better_eq_or (h : p.Drops q) :
    q.solution.better = p.solution.better ∨ q.solution.better = none := by
  rcases h with rfl | ⟨better, reason, rfl⟩
  · exact .inl rfl
  · exact .inr rfl

theorem better_swapInverted (p : Progression) :
    p.swapInverted.solution.better = p.solution.better := by
  rcases p.swapInverted_cases with ⟨hsame, _⟩ | ⟨_, _, _, _, _, hswap⟩
  · rw [hsame]
  · rw [hswap]

theorem isSome_optimal_swapInverted (p : Progression) :
    p.swapInverted.solution.optimal.isSome = p.solution.optimal.isSome := by
  rcases p.swapInverted_cases with ⟨hsame, _⟩ | ⟨_, _, optimal, ho, _, hswap⟩
  · rw [hsame]
  · rw [hswap, Option.mem_def.mp ho]
    rfl

theorem Drops.notes_eq (h : p.Drops q) : q.notes = p.notes := by
  rcases h with rfl | ⟨better, reason, rfl⟩
  · rfl
  · rfl

theorem notes_swapInverted (p : Progression) : p.swapInverted.notes = p.notes := by
  rw [swapInverted]
  split
  · split <;> rfl
  · rfl

theorem promoteBrute_eq_or (p : Progression) :
    p.promoteBrute = p ∨ ∃ brute, p.solution = ⟨some brute, none, none⟩ ∧
      p.promoteBrute = ⟨⟨some brute, none, some brute⟩, p.corrections,
        p.notes ++ ["brute force is already optimal"]⟩ := by
  obtain ⟨⟨bruteForce, better, optimal⟩, corrections, notes⟩ := p
  cases bruteForce with
  | none => exact .inl rfl
  | some brute =>
    cases better with
    | some _ => exact .inl rfl
    | none =>
      cases optimal with
      | some _ => exact .inl rfl
      | none => exact .inr ⟨brute, rfl, rfl⟩

def ordered (p : Progression) (truth : Option Finding) : Progression :=
  (p.dropWithoutLadder truth).swapInverted.dropIdentical.dropUnordered

variable (p) (truth : Option Finding)

theorem repair_eq_promoteBrute : p.repair truth = (p.ordered truth).promoteBrute := rfl

theorem tells_ordered (slot : Approach) : p.Tells (p.ordered truth) slot := by
  let laddered := p.dropWithoutLadder truth
  let swapped := laddered.swapInverted
  let distinct := swapped.dropIdentical
  have hladder : p.Tells laddered slot := p.tells_dropWithoutLadder truth slot
  have hswap : laddered.Tells swapped slot := laddered.tells_swapInverted slot
  have hidentical : swapped.Tells distinct slot := swapped.tells_dropIdentical slot
  have hunordered : distinct.Tells distinct.dropUnordered slot := distinct.tells_dropUnordered slot
  by_cases hslot : slot = .better
  · -- What is taken away does not come back, so a later drop finds nothing to take.
    subst hslot
    have hkept : swapped.solution.better = laddered.solution.better := laddered.better_swapInverted
    have hfirst : swapped.solution.better = p.solution.better ∨ swapped.solution.better = none := by
      rw [hkept]
      exact (p.drops_dropWithoutLadder truth).better_eq_or
    have hsecond : distinct.solution.better = p.solution.better ∨
        distinct.solution.better = none := by
      rcases swapped.drops_dropIdentical.better_eq_or with hsame | hnone
      · rw [hsame]
        exact hfirst
      · exact .inr hnone
    have hdistinct := (hladder.trans hswap (.inr (.inr hkept))).trans hidentical
      (hfirst.imp_right .inl)
    exact hdistinct.trans hunordered (hsecond.imp_right .inl)
  · -- The drops leave the outer slots alone, so the swap is the one step that changes them.
    have hfirst := (p.drops_dropWithoutLadder truth).slot?_eq hslot
    have hthird := swapped.drops_dropIdentical.slot?_eq hslot
    have hfourth := distinct.drops_dropUnordered.slot?_eq hslot
    have hdistinct := (hladder.trans hswap (.inl hfirst)).trans hidentical (.inr (.inr hthird))
    exact hdistinct.trans hunordered (.inr (.inr hfourth))

theorem notes_ordered : (p.ordered truth).notes = p.notes := by
  rw [ordered, (drops_dropUnordered _).notes_eq, (drops_dropIdentical _).notes_eq,
    notes_swapInverted, (p.drops_dropWithoutLadder truth).notes_eq]

theorem isSome_optimal_ordered :
    (p.ordered truth).solution.optimal.isSome = p.solution.optimal.isSome := by
  let swapped := (p.dropWithoutLadder truth).swapInverted
  have hne : Approach.optimal ≠ .better := by decide
  have hladder := (p.drops_dropWithoutLadder truth).slot?_eq hne
  have hdrops : (p.ordered truth).solution.optimal = swapped.solution.optimal :=
    (swapped.dropIdentical.drops_dropUnordered.slot?_eq hne).trans
      (swapped.drops_dropIdentical.slot?_eq hne)
  calc
    (p.ordered truth).solution.optimal.isSome = swapped.solution.optimal.isSome := by rw [hdrops]
    _ = (p.dropWithoutLadder truth).solution.optimal.isSome := isSome_optimal_swapInverted _
    _ = p.solution.optimal.isSome := congrArg Option.isSome hladder

theorem tells_repair_or (slot : Approach) :
    p.Tells (p.repair truth) slot ∨
      slot = .optimal ∧ Copies p.solution (p.repair truth).solution ∧
        presences slot (p.repair truth).corrections = presences slot p.corrections := by
  obtain ⟨new, hrecord, hchange⟩ := p.tells_ordered truth slot
  have hoptimal := p.isSome_optimal_ordered truth
  rw [repair_eq_promoteBrute]
  rcases (p.ordered truth).promoteBrute_eq_or with hsame | ⟨brute, hlone, hcopy⟩
  · rw [hsame]
    exact .inl ⟨new, hrecord, hchange⟩
  · rw [hlone] at hchange hoptimal
    have hnone : p.solution.optimal = none := by simpa using hoptimal.symm
    rw [hcopy]
    cases slot with
    | optimal =>
      rw [Triple.slot?, hnone] at hchange
      rw [hchange.of_none.2, List.append_nil] at hrecord
      exact .inr ⟨rfl, ⟨hnone, rfl, rfl⟩, hrecord⟩
    | single => exact .inl ⟨new, hrecord, hchange⟩
    | bruteForce => exact .inl ⟨new, hrecord, hchange⟩
    | better => exact .inl ⟨new, hrecord, hchange⟩

theorem copies_repair_iff (hnotes : p.notes = []) :
    Copies p.solution (p.repair truth).solution ↔
      "brute force is already optimal" ∈ (p.repair truth).notes := by
  have hordered := p.notes_ordered truth
  have hoptimal := p.isSome_optimal_ordered truth
  rw [repair_eq_promoteBrute]
  rcases (p.ordered truth).promoteBrute_eq_or with hsame | ⟨brute, hlone, hcopy⟩
  · rw [hsame, hordered, hnotes]
    constructor
    · intro h
      rw [h.isSome, h.before] at hoptimal
      cases hoptimal
    · simp
  · rw [hlone] at hoptimal
    have hnone : p.solution.optimal = none := by simpa using hoptimal.symm
    rw [hcopy]
    exact ⟨fun _ => by simp, fun _ => ⟨hnone, rfl, rfl⟩⟩

end Progression

namespace Consensus

variable (truth : Option Finding) (evidence : Triple Evidence) (claimConfidence : Float)

theorem presences_slotCorrections (slot : Approach) :
    presences slot ((slotCorrections truth evidence claimConfidence).flatMap (·.2)) = [] := by
  refine List.filter_eq_nil_iff.mpr fun k hk => ?_
  obtain ⟨s, hs, hk⟩ := List.mem_flatMap.mp hk
  obtain ⟨e, _, rfl⟩ := List.mem_map.mp hs
  simp [(Decision.concerns_of_mem_corrections hk).field]

theorem change_build_or (slot : Approach) :
    let before := (unrepaired (decided truth evidence claimConfidence)).solution
    let c := build truth evidence claimConfidence
    Change slot (before.slot? slot) (c.solution.slot? slot) (presences slot c.corrections) ∨
      slot = .optimal ∧ Copies before c.solution ∧ presences slot c.corrections = [] := by
  intro before c
  obtain ⟨hsolution, _, hcorrections⟩ := build_eq_repair truth evidence claimConfidence
  rw [hcorrections, presences_append, presences_slotCorrections, List.nil_append, hsolution]
  rcases (unrepaired (decided truth evidence claimConfidence)).tells_repair_or truth slot with
    ⟨new, hrecord, hchange⟩ | hcopied
  · rw [hrecord]
    exact .inl hchange
  · exact .inr hcopied

/-- The corrections of presence are the difference between the decided triple and the solution, but
for the copy of a lone brute force, which has a note. The solution holds nothing that was not
decided. -/
theorem presences_build :
    let before := (unrepaired (decided truth evidence claimConfidence)).solution
    let c := build truth evidence claimConfidence
    (∀ slot,
      Change slot (before.slot? slot) (c.solution.slot? slot) (presences slot c.corrections) ∨
        slot = .optimal ∧ Copies before c.solution ∧ presences slot c.corrections = []) ∧
    (Copies before c.solution ↔ "brute force is already optimal" ∈ c.notes) ∧
    ∀ a ∈ c.solution, a ∈ before := by
  intro before c
  obtain ⟨hsolution, hnotes, _⟩ := build_eq_repair truth evidence claimConfidence
  refine ⟨change_build_or truth evidence claimConfidence, ?_, ?_⟩
  · rw [hsolution, hnotes]
    exact Progression.copies_repair_iff _ truth rfl
  · intro a ha
    rw [hsolution] at ha
    exact Progression.mem_of_mem_repair ha

end Consensus
end Asymptote
