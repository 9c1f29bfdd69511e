import Asymptote.Proofs.Order
import Mathlib.Data.List.Chain

/-! # Accepted entries
A draft is accepted exactly if every check passes, and then the costs of the entry's approaches fall
from brute force over better to optimal. -/
namespace Asymptote

namespace GroundTruth

theorem bind_eq_ok_iff {ε α β : Type} {x : Except ε α} {f : α → Except ε β} {b : β} :
    x >>= f = .ok b ↔ ∃ a, x = .ok a ∧ f a = .ok b := by
  cases x <;> simp [bind, Except.bind]

def NoCheaper (a b : Approach × Known) : Prop := b.2.cost ≤ a.2.cost

instance : Trans NoCheaper NoCheaper NoCheaper :=
  ⟨fun hab hbc => le_trans hbc hab⟩

theorem inversion?_eq_none_iff (chain : List (Approach × Known)) :
    inversion? chain = none ↔ chain.IsChain NoCheaper := by
  induction chain with
  | nil => simp [inversion?]
  | cons slower others ih =>
    cases others with
    | nil => simp [inversion?]
    | cons faster others =>
      rw [List.isChain_cons_cons, inversion?, ← ih]
      by_cases h : slower.2.cost < faster.2.cost
      · simp [Known.cheaper_iff, NoCheaper, h, not_le_of_gt h]
      · simp [Known.cheaper_iff, NoCheaper, h, le_of_not_gt h]

structure Entry.Valid (e : Entry) : Prop where
  hasLadder : e.better.isSome → e.hasLadder
  ordered : e.approaches.toList.IsChain NoCheaper
  telling : e.fingerprint = [] ∨ ∃ t ∈ e.fingerprint, Token.isSalient t

theorem Entry.check_eq_ok_iff {e e' : Entry} : e.check = .ok e' ↔ e = e' ∧ e.Valid := by
  rw [check]
  constructor
  · intro h
    split at h
    · cases h
    · next hladder =>
      split at h
      · cases h
      · next hchain =>
        split at h
        · cases h
        · next htelling =>
          refine ⟨Except.ok.inj h, ?_, (inversion?_eq_none_iff _).mp hchain, ?_⟩
          · simpa using hladder
          · simpa [or_iff_not_imp_left] using htelling
  · rintro ⟨rfl, hladder, hchain, htelling⟩
    rw [if_neg (by simpa using hladder), (inversion?_eq_none_iff _).mpr hchain]
    exact if_neg (by simpa [or_iff_not_imp_left] using htelling)

theorem EntryDraft.accept_eq_ok_iff {d : EntryDraft} {e : Entry} :
    d.accept = .ok e ↔ ∃ bruteForce better optimal,
      acceptOptional d.id .bruteForce d.bruteForce = .ok bruteForce ∧
      acceptOptional d.id .better d.better = .ok better ∧
      acceptOptional d.id .optimal d.optimal = .ok (some optimal) ∧
      d.entry bruteForce better optimal = e ∧ e.Valid := by
  simp only [accept, bind_eq_ok_iff]
  constructor
  · rintro ⟨bruteForce, hbrute, better, hbetter, optimal?, hoptimal, h⟩
    cases optimal? with
    | none => cases h
    | some optimal =>
      obtain ⟨rfl, hvalid⟩ := Entry.check_eq_ok_iff.mp h
      exact ⟨bruteForce, better, optimal, hbrute, hbetter, hoptimal, rfl, hvalid⟩
  · rintro ⟨bruteForce, better, optimal, hbrute, hbetter, hoptimal, rfl, hvalid⟩
    exact ⟨bruteForce, hbrute, better, hbetter, some optimal, hoptimal,
      Entry.check_eq_ok_iff.mpr ⟨rfl, hvalid⟩⟩

def Entry.Accepted (e : Entry) : Prop :=
  ∃ d : EntryDraft, d.accept = .ok e

theorem Entry.Accepted.valid {e : Entry} (h : e.Accepted) : e.Valid := by
  obtain ⟨d, hd⟩ := h
  obtain ⟨_, _, _, _, _, _, _, hvalid⟩ := EntryDraft.accept_eq_ok_iff.mp hd
  exact hvalid

theorem Entry.Valid.costs_fall {e : Entry} (h : e.Valid) :
    (∀ brute ∈ e.bruteForce, ∀ better ∈ e.better, better.cost ≤ brute.cost) ∧
      (∀ better ∈ e.better, e.optimal.cost ≤ better.cost) ∧
      ∀ brute ∈ e.bruteForce, e.optimal.cost ≤ brute.cost := by
  have hpairwise := List.isChain_iff_pairwise.mp h.ordered
  simp only [Entry.approaches, Triple.toList, List.pairwise_append] at hpairwise
  obtain ⟨⟨_, _, hfirst⟩, _, hlast⟩ := hpairwise
  refine ⟨?_, ?_, ?_⟩
  · intro brute hbrute better hbetter
    exact hfirst (.bruteForce, brute) (by simp [Option.mem_def.mp hbrute])
      (.better, better) (by simp [Option.mem_def.mp hbetter])
  · intro better hbetter
    exact hlast (.better, better) (by simp [Option.mem_def.mp hbetter])
      (.optimal, e.optimal) (by simp)
  · intro brute hbrute
    exact hlast (.bruteForce, brute) (by simp [Option.mem_def.mp hbrute])
      (.optimal, e.optimal) (by simp)

theorem Entry.Valid.optimal_le_brute {e : Entry} (h : e.Valid) {k : Known}
    (hk : e.bruteForce = some k) : e.optimal.cost ≤ k.cost :=
  h.costs_fall.2.2 k hk

end GroundTruth

/-! ## Distinct ids
A table grows at its end, by an entry whose id is new to it. So a list of entries is appended as a
whole if that leaves all ids distinct, and the fault otherwise is the first id that comes twice. -/

namespace GroundTruth.Table

def ids (t : Table) : List String := t.entries.map (·.id)

def Distinct (t : Table) : Prop := t.ids.Nodup

variable {t u : Table}

theorem isSome_get?_iff {id : String} : (t.get? id).isSome ↔ id ∈ t.ids := by
  simp [get?, ids, List.find?_isSome]

theorem ids_append (t : Table) (es : List Entry) :
    (⟨t.entries ++ es⟩ : Table).ids = t.ids ++ es.map (·.id) := by
  simp [ids]

theorem distinct_concat_iff (ht : t.Distinct) (e : Entry) :
    (⟨t.entries ++ [e]⟩ : Table).Distinct ↔ e.id ∉ t.ids := by
  rw [Distinct, ids_append, List.nodup_append]
  constructor
  · rintro ⟨_, _, hne⟩ hmem
    exact hne e.id hmem e.id (by simp) rfl
  · intro hnew
    refine ⟨ht, by simp, ?_⟩
    rintro id hid other hother rfl
    rw [List.map_singleton, List.mem_singleton] at hother
    exact hnew (hother ▸ hid)

theorem push_eq_ok_iff (ht : t.Distinct) {e : Entry} :
    t.push e = .ok u ↔ u.entries = t.entries ++ [e] ∧ u.Distinct := by
  rw [push]
  by_cases hid : e.id ∈ t.ids
  · rw [if_pos (isSome_get?_iff.mpr hid)]
    constructor
    · intro h
      cases h
    · rintro ⟨hentries, hdistinct⟩
      have hu : u = ⟨t.entries ++ [e]⟩ := congrArg Table.mk hentries
      rw [hu, distinct_concat_iff ht] at hdistinct
      exact absurd hid hdistinct
  · rw [if_neg (mt isSome_get?_iff.mp hid)]
    constructor
    · intro h
      cases h
      exact ⟨rfl, (distinct_concat_iff ht e).mpr hid⟩
    · rintro ⟨hentries, _⟩
      exact congrArg Except.ok (congrArg Table.mk hentries.symm)

theorem pushAll_eq_ok_iff (ht : t.Distinct) {es : List Entry} :
    es.foldlM push t = .ok u ↔ u.entries = t.entries ++ es ∧ u.Distinct := by
  induction es generalizing t with
  | nil =>
    rw [List.foldlM_nil, List.append_nil]
    constructor
    · intro h
      cases h
      exact ⟨rfl, ht⟩
    · rintro ⟨hentries, _⟩
      exact congrArg Except.ok (congrArg Table.mk hentries.symm)
  | cons e es ih =>
    rw [List.foldlM_cons, bind_eq_ok_iff]
    constructor
    · rintro ⟨t', hpush, hrest⟩
      obtain ⟨hentries, ht'⟩ := (push_eq_ok_iff ht).mp hpush
      obtain ⟨hall, hu⟩ := (ih ht').mp hrest
      exact ⟨by simp [hall, hentries], hu⟩
    · rintro ⟨hall, hu⟩
      have ht' : (⟨t.entries ++ [e]⟩ : Table).Distinct := by
        have hu' : u.ids = (⟨t.entries ++ [e]⟩ : Table).ids ++ es.map (·.id) := by
          simp [ids, hall]
        rw [Distinct, hu'] at hu
        exact (List.nodup_append.mp hu).1
      refine ⟨⟨t.entries ++ [e]⟩, (push_eq_ok_iff ht).mpr ⟨rfl, ht'⟩, ?_⟩
      exact (ih ht').mpr ⟨by simp [hall], hu⟩

theorem pushAll_fault {es : List Entry} {fault : EntryFault} (h : es.foldlM push t = .error fault) :
    ∃ before e after, es = before ++ e :: after ∧ fault = .duplicateId e.id ∧
      e.id ∈ t.ids ++ before.map (·.id) := by
  induction es generalizing t with
  | nil => cases h
  | cons e es ih =>
    rw [List.foldlM_cons, push] at h
    by_cases hid : e.id ∈ t.ids
    · rw [if_pos (isSome_get?_iff.mpr hid)] at h
      cases h
      exact ⟨[], e, es, rfl, rfl, by simpa using hid⟩
    · rw [if_neg (mt isSome_get?_iff.mp hid)] at h
      obtain ⟨before, d, after, rfl, rfl, hd⟩ := ih h
      exact ⟨e :: before, d, after, rfl, rfl, by simpa [ids_append] using hd⟩

end GroundTruth.Table

/-! ## Acceptable drafts
A draft is accepted exactly if it is acceptable, which is said of what it declares alone: its
classes can be read, its approaches fall in cost, its fingerprint tells it from other problems. -/

namespace GroundTruth

def ApproachDraft.known? (a : ApproachDraft) : Option Known :=
  (Complexity.read? a.time.toList).bind fun time =>
    (Complexity.read? a.space.toList).map fun space => ⟨time, space, a.algorithm, a.reason?⟩

theorem ApproachDraft.accept_eq_ok_iff {a : ApproachDraft} {id : String} {slot : Approach}
    {k : Known} : a.accept id slot = .ok k ↔ a.known? = some k := by
  simp only [accept, known?, Complexity.read]
  cases Complexity.read? a.time.toList with
  | none => simp
  | some time => cases Complexity.read? a.space.toList <;> simp

theorem acceptOptional_eq_ok_iff {id : String} {slot : Approach} {a? : Option ApproachDraft}
    {k? : Option Known} :
    acceptOptional id slot a? = .ok k? ↔
      (∀ a ∈ a?, a.known?.isSome) ∧ a?.bind ApproachDraft.known? = k? := by
  cases a? with
  | none => simp [acceptOptional]
  | some a =>
    simp only [acceptOptional, Option.mem_some_iff, forall_eq', Option.bind_some]
    cases h : a.accept id slot with
    | ok k => simp [Except.map, ApproachDraft.accept_eq_ok_iff.mp h]
    | error fault =>
      have hnone : a.known? = none := by
        refine Option.eq_none_iff_forall_not_mem.mpr fun k hk => ?_
        rw [ApproachDraft.accept_eq_ok_iff.mpr hk] at h
        cases h
      simp [Except.map, hnone]

namespace EntryDraft

def approaches (d : EntryDraft) : List ApproachDraft :=
  d.bruteForce.toList ++ d.better.toList ++ d.optimal.toList

structure Acceptable (d : EntryDraft) : Prop where
  readable : ∀ a ∈ d.approaches, a.known?.isSome
  optimal : d.optimal.isSome
  ladder : d.hasLadder = false → d.better = none
  ordered : ((d.approaches.filterMap ApproachDraft.known?).map Known.cost).Pairwise (· ≥ ·)
  telling : d.tokens = [] ∨ ∃ t ∈ d.tokens, Token.isSalient t

def known? (d : EntryDraft) : Option Entry :=
  (d.optimal.bind ApproachDraft.known?).map fun optimal =>
    d.entry (d.bruteForce.bind ApproachDraft.known?) (d.better.bind ApproachDraft.known?) optimal

theorem filterMap_known?_toList (a? : Option ApproachDraft) :
    a?.toList.filterMap ApproachDraft.known? = (a?.bind ApproachDraft.known?).toList := by
  cases a? with
  | none => rfl
  | some a => cases h : a.known? <;> simp [h]

theorem approaches_entry {d : EntryDraft} {optimal : Known}
    (h : d.optimal.bind ApproachDraft.known? = some optimal) :
    (d.entry (d.bruteForce.bind ApproachDraft.known?) (d.better.bind ApproachDraft.known?)
        optimal).approaches.toList.map (·.2) =
      d.approaches.filterMap ApproachDraft.known? := by
  simp only [approaches, List.filterMap_append, filterMap_known?_toList, h, Entry.approaches,
    entry, Triple.toList, List.map_append]
  cases d.bruteForce.bind ApproachDraft.known? <;> cases d.better.bind ApproachDraft.known? <;> rfl

theorem isChain_noCheaper_iff (chain : List (Approach × Known)) :
    chain.IsChain NoCheaper ↔ ((chain.map (·.2)).map Known.cost).Pairwise (· ≥ ·) := by
  rw [List.isChain_iff_pairwise, List.map_map, List.pairwise_map]
  rfl

theorem bind_known?_isSome {a? : Option ApproachDraft} (h : ∀ a ∈ a?, a.known?.isSome) :
    (a?.bind ApproachDraft.known?).isSome = a?.isSome := by
  cases a? with
  | none => rfl
  | some a => simpa using h a rfl

theorem accept_eq_ok_iff_acceptable {d : EntryDraft} {e : Entry} :
    d.accept = .ok e ↔ d.Acceptable ∧ d.known? = some e := by
  simp only [accept_eq_ok_iff, acceptOptional_eq_ok_iff]
  constructor
  · rintro ⟨_, _, optimal, ⟨hbrute, rfl⟩, ⟨hbetter, rfl⟩, ⟨hoptimal, hk⟩, rfl, hvalid⟩
    have hordered := (isChain_noCheaper_iff _).mp hvalid.ordered
    rw [approaches_entry hk] at hordered
    have hreadable : ∀ a ∈ d.approaches, a.known?.isSome := by
      simpa [approaches, or_imp, forall_and] using ⟨hbrute, hbetter, hoptimal⟩
    refine ⟨⟨hreadable, ?_, ?_, hordered, hvalid.telling⟩, by simp [known?, hk]⟩
    · rw [← bind_known?_isSome hoptimal, hk]
      rfl
    · intro hladder
      have hnot := mt hvalid.hasLadder (by simp [entry, hladder])
      rw [entry, bind_known?_isSome hbetter] at hnot
      simpa using hnot
  · rintro ⟨h, he⟩
    obtain ⟨optimal, hk, rfl⟩ := Option.map_eq_some_iff.mp he
    have hreadable := h.readable
    simp only [approaches, List.mem_append, Option.mem_toList, or_imp, forall_and] at hreadable
    obtain ⟨⟨hbrute, hbetter⟩, hoptimal⟩ := hreadable
    refine ⟨_, _, optimal, ⟨hbrute, rfl⟩, ⟨hbetter, rfl⟩, ⟨hoptimal, hk⟩, rfl, ?_, ?_, h.telling⟩
    · intro hsome
      rw [entry, bind_known?_isSome hbetter] at hsome
      by_contra hladder
      have hnone := h.ladder (by simpa [entry] using hladder)
      simp [hnone] at hsome
    · rw [isChain_noCheaper_iff, approaches_entry hk]
      exact h.ordered

theorem Acceptable.exists_known? {d : EntryDraft} (h : d.Acceptable) :
    ∃ e, d.known? = some e := by
  have hreadable : ∀ a ∈ d.optimal, a.known?.isSome := by
    intro a ha
    exact h.readable a (by simp [approaches, Option.mem_def.mp ha])
  have hsome := (bind_known?_isSome hreadable).trans h.optimal
  rw [known?, ← Option.isSome_iff_exists, Option.isSome_map]
  exact hsome

theorem id_of_known? {d : EntryDraft} {e : Entry} (h : d.known? = some e) : e.id = d.id := by
  obtain ⟨_, _, rfl⟩ := Option.map_eq_some_iff.mp h
  rfl

end EntryDraft

end GroundTruth

end Asymptote
