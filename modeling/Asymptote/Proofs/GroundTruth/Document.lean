import Asymptote.GroundTruth.Dataset
import Asymptote.Proofs.GroundTruth.Acceptance
import Mathlib.Data.List.Forall2

/-! # Documents and tables
A document becomes a table exactly if each of its drafts is acceptable and no two have the same id.
What that asks for then holds of every table, however many documents are merged into it. -/
namespace Asymptote.GroundTruth.Table

variable {t u extra : Table} {drafts : List EntryDraft}

theorem pushDrafts_eq_ok_iff :
    t.pushDrafts drafts = .ok u ↔
      ∃ es, List.Forall₂ (fun d e => d.accept = .ok e) drafts es ∧ es.foldlM push t = .ok u := by
  -- The entry of a draft is pushed before the next draft is looked at, so the table grows.
  induction drafts generalizing t with
  | nil =>
    constructor
    · intro h
      exact ⟨[], .nil, h⟩
    · rintro ⟨es, hes, h⟩
      cases hes
      exact h
  | cons d drafts ih =>
    simp only [pushDrafts, bind_eq_ok_iff]
    constructor
    · rintro ⟨e, he, t', hpush, hrest⟩
      obtain ⟨es, hes, hall⟩ := ih.mp hrest
      refine ⟨e :: es, .cons he hes, ?_⟩
      rw [List.foldlM_cons, bind_eq_ok_iff]
      exact ⟨t', hpush, hall⟩
    · rintro ⟨es, hes, hall⟩
      cases hes with
      | cons he hes =>
        rw [List.foldlM_cons, bind_eq_ok_iff] at hall
        obtain ⟨t', hpush, hrest⟩ := hall
        exact ⟨_, he, t', hpush, ih.mpr ⟨_, hes, hrest⟩⟩

theorem forall₂_accept_iff {es : List Entry} :
    List.Forall₂ (fun d e => d.accept = .ok e) drafts es ↔
      (∀ d ∈ drafts, d.Acceptable) ∧ drafts.map EntryDraft.known? = es.map some := by
  induction drafts generalizing es with
  | nil => cases es <;> simp
  | cons d drafts ih =>
    cases es with
    | nil => simp
    | cons e es =>
      rw [List.forall₂_cons, ih, EntryDraft.accept_eq_ok_iff_acceptable, List.forall_mem_cons,
        List.map_cons, List.map_cons, List.cons.injEq]
      exact and_and_and_comm

theorem distinct_empty : Distinct {} := List.Pairwise.nil

theorem ofDrafts_eq_ok_iff :
    ofDrafts drafts = .ok t ↔
      ((∀ d ∈ drafts, d.Acceptable) ∧ drafts.map EntryDraft.known? = t.entries.map some) ∧
        t.Distinct := by
  rw [ofDrafts, pushDrafts_eq_ok_iff, ← forall₂_accept_iff]
  constructor
  · rintro ⟨es, hes, hall⟩
    obtain ⟨hentries, ht⟩ := (pushAll_eq_ok_iff distinct_empty).mp hall
    rw [List.nil_append] at hentries
    exact ⟨hentries ▸ hes, ht⟩
  · rintro ⟨hes, ht⟩
    exact ⟨t.entries, hes, (pushAll_eq_ok_iff distinct_empty).mpr ⟨rfl, ht⟩⟩

theorem ids_of_map_known? {es : List Entry} (h : drafts.map EntryDraft.known? = es.map some) :
    es.map (·.id) = drafts.map (·.id) := by
  induction drafts generalizing es with
  | nil =>
    rw [List.map_eq_nil_iff.mp h.symm]
    rfl
  | cons d drafts ih =>
    cases es with
    | nil => cases h
    | cons e es =>
      obtain ⟨he, hrest⟩ := List.cons.inj h
      rw [List.map_cons, List.map_cons, EntryDraft.id_of_known? he, ih hrest]

theorem map_known?_of_acceptable (h : ∀ d ∈ drafts, d.Acceptable) :
    drafts.map EntryDraft.known? = (drafts.filterMap EntryDraft.known?).map some := by
  induction drafts with
  | nil => rfl
  | cons d drafts ih =>
    obtain ⟨hd, hrest⟩ := List.forall_mem_cons.mp h
    obtain ⟨e, he⟩ := hd.exists_known?
    rw [List.map_cons, List.filterMap_cons_some he, List.map_cons, ih hrest, he]

theorem exists_ofDrafts_iff :
    (∃ t, ofDrafts drafts = .ok t) ↔
      (∀ d ∈ drafts, d.Acceptable) ∧ (drafts.map (·.id)).Nodup := by
  constructor
  · rintro ⟨t, ht⟩
    obtain ⟨⟨hall, hentries⟩, hdistinct⟩ := ofDrafts_eq_ok_iff.mp ht
    exact ⟨hall, ids_of_map_known? hentries ▸ hdistinct⟩
  · rintro ⟨hall, hnodup⟩
    have hentries := map_known?_of_acceptable hall
    have hdistinct : Distinct ⟨drafts.filterMap EntryDraft.known?⟩ := by
      rw [Distinct, ids, ids_of_map_known? hentries]
      exact hnodup
    exact ⟨_, ofDrafts_eq_ok_iff.mpr ⟨⟨hall, hentries⟩, hdistinct⟩⟩

theorem accepted_of_ofDrafts (h : ofDrafts drafts = .ok t) : ∀ e ∈ t.entries, e.Accepted := by
  obtain ⟨⟨hall, hentries⟩, _⟩ := ofDrafts_eq_ok_iff.mp h
  intro e he
  have hmem : some e ∈ drafts.map EntryDraft.known? := by
    rw [hentries]
    exact List.mem_map_of_mem he
  obtain ⟨d, hd, hentry⟩ := List.mem_map.mp hmem
  exact ⟨d, EntryDraft.accept_eq_ok_iff_acceptable.mpr ⟨hall d hd, hentry⟩⟩

theorem mapError_eq_ok_iff {ε ε' α : Type} {x : Except ε α} {f : ε → ε'} {a : α} :
    x.mapError f = .ok a ↔ x = .ok a := by
  cases x <;> simp [Except.mapError]

theorem read_eq_ok_iff {document : Text} :
    read document = .ok t ↔
      ∃ drafts, EntryDraft.documentReader.document document = .ok drafts ∧
        ofDrafts drafts = .ok t := by
  rw [read]
  cases EntryDraft.documentReader.document document with
  | error fault => simp
  | ok drafts => simp [mapError_eq_ok_iff]

theorem exists_ofDrafts_builtin : ∃ drafts, ofDrafts drafts = .ok builtin := by
  rw [builtin]
  cases h : ofDrafts builtinDrafts with
  | ok t => exact ⟨builtinDrafts, h⟩
  | error fault =>
    exact ⟨[], rfl⟩

/-- The tables that there can be: the built-in one and those of documents, merged in any order. -/
inductive Reachable : Table → Prop
  | builtin : Reachable builtin
  | read {document : Text} {t : Table} (h : Table.read document = .ok t) : Reachable t
  | merged {t extra u : Table} (ht : Reachable t) (hextra : Reachable extra)
      (h : t.merged extra = .ok u) : Reachable u

structure Sound (t : Table) : Prop where
  distinct : t.entries.Pairwise fun a b => a.id ≠ b.id
  better_le_brute : ∀ e ∈ t.entries, ∀ brute ∈ e.bruteForce, ∀ better ∈ e.better,
    better.cost ≤ brute.cost
  optimal_le_better : ∀ e ∈ t.entries, ∀ better ∈ e.better, e.optimal.cost ≤ better.cost
  optimal_le_brute : ∀ e ∈ t.entries, ∀ brute ∈ e.bruteForce, e.optimal.cost ≤ brute.cost
  ladder : ∀ e ∈ t.entries, e.hasLadder = false → e.better = none
  telling : ∀ e ∈ t.entries, e.fingerprint = [] ∨
    ∃ token ∈ e.fingerprint, token.head? ≠ some '#' ∧ token ∉ Token.everyday

theorem Reachable.distinct (h : Reachable t) : t.Distinct := by
  induction h with
  | builtin =>
    obtain ⟨_, hdrafts⟩ := exists_ofDrafts_builtin
    exact (ofDrafts_eq_ok_iff.mp hdrafts).2
  | read h =>
    obtain ⟨_, _, hdrafts⟩ := read_eq_ok_iff.mp h
    exact (ofDrafts_eq_ok_iff.mp hdrafts).2
  | merged _ _ h iht _ => exact ((pushAll_eq_ok_iff iht).mp h).2

theorem Reachable.accepted (h : Reachable t) : ∀ e ∈ t.entries, e.Accepted := by
  induction h with
  | builtin =>
    obtain ⟨_, hdrafts⟩ := exists_ofDrafts_builtin
    exact accepted_of_ofDrafts hdrafts
  | read h =>
    obtain ⟨_, _, hdrafts⟩ := read_eq_ok_iff.mp h
    exact accepted_of_ofDrafts hdrafts
  | merged ht _ h iht ihextra =>
    rw [((pushAll_eq_ok_iff ht.distinct).mp h).1]
    exact List.forall_mem_append.mpr ⟨iht, ihextra⟩

theorem Reachable.valid (h : Reachable t) : ∀ e ∈ t.entries, e.Valid :=
  fun e he => (h.accepted e he).valid

theorem Reachable.sound (h : Reachable t) : t.Sound where
  distinct := List.pairwise_map.mp h.distinct
  better_le_brute e he := (h.valid e he).costs_fall.1
  optimal_le_better e he := (h.valid e he).costs_fall.2.1
  optimal_le_brute e he := (h.valid e he).costs_fall.2.2
  ladder e he hladder := by
    have hnot := mt (h.valid e he).hasLadder (by simp [hladder])
    simpa using hnot
  telling e he := by simpa [Token.isSalient] using (h.valid e he).telling

/-- A document whose drafts can be read becomes a table exactly if these are acceptable and have
distinct ids, and the table holds what they stand for in their order. What the checks ask for holds
of every table that comes from documents. -/
theorem read_spec {document : Text} (h : EntryDraft.documentReader.document document = .ok drafts) :
    ((∃ t, read document = .ok t) ↔
      (∀ d ∈ drafts, d.Acceptable) ∧ (drafts.map (·.id)).Nodup) ∧
    (∀ t, read document = .ok t → drafts.map EntryDraft.known? = t.entries.map some) ∧
    ∀ t, Reachable t → t.Sound := by
  have hread {t : Table} : read document = .ok t ↔ ofDrafts drafts = .ok t := by
    simp [read_eq_ok_iff, h]
  refine ⟨?_, ?_, fun t ht => ht.sound⟩
  · simp only [hread, exists_ofDrafts_iff]
  · intro t ht
    exact (ofDrafts_eq_ok_iff.mp (hread.mp ht)).1.2

def sumAndScanDocument : Text :=
  [ "\x7b\"entries\": [",
    "\x7b\"id\": \"two-sum\", \"titles\": [\"two sum\"], \"fingerprint\": [\"complement\"], ",
    "\"brute_force\": ",
    "\x7b\"time\": \"O(n^2)\", \"space\": \"O(1)\", \"algorithm\": \"all pairs\"\x7d, ",
    "\"optimal\": ",
    "\x7b\"time\": \"O(n)\", \"space\": \"O(n)\", \"algorithm\": \"hash map\"\x7d\x7d, ",
    "\x7b\"id\": \"maximum\", \"titles\": [], \"has_optimization_ladder\": false, ",
    "\"optimal\": ",
    "\x7b\"time\": \"O(n)\", \"space\": \"O(1)\", \"algorithm\": \"scan\"\x7d\x7d",
    "]\x7d" ].flatMap String.toList

def twoSumDraft : EntryDraft where
  id := "two-sum"
  titles := ["two sum"]
  fingerprint := ["complement"]
  bruteForce := some { time := "O(n^2)", space := "O(1)", algorithm := "all pairs" }
  optimal := some { time := "O(n)", space := "O(n)", algorithm := "hash map" }

def maximumDraft : EntryDraft where
  id := "maximum"
  hasLadder := false
  optimal := some { time := "O(n)", space := "O(1)", algorithm := "scan" }

theorem twoSumDraft_acceptable : twoSumDraft.Acceptable where
  readable := by decide
  optimal := rfl
  ladder _ := rfl
  ordered := by decide
  telling := by decide

theorem maximumDraft_acceptable : maximumDraft.Acceptable where
  readable := by decide
  optimal := rfl
  ladder _ := rfl
  ordered := by decide
  telling := by decide

theorem read_spec_sumAndScan :
    EntryDraft.documentReader.document sumAndScanDocument = .ok [twoSumDraft, maximumDraft] ∧
      ∃ t, read sumAndScanDocument = .ok t ∧
        [twoSumDraft.known?, maximumDraft.known?] = t.entries.map some ∧ t.Sound := by
  have hreadable : EntryDraft.documentReader.document sumAndScanDocument =
      .ok [twoSumDraft, maximumDraft] := by
    decide +kernel
  obtain ⟨hread, hentries, hsound⟩ := read_spec hreadable
  have hall : ∀ d ∈ [twoSumDraft, maximumDraft], d.Acceptable := by
    simp [twoSumDraft_acceptable, maximumDraft_acceptable]
  obtain ⟨t, ht⟩ := hread.mpr ⟨hall, by decide⟩
  exact ⟨hreadable, t, ht, hentries t ht, hsound t (.read ht)⟩

end Asymptote.GroundTruth.Table
