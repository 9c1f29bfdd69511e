import Asymptote.Proofs.GroundTruth.Acceptance
import Mathlib.Data.List.Induction

/-! # Lookups
What is found in one table, and in a table behind which another one is appended. -/
namespace Asymptote

/-! ## The greatest overlap
An entry that reaches the threshold has a number for its overlap, so of the eligible entries the
search finds the first with the greatest. The entries of two tables behind each other are searched
by comparing what is found in either, where the first table wins a tie. -/

namespace GroundTruth.Table

open FloatOrder

variable {tokens : List Text} {threshold : Float}

theorem isNumber_of_isEligible {e : Entry} (h : isEligible tokens threshold e) :
    IsNumber (overlap tokens e) := by
  rw [isEligible, Bool.and_eq_true, decide_eq_true_iff] at h
  exact isNumber_of_le h.2

/-- The later entry wins only with a greater overlap. -/
def winner (tokens : List Text) (best e : Entry) : Entry :=
  if overlap tokens best < overlap tokens e then e else best

theorem winner_assoc {a b c : Entry} (hb : IsNumber (overlap tokens b)) :
    winner tokens (winner tokens a b) c = winner tokens a (winner tokens b c) := by
  by_cases hab : overlap tokens a < overlap tokens b
  · by_cases hbc : overlap tokens b < overlap tokens c
    · simp [winner, hab, hbc, lt_trans hab hbc]
    · simp [winner, hab, hbc]
  · by_cases hbc : overlap tokens b < overlap tokens c
    · simp [winner, hab, hbc]
    · simp [winner, hab, hbc, not_lt_trans hb hab hbc]

theorem greatestOverlap_concat (es : List Entry) (e : Entry) :
    greatestOverlap tokens (es ++ [e]) =
      (greatestOverlap tokens es).merge (winner tokens) (some e) := by
  cases es with
  | nil => rfl
  | cons first others =>
    rw [List.cons_append, greatestOverlap, greatestOverlap, List.foldl_append]
    rfl

theorem greatestOverlap_eq_none_iff {es : List Entry} :
    greatestOverlap tokens es = none ↔ es = [] := by
  cases es <;> simp [greatestOverlap]

theorem strictWeakOn_overlap {es : List Entry} (hes : ∀ e ∈ es, IsNumber (overlap tokens e)) :
    StrictWeakOn (fun e best => overlap tokens best < overlap tokens e) es where
  asymm _ _ h h' := lt_irrefl _ (lt_trans h h')
  split _ _ b hb _ _ h := by
    by_contra hnot
    obtain ⟨hab, hbc⟩ := not_or.mp hnot
    exact not_lt_trans (hes b hb) hbc hab h

theorem leads_greatestOverlap {es : List Entry} (hes : ∀ e ∈ es, IsNumber (overlap tokens e))
    {best : Entry} (h : greatestOverlap tokens es = some best) :
    Leads (fun e best => overlap tokens best < overlap tokens e) es best := by
  cases es with
  | nil => cases h
  | cons first others =>
    cases h
    exact leads_foldl (strictWeakOn_overlap hes)

theorem greatestOverlap_spec {es : List Entry} (hes : ∀ e ∈ es, IsNumber (overlap tokens e))
    {best : Entry} (h : greatestOverlap tokens es = some best) :
    best ∈ es ∧ ∀ e ∈ es, ¬ overlap tokens best < overlap tokens e :=
  have hleads := leads_greatestOverlap hes h
  ⟨hleads.mem, hleads.unbeaten (strictWeakOn_overlap hes).asymm⟩

theorem greatestOverlap_append (es : List Entry) {others : List Entry}
    (hothers : ∀ e ∈ others, IsNumber (overlap tokens e)) :
    greatestOverlap tokens (es ++ others) =
      (greatestOverlap tokens es).merge (winner tokens) (greatestOverlap tokens others) := by
  induction others using List.reverseRecOn with
  | nil => simp [greatestOverlap]
  | append_singleton others e ih =>
    have hbefore := (List.forall_mem_append.mp hothers).1
    rw [← List.append_assoc, greatestOverlap_concat, greatestOverlap_concat, ih hbefore]
    cases hfirst : greatestOverlap tokens es with
    | none => simp
    | some a =>
      cases hsecond : greatestOverlap tokens others with
      | none => simp
      | some b =>
        have hb := hbefore b (greatestOverlap_spec hbefore hsecond).1
        simp [winner_assoc hb]

/-! ### Two tables -/

variable (t extra : Table)

theorem byFingerprint?_append :
    (⟨t.entries ++ extra.entries⟩ : Table).byFingerprint? tokens threshold =
      (t.byFingerprint? tokens threshold).merge (winner tokens)
        (extra.byFingerprint? tokens threshold) := by
  rw [byFingerprint?, List.filter_append]
  apply greatestOverlap_append
  intro e he
  exact isNumber_of_isEligible (List.mem_filter.mp he).2

theorem byFingerprint?_spec {best : Entry} (h : t.byFingerprint? tokens threshold = some best) :
    (best ∈ t.entries ∧ isEligible tokens threshold best) ∧
      ∀ e ∈ t.entries, isEligible tokens threshold e →
        ¬ overlap tokens best < overlap tokens e := by
  have hnumber : ∀ e ∈ t.entries.filter (isEligible tokens threshold),
      IsNumber (overlap tokens e) := by
    intro e he
    exact isNumber_of_isEligible (List.mem_filter.mp he).2
  obtain ⟨hmem, hmax⟩ := greatestOverlap_spec hnumber h
  exact ⟨List.mem_filter.mp hmem, fun e he heligible => hmax e (List.mem_filter.mpr ⟨he, heligible⟩)⟩

theorem exists_byFingerprint? {e : Entry} (he : e ∈ t.entries)
    (heligible : isEligible tokens threshold e) :
    ∃ best, t.byFingerprint? tokens threshold = some best := by
  have hmem := List.mem_filter.mpr ⟨he, heligible⟩
  cases h : t.byFingerprint? tokens threshold with
  | none =>
    rw [greatestOverlap_eq_none_iff.mp h] at hmem
    cases hmem
  | some best => exact ⟨best, rfl⟩

def Surpasses (extra t : Table) (tokens : List Text) (threshold : Float) : Prop :=
  ∃ b ∈ extra.entries, isEligible tokens threshold b ∧
    ∀ a ∈ t.entries, isEligible tokens threshold a → overlap tokens a < overlap tokens b

theorem byFingerprint?_of_surpasses (h : Surpasses extra t tokens threshold) :
    (⟨t.entries ++ extra.entries⟩ : Table).byFingerprint? tokens threshold =
      extra.byFingerprint? tokens threshold := by
  obtain ⟨b, hb, heligible, hall⟩ := h
  obtain ⟨c, hfound⟩ := extra.exists_byFingerprint? hb heligible
  obtain ⟨⟨_, hc⟩, hmax⟩ := byFingerprint?_spec extra hfound
  rw [byFingerprint?_append, hfound]
  cases ht : t.byFingerprint? tokens threshold with
  | none => rfl
  | some a =>
    obtain ⟨⟨ha, haeligible⟩, _⟩ := byFingerprint?_spec t ht
    have hab := hall a ha haeligible
    have hac : overlap tokens a < overlap tokens c := by
      by_contra hnot
      exact not_lt_trans (isNumber_of_isEligible hc) hnot (hmax b hb heligible) hab
    simp [winner, hac]

theorem byFingerprint?_of_not_surpasses (h : ¬ Surpasses extra t tokens threshold) :
    (⟨t.entries ++ extra.entries⟩ : Table).byFingerprint? tokens threshold =
      t.byFingerprint? tokens threshold := by
  rw [byFingerprint?_append]
  cases hfound : extra.byFingerprint? tokens threshold with
  | none => simp
  | some b =>
    obtain ⟨⟨hb, heligible⟩, _⟩ := byFingerprint?_spec extra hfound
    obtain ⟨a, ha, haeligible, hab⟩ : ∃ a ∈ t.entries, isEligible tokens threshold a ∧
        ¬ overlap tokens a < overlap tokens b := by
      by_contra hnone
      push Not at hnone
      exact h ⟨b, hb, heligible, hnone⟩
    obtain ⟨c, ht⟩ := t.exists_byFingerprint? ha haeligible
    obtain ⟨_, hmax⟩ := byFingerprint?_spec t ht
    have hcb := not_lt_trans (isNumber_of_isEligible haeligible) (hmax a ha haeligible) hab
    rw [ht]
    simp [winner, hcb]

end GroundTruth.Table

/-! ## Merging tables
Entries that are appended to a table shadow none of its own: neither by id, nor by title, nor by a
fingerprint that overlaps no more than the best of the table. -/

namespace GroundTruth.Table

def SharesId (t extra : Table) : Prop := ∃ id ∈ t.ids, id ∈ extra.ids

variable {t extra : Table}

theorem distinct_append_iff (ht : t.Distinct) (hextra : extra.Distinct) :
    (⟨t.entries ++ extra.entries⟩ : Table).Distinct ↔ ¬ t.SharesId extra := by
  rw [Distinct, ids_append, List.nodup_append]
  constructor
  · rintro ⟨_, _, hne⟩ ⟨id, hid, hother⟩
    exact hne id hid id hother rfl
  · intro hnone
    refine ⟨ht, hextra, ?_⟩
    rintro id hid other hother rfl
    exact hnone ⟨id, hid, hother⟩

theorem merged_of_not_sharesId (ht : t.Distinct) (hextra : extra.Distinct)
    (h : ¬ t.SharesId extra) : t.merged extra = .ok ⟨t.entries ++ extra.entries⟩ :=
  (pushAll_eq_ok_iff ht).mpr ⟨rfl, (distinct_append_iff ht hextra).mpr h⟩

theorem merged_of_sharesId (ht : t.Distinct) (hextra : extra.Distinct) (h : t.SharesId extra) :
    ∃ id ∈ t.ids, id ∈ extra.ids ∧ t.merged extra = .error (.duplicateId id) := by
  cases hmerged : t.merged extra with
  | ok u =>
    obtain ⟨hentries, hu⟩ := (pushAll_eq_ok_iff ht).mp hmerged
    have heq : u = ⟨t.entries ++ extra.entries⟩ := congrArg Table.mk hentries
    rw [heq, distinct_append_iff ht hextra] at hu
    exact absurd h hu
  | error fault =>
    obtain ⟨before, e, after, hsplit, rfl, hid⟩ := pushAll_fault hmerged
    have hids : extra.ids = before.map (·.id) ++ e.id :: after.map (·.id) := by
      simp [ids, hsplit]
    rw [Distinct, hids, List.nodup_append] at hextra
    have hnot : e.id ∉ before.map (·.id) := by
      intro hmem
      exact hextra.2.2 e.id hmem e.id (List.mem_cons_self ..) rfl
    rcases List.mem_append.mp hid with hmem | hmem
    · exact ⟨e.id, hmem, by simp [hids], rfl⟩
    · exact absurd hmem hnot

/-- What a lookup finds in a table behind which another one is appended. -/
structure Extends (t extra merged : Table) : Prop where
  entries : merged.entries = t.entries ++ extra.entries
  get? : ∀ id, merged.get? id = (t.get? id).or (extra.get? id)
  byTitle? : ∀ title, merged.byTitle? title = (t.byTitle? title).or (extra.byTitle? title)
  lookup?_of_surpasses : ∀ (s : Snippet) (title : Option Text) (threshold : Float),
    title.bind merged.byTitle? = none →
      Surpasses extra t (Token.fingerprint s) threshold →
        merged.lookup? s title threshold = extra.lookup? s title threshold
  lookup?_of_not_surpasses : ∀ (s : Snippet) (title : Option Text) (threshold : Float),
    title.bind merged.byTitle? = none →
      ¬ Surpasses extra t (Token.fingerprint s) threshold →
        merged.lookup? s title threshold = t.lookup? s title threshold

theorem byTitle?_append (title : Text) :
    (⟨t.entries ++ extra.entries⟩ : Table).byTitle? title =
      (t.byTitle? title).or (extra.byTitle? title) := by
  simp only [byTitle?, List.find?_append]
  split <;> rfl

theorem lookup?_of_no_title {s : Snippet} {title : Option Text} (threshold : Float)
    (h : title.bind t.byTitle? = none) :
    t.lookup? s title threshold =
      if s.isEmpty then none
      else (t.byFingerprint? (Token.fingerprint s) threshold).map fun entry =>
        ⟨entry, .fingerprint, 0.95⟩ := by
  rw [lookup?, h]

theorem extends_append : Extends t extra ⟨t.entries ++ extra.entries⟩ := by
  have htitles {title : Option Text}
      (h : title.bind (⟨t.entries ++ extra.entries⟩ : Table).byTitle? = none) :
      title.bind t.byTitle? = none ∧ title.bind extra.byTitle? = none := by
    cases title with
    | none => exact ⟨rfl, rfl⟩
    | some title =>
      rwa [Option.bind_some, byTitle?_append, Option.or_eq_none_iff] at h
  refine ⟨rfl, ?_, byTitle?_append, ?_, ?_⟩
  · intro id
    exact List.find?_append
  · intro s title threshold hnone hsurpasses
    rw [lookup?_of_no_title threshold hnone, lookup?_of_no_title threshold (htitles hnone).2,
      byFingerprint?_of_surpasses t extra hsurpasses]
  · intro s title threshold hnone hnot
    rw [lookup?_of_no_title threshold hnone, lookup?_of_no_title threshold (htitles hnone).1,
      byFingerprint?_of_not_surpasses t extra hnot]

/-- Two tables with distinct ids merge unless they share one, and then the first comes first in
every search. -/
theorem merged_conservative (ht : t.Distinct) (hextra : extra.Distinct) :
    (t.SharesId extra →
      ∃ id ∈ t.ids, id ∈ extra.ids ∧ t.merged extra = .error (.duplicateId id)) ∧
    (¬ t.SharesId extra → ∃ u, t.merged extra = .ok u ∧ Extends t extra u) :=
  ⟨merged_of_sharesId ht hextra, fun h => ⟨_, merged_of_not_sharesId ht hextra h, extends_append⟩⟩

theorem merged_conservative_sums :
    let sum : Entry :=
      { id := "sum", titles := ["sum".toList], fingerprint := ["grandtotal".toList],
        optimal := ⟨.linear, .constant, "scan", none⟩ }
    let t : Table := ⟨[sum]⟩
    let extra : Table := ⟨[{ sum with id := "tree-sum", titles := ["treesum".toList] }]⟩
    t.Distinct ∧ extra.Distinct ∧ (∃ u, t.merged extra = .ok u ∧ Extends t extra u) ∧
      ∃ id ∈ t.ids, id ∈ t.ids ∧ t.merged t = .error (.duplicateId id) := by
  intro sum t extra
  have ht : t.Distinct := by simp [Distinct, ids, t]
  have hextra : extra.Distinct := by simp [Distinct, ids, extra]
  have hnone : ¬ t.SharesId extra := by simp [SharesId, ids, t, extra, sum]
  have hshared : t.SharesId t := by simp [SharesId, ids, t]
  exact ⟨ht, hextra, (merged_conservative ht hextra).2 hnone, (merged_conservative ht ht).1 hshared⟩

end GroundTruth.Table

/-! ## What a lookup finds
A title that resolves decides. Otherwise the entry is found that comes first among those with the
greatest overlap, of all that share a salient token with the snippet and reach the threshold. A
lower threshold lets in only entries that overlap less, so it changes nothing once one is found. -/

namespace GroundTruth.Table

open FloatOrder

variable {t : Table} {tokens : List Text} {threshold lower : Float} {e : Entry}

structure Reaches (tokens : List Text) (threshold : Float) (e : Entry) : Prop where
  ne_nil : e.fingerprint ≠ []
  shares : ∃ token ∈ e.fingerprint, token ∈ tokens ∧ Token.isSalient token = true
  enough : threshold ≤ overlap tokens e

theorem isEligible_iff : isEligible tokens threshold e = true ↔ Reaches tokens threshold e := by
  have hshares : (hits tokens e).any Token.isSalient = true ↔
      ∃ token ∈ e.fingerprint, token ∈ tokens ∧ Token.isSalient token = true := by
    simp [hits, List.any_filter]
  rw [isEligible, Bool.and_eq_true, hshares, decide_eq_true_iff]
  constructor
  · rintro ⟨⟨token, htoken, hshown⟩, henough⟩
    exact ⟨List.ne_nil_of_mem htoken, ⟨token, htoken, hshown⟩, henough⟩
  · rintro ⟨-, hshares, henough⟩
    exact ⟨hshares, henough⟩

instance : Decidable (Reaches tokens threshold e) :=
  decidable_of_iff _ isEligible_iff

def Foremost (t : Table) (tokens : List Text) (threshold : Float) (e : Entry) : Prop :=
  Reaches tokens threshold e ∧
    ∀ d ∈ t.entries, Reaches tokens threshold d → overlap tokens d ≤ overlap tokens e

instance : Decidable (t.Foremost tokens threshold e) :=
  inferInstanceAs (Decidable (_ ∧ _))

theorem Reaches.isNumber (h : Reaches tokens threshold e) : IsNumber (overlap tokens e) :=
  isNumber_of_le h.enough

theorem foremost_iff : t.Foremost tokens threshold e ↔ isEligible tokens threshold e = true ∧
    ∀ d ∈ t.entries.filter (isEligible tokens threshold),
      ¬ overlap tokens e < overlap tokens d := by
  rw [Foremost, isEligible_iff]
  refine and_congr_right fun he => forall_congr' fun d => ?_
  rw [List.mem_filter, isEligible_iff, and_imp]
  exact imp_congr_right fun _ => imp_congr_right fun hd =>
    (not_lt_iff he.isNumber hd.isNumber).symm

theorem byFingerprint?_eq_find? (t : Table) (tokens : List Text) (threshold : Float) :
    t.byFingerprint? tokens threshold =
      t.entries.find? fun e => decide (t.Foremost tokens threshold e) := by
  have hnumber : ∀ e ∈ t.entries.filter (isEligible tokens threshold),
      IsNumber (overlap tokens e) :=
    fun e he => isNumber_of_isEligible (List.mem_filter.mp he).2
  have hforemost : t.entries.find? (fun e => decide (t.Foremost tokens threshold e)) =
      (t.entries.filter (isEligible tokens threshold)).find? fun e => decide
        (∀ d ∈ t.entries.filter (isEligible tokens threshold),
          ¬ overlap tokens e < overlap tokens d) := by
    rw [List.find?_filter]
    simp only [foremost_iff, decide_eq_true_iff]
  rw [byFingerprint?, hforemost]
  cases h : greatestOverlap tokens (t.entries.filter (isEligible tokens threshold)) with
  | none => rw [greatestOverlap_eq_none_iff.mp h, List.find?_nil]
  | some best =>
    exact ((leads_greatestOverlap hnumber h).find?_eq (strictWeakOn_overlap hnumber).asymm).symm

theorem byFingerprint?_eq_none_iff : t.byFingerprint? tokens threshold = none ↔
    ∀ e ∈ t.entries, ¬ Reaches tokens threshold e := by
  rw [byFingerprint?, greatestOverlap_eq_none_iff, List.filter_eq_nil_iff]
  simp only [isEligible_iff]

/-! ### A lower threshold -/

theorem Reaches.of_le (h : Reaches tokens threshold e) (hlower : lower ≤ threshold) :
    Reaches tokens lower e where
  ne_nil := h.ne_nil
  shares := h.shares
  enough := le_trans hlower h.enough

theorem foremost_lower_iff {d : Entry} (hd : d ∈ t.entries) (hreaches : Reaches tokens threshold d)
    (hlower : lower ≤ threshold) :
    t.Foremost tokens lower e ↔ t.Foremost tokens threshold e := by
  constructor
  · rintro ⟨he, hgreatest⟩
    have hde := hgreatest d hd (hreaches.of_le hlower)
    exact ⟨⟨he.ne_nil, he.shares, le_trans hreaches.enough hde⟩,
      fun a ha hareaches => hgreatest a ha (hareaches.of_le hlower)⟩
  · rintro ⟨he, hgreatest⟩
    refine ⟨he.of_le hlower, fun a ha hareaches => ?_⟩
    rcases le_total (isNumber_of_ge he.enough) hareaches.isNumber with henough | hbelow
    · exact hgreatest a ha ⟨hareaches.ne_nil, hareaches.shares, henough⟩
    · exact le_trans hbelow he.enough

theorem byFingerprint?_lower (h : t.byFingerprint? tokens threshold = some e)
    (hlower : lower ≤ threshold) : t.byFingerprint? tokens lower = some e := by
  obtain ⟨⟨he, heligible⟩, -⟩ := byFingerprint?_spec t h
  rw [← h, byFingerprint?_eq_find?, byFingerprint?_eq_find?]
  simp only [foremost_lower_iff he (isEligible_iff.mp heligible) hlower]

/-! ### Lookups -/

variable {s : Snippet} {title : Option Text} {finding : Finding}

theorem lookup?_eq_none_iff (htitle : title.bind t.byTitle? = none) (hs : s.isEmpty = false) :
    t.lookup? s title threshold = none ↔
      ∀ e ∈ t.entries, ¬ Reaches (Token.fingerprint s) threshold e := by
  rw [lookup?_of_no_title threshold htitle, if_neg (Bool.eq_false_iff.mp hs), Option.map_eq_none_iff,
    byFingerprint?_eq_none_iff]

theorem lookup?_lower (h : t.lookup? s title threshold = some finding)
    (hkind : finding.kind = .fingerprint) (hlower : lower ≤ threshold) :
    t.lookup? s title lower = some finding := by
  cases htitle : title.bind t.byTitle? with
  | some e =>
    rw [lookup?, htitle] at h
    cases h
    cases hkind
  | none =>
    rw [lookup?_of_no_title _ htitle] at h ⊢
    split_ifs at h ⊢ with hempty
    obtain ⟨e, hfound, rfl⟩ := Option.map_eq_some_iff.mp h
    rw [byFingerprint?_lower hfound hlower]
    rfl

/-- A title decides; behind it the first of the entries that overlap most is found, if one reaches
the threshold, and a lower threshold finds the same. -/
theorem lookup?_first_foremost (t : Table) (s : Snippet) (title : Option Text) (threshold : Float) :
    (∀ e, title.bind t.byTitle? = some e →
      t.lookup? s title threshold = some ⟨e, .title, 1.0⟩) ∧
    (title.bind t.byTitle? = none → s.isEmpty = false →
      (t.lookup? s title threshold =
        (t.entries.find? fun e => decide (t.Foremost (Token.fingerprint s) threshold e)).map
          fun e => ⟨e, .fingerprint, 0.95⟩) ∧
      (t.lookup? s title threshold = none ↔
        ∀ e ∈ t.entries, ¬ Reaches (Token.fingerprint s) threshold e)) ∧
    ∀ finding lower, t.lookup? s title threshold = some finding → finding.kind = .fingerprint →
      lower ≤ threshold → t.lookup? s title lower = some finding := by
  refine ⟨fun e he => ?_, fun htitle hs => ⟨?_, lookup?_eq_none_iff htitle hs⟩,
    fun _ _ h hkind hlower => lookup?_lower h hkind hlower⟩
  · rw [lookup?, he]
  · rw [lookup?_of_no_title threshold htitle, if_neg (Bool.eq_false_iff.mp hs),
      byFingerprint?_eq_find?]

def grandTotal : Entry :=
  { id := "grand-total", titles := ["grandtotal".toList],
    fingerprint := ["#loop".toList, "grandtotal".toList],
    optimal := ⟨.linear, .constant, "scan", none⟩ }

theorem lookup?_first_foremost_grandTotal :
    let t : Table := ⟨[grandTotal]⟩
    let s := Snippet.ofCode .python "grand_total = 0".toList
    (some "1. Grand Total".toList).bind t.byTitle? = some grandTotal ∧
      t.lookup? s (some "1. Grand Total".toList) 0.75 = some ⟨grandTotal, .title, 1.0⟩ ∧
      s.isEmpty = false ∧ t.lookup? s none 0.75 = none ∧
      ∃ finding, t.lookup? s none 0.5 = some finding ∧ finding.kind = .fingerprint ∧
        (0.25 : Float) ≤ 0.5 ∧ t.lookup? s none 0.25 = some finding := by
  intro t s
  have htitle : (some "1. Grand Total".toList).bind t.byTitle? = some grandTotal := by
    decide
  have hs : s.isEmpty = false := by decide
  have hnone : ∀ e ∈ t.entries, ¬ Reaches (Token.fingerprint s) 0.75 e := by decide
  have hlower : (0.25 : Float) ≤ 0.5 := by decide
  obtain ⟨finding, hfound, hkind⟩ :
      ∃ finding, t.lookup? s none 0.5 = some finding ∧ finding.kind = .fingerprint := by
    rw [((lookup?_first_foremost t s none 0.5).2.1 rfl hs).1]
    have hfirst : (t.entries.find? fun e =>
        decide (t.Foremost (Token.fingerprint s) 0.5 e)) = some grandTotal := by
      decide
    rw [hfirst]
    exact ⟨_, rfl, rfl⟩
  exact ⟨htitle, (lookup?_first_foremost t s _ 0.75).1 _ htitle, hs,
    ((lookup?_first_foremost t s none 0.75).2.1 rfl hs).2.mpr hnone, finding, hfound, hkind, hlower,
    (lookup?_first_foremost t s none 0.5).2.2 finding 0.25 hfound hkind hlower⟩

end GroundTruth.Table

end Asymptote
