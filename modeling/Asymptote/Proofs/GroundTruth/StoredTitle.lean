import Asymptote.Proofs.GroundTruth.Document
import Asymptote.Proofs.GroundTruth.Title
import Asymptote.Proofs.Text.Lowering

/-! # Stored titles
A table stores the keys of its titles. The key of a key is the key itself but for the dots that
dotted capitals leave in it, so a stored key finds the first entry that stores it unless it has such
a dot. -/
namespace Asymptote.GroundTruth

namespace Title

variable {title key : Text} {c : Char}

def undotted (key : Text) : Text :=
  key.filter (· ≠ Text.combiningDot)

theorem undotted_eq_self_iff : undotted key = key ↔ Text.combiningDot ∉ key := by
  simp only [undotted, List.filter_eq_self, decide_eq_true_eq]
  exact ⟨fun h hmem => h _ hmem rfl, fun h c hc heq => h (heq ▸ hc)⟩

/-! ## The letters of a key -/

theorem mem_dropWhile_iff {p : Char → Bool} (hc : p c = false) :
    c ∈ title.dropWhile p ↔ c ∈ title := by
  have hsplit := List.takeWhile_append_dropWhile (p := p) (l := title)
  have hnot : c ∉ title.takeWhile p := by
    intro hmem
    simp [List.mem_takeWhile_imp hmem] at hc
  conv_rhs => rw [← hsplit, List.mem_append, or_iff_right hnot]

theorem mem_withoutNumber_iff (hc : c.isDigit = false) :
    c ∈ withoutNumber title ↔ c ∈ title := by
  rw [withoutNumber]
  split_ifs
  · exact mem_dropWhile_iff hc
  · rfl

theorem mem_normalize_iff :
    c ∈ normalize title ↔
      ∃ a ∈ withoutNumber (Text.trimStart title),
        Text.isAlphanumeric a = true ∧ c ∈ Text.lowerChar a := by
  simp [normalize, and_assoc]

theorem isAlphanumeric_iff_of_mem_normalize (h : c ∈ normalize title) :
    Text.isAlphanumeric c = true ↔ c ≠ Text.combiningDot := by
  obtain ⟨a, -, ha, hc⟩ := mem_normalize_iff.mp h
  exact Text.isAlphanumeric_iff_of_mem_lowerChar ha hc

theorem combiningDot_mem_normalize_iff : Text.combiningDot ∈ normalize title ↔ 'İ' ∈ title := by
  have hkept : 'İ' ∈ withoutNumber (Text.trimStart title) ↔ 'İ' ∈ title := by
    rw [mem_withoutNumber_iff (by decide), Text.trimStart, mem_dropWhile_iff (by decide)]
  rw [mem_normalize_iff, ← hkept]
  constructor
  · rintro ⟨a, hmem, ha, hdot⟩
    rwa [← (Text.combiningDot_mem_lowerChar_iff ha).mp hdot]
  · intro hmem
    exact ⟨'İ', hmem, by decide, by decide⟩

theorem undotted_normalize_ne_nil (h : normalize title ≠ []) : undotted (normalize title) ≠ [] := by
  obtain ⟨c, hc⟩ := List.exists_mem_of_ne_nil _ h
  obtain ⟨a, hmem, ha, -⟩ := mem_normalize_iff.mp hc
  obtain ⟨d, hd, halphanumeric⟩ := Text.exists_alphanumeric_mem_lowerChar ha
  have hkey : d ∈ normalize title := mem_normalize_iff.mpr ⟨a, hmem, ha, hd⟩
  have hne := (isAlphanumeric_iff_of_mem_normalize hkey).mp halphanumeric
  exact List.ne_nil_of_mem (List.mem_filter.mpr ⟨hkey, decide_eq_true hne⟩)

/-! ## The key of a key -/

theorem not_isNumbered_normalize (title : Text) : ¬ IsNumbered (normalize title) := by
  rintro ⟨n, rest, hkey⟩
  have hmem : n.separator ∈ normalize title := by
    refine (List.dropWhile_sublist Text.isBlank).subset ?_
    rw [← Text.trimStart, hkey, Numbering.text]
    simp
  by_cases hdot : n.separator = Text.combiningDot
  · have hseparator := n.isSeparator
    rw [hdot] at hseparator
    exact absurd hseparator (by decide)
  · have hletter := (isAlphanumeric_iff_of_mem_normalize hmem).mpr hdot
    rw [isAlphanumeric_of_isSeparator n.isSeparator] at hletter
    cases hletter

theorem normalize_normalize (title : Text) :
    normalize (normalize title) = undotted (normalize title) := by
  have hwording : wording (normalize title) = undotted (normalize title) :=
    List.filter_congr fun c hc => by
      rw [Bool.eq_iff_iff, isAlphanumeric_iff_of_mem_normalize hc, decide_eq_true_eq]
  rw [normalize_of_not_isNumbered (not_isNumbered_normalize title), hwording]
  apply Text.flatMap_lowerChar_eq_self
  intro c hc
  obtain ⟨a, -, -, hlowered⟩ := mem_normalize_iff.mp (List.mem_filter.mp hc).1
  exact Text.lowerChar_of_mem_lowerChar hlowered

theorem normalize_normalize_eq_iff :
    normalize (normalize title) = normalize title ↔ 'İ' ∉ title := by
  rw [normalize_normalize, undotted_eq_self_iff, combiningDot_mem_normalize_iff]

end Title

namespace Table

variable {t : Table} {title key : Text} {e first : Entry}

def FirstWith (t : Table) (key : Text) (e : Entry) : Prop :=
  ∃ before behind, t.entries = before ++ e :: behind ∧ key ∈ e.titles ∧
    ∀ a ∈ before, key ∉ a.titles

theorem FirstWith.mem (h : t.FirstWith key e) : e ∈ t.entries := by
  obtain ⟨before, behind, hsplit, -, -⟩ := h
  simp [hsplit]

theorem find?_eq_some_iff_firstWith :
    (t.entries.find? fun e => e.titles.contains key) = some e ↔ t.FirstWith key e := by
  rw [List.find?_eq_some_iff_append, FirstWith]
  simp only [List.contains_iff_mem, Bool.not_eq_true', Bool.eq_false_iff, ne_eq]
  constructor
  · rintro ⟨hkey, before, behind, hsplit, hbefore⟩
    exact ⟨before, behind, hsplit, hkey, hbefore⟩
  · rintro ⟨before, behind, hsplit, hkey, hbefore⟩
    exact ⟨hkey, before, behind, hsplit, hbefore⟩

theorem exists_firstWith (he : e ∈ t.entries) (hkey : key ∈ e.titles) :
    ∃ first, t.FirstWith key first := by
  have hsome : (t.entries.find? fun e => e.titles.contains key).isSome :=
    List.find?_isSome.mpr ⟨e, he, by simpa using hkey⟩
  obtain ⟨first, hfirst⟩ := Option.isSome_iff_exists.mp hsome
  exact ⟨first, find?_eq_some_iff_firstWith.mp hfirst⟩

theorem byTitle?_eq_some_iff (h : Title.normalize title ≠ []) :
    t.byTitle? title = some e ↔ t.FirstWith (Title.normalize title) e := by
  rw [byTitle?, ← find?_eq_some_iff_firstWith]
  simp [h]

theorem Reachable.exists_title (h : Reachable t) (he : e ∈ t.entries) (hkey : key ∈ e.titles) :
    ∃ title, Title.normalize title = key ∧ key ≠ [] := by
  obtain ⟨d, hd⟩ := h.accepted e he
  obtain ⟨_, _, _, -, -, -, rfl, -⟩ := EntryDraft.accept_eq_ok_iff.mp hd
  obtain ⟨hmem, hne⟩ := List.mem_filter.mp hkey
  obtain ⟨title, -, htitle⟩ := List.mem_map.mp hmem
  exact ⟨title.toList, htitle, by simpa using hne⟩

/-- The key of a title is its own key exactly if the title has no dotted capital I. A key that some
entry of a table stores finds the first one that stores it, unless it has the dot of such a capital
and that entry is not the first with the key without its dots. -/
theorem byTitle?_stored (ht : Reachable t) (he : e ∈ t.entries) (hkey : key ∈ e.titles) :
    (∀ title, Title.normalize (Title.normalize title) = Title.normalize title ↔ 'İ' ∉ title) ∧
    ∃ first, t.FirstWith key first ∧
      (t.byTitle? key = some first ↔
        Text.combiningDot ∉ key ∨ t.FirstWith (Title.undotted key) first) := by
  refine ⟨fun title => Title.normalize_normalize_eq_iff, ?_⟩
  obtain ⟨first, hfirst⟩ := exists_firstWith he hkey
  obtain ⟨title, rfl, hne⟩ := ht.exists_title he hkey
  have hagain := Title.normalize_normalize title
  have hfound := byTitle?_eq_some_iff (t := t) (e := first)
    (hagain ▸ Title.undotted_normalize_ne_nil hne)
  rw [hagain] at hfound
  refine ⟨first, hfirst, hfound.trans ⟨Or.inr, ?_⟩⟩
  rintro (hdot | hundotted)
  · rwa [Title.undotted_eq_self_iff.mpr hdot]
  · exact hundotted

def twoTitlesDocument : Text :=
  [ "\x7b\"entries\": [",
    "\x7b\"id\": \"two-sum\", \"titles\": [\"İki Toplam\", \"Two Sum\"], ",
    "\"optimal\": ",
    "\x7b\"time\": \"O(n)\", \"space\": \"O(n)\", \"algorithm\": \"hash map\"\x7d\x7d",
    "]\x7d" ].flatMap String.toList

def twoTitlesDraft : EntryDraft where
  id := "two-sum"
  titles := ["İki Toplam", "Two Sum"]
  optimal := some { time := "O(n)", space := "O(n)", algorithm := "hash map" }

def turkishKey : Text := 'i' :: Text.combiningDot :: "kitoplam".toList

def twoTitlesEntry : Entry where
  id := "two-sum"
  titles := [turkishKey, "twosum".toList]
  fingerprint := []
  optimal := ⟨.linear, .linear, "hash map", none⟩

theorem reachable_twoTitles : Reachable ⟨[twoTitlesEntry]⟩ := by
  have hreadable : EntryDraft.documentReader.document twoTitlesDocument = .ok [twoTitlesDraft] := by
    decide +kernel
  have hacceptable : twoTitlesDraft.Acceptable :=
    ⟨by decide, rfl, fun _ => rfl, by decide, by decide⟩
  refine .read (read_eq_ok_iff.mpr ⟨_, hreadable, ofDrafts_eq_ok_iff.mpr ⟨⟨?_, ?_⟩, ?_⟩⟩)
  · simp [hacceptable]
  · decide
  · simp [Distinct, ids]

theorem byTitle?_stored_twoTitles :
    Reachable ⟨[twoTitlesEntry]⟩ ∧ twoTitlesEntry ∈ [twoTitlesEntry] ∧
      "twosum".toList ∈ twoTitlesEntry.titles ∧
      (⟨[twoTitlesEntry]⟩ : Table).byTitle? "twosum" = some twoTitlesEntry := by
  have hkey : "twosum".toList ∈ twoTitlesEntry.titles := by decide
  have hmem : twoTitlesEntry ∈ [twoTitlesEntry] := by simp
  obtain ⟨-, first, hfirst, hfound⟩ := byTitle?_stored reachable_twoTitles hmem hkey
  rw [List.mem_singleton.mp hfirst.mem] at hfound
  exact ⟨reachable_twoTitles, hmem, hkey, hfound.mpr (Or.inl (by decide))⟩

theorem not_forall_byTitle?_stored :
    (¬ ∀ title, Title.normalize (Title.normalize title) = Title.normalize title) ∧
    ¬ ∀ t, Reachable t → ∀ e ∈ t.entries, ∀ key ∈ e.titles, ∃ first, t.FirstWith key first ∧
      t.byTitle? key = some first := by
  constructor
  · intro h
    exact absurd (h ['İ']) (by decide +kernel)
  · intro h
    obtain ⟨first, -, hfound⟩ :=
      h _ reachable_twoTitles twoTitlesEntry (by simp) turkishKey (by decide)
    have hnone : (⟨[twoTitlesEntry]⟩ : Table).byTitle? turkishKey = none := by decide +kernel
    rw [hnone] at hfound
    cases hfound

end Table
end Asymptote.GroundTruth
