import Asymptote.Text.Basic
import Mathlib.Data.List.Basic

/-! # Parts of a text
A part occurs in a text where searching finds it, and what does not occur is not replaced. A
separator that a part does not contain keeps the pieces around it apart: the part occurs in a text
if it occurs in one of its pieces, and replacing it goes piece by piece. -/
namespace Asymptote.Text

variable {part old new t front back : Text} {separator c : Char} {ts : List Text}

/-! ## Searching -/

theorem split?_eq_none_iff : split? part t = none ↔ ¬ part <:+: t := by
  induction t with
  | nil => cases part <;> simp [split?]
  | cons c rest ih =>
    rw [split?, List.infix_cons_iff, ← List.isPrefixOf_iff_prefix]
    split_ifs with hstarts
    · simp [hstarts]
    · simp [hstarts, ih]

theorem contains_iff : contains t part = true ↔ part <:+: t := by
  rw [contains, ← Option.ne_none_iff_isSome, ne_eq, split?_eq_none_iff, not_not]

theorem split?_of_isPrefix (h : part <+: t) : split? part t = some ([], t.drop part.length) := by
  cases t with
  | nil => simp [split?, List.prefix_nil.mp h]
  | cons c rest => rw [split?, if_pos (List.isPrefixOf_iff_prefix.mpr h)]

theorem fst_ne_nil_of_split? (h : split? part t = some (front, back)) (hstarts : ¬ part <+: t) :
    front ≠ [] := by
  cases t with
  | nil =>
    rw [split?] at h
    split_ifs at h with hempty
    exact absurd (List.isEmpty_iff.mp hempty ▸ List.nil_prefix) hstarts
  | cons c rest =>
    rw [split?, if_neg (mt List.isPrefixOf_iff_prefix.mp hstarts)] at h
    obtain ⟨_, _, hsplit⟩ := Option.map_eq_some_iff.mp h
    cases hsplit
    exact List.cons_ne_nil _ _

theorem split?_singleton (h : c ∉ front) :
    split? [c] (front ++ c :: back) = some (front, back) := by
  induction front with
  | nil => simp [split?]
  | cons d front ih =>
    obtain ⟨hne, hfront⟩ := not_or.mp (mt List.mem_cons.mpr h)
    simp [split?, hne, ih hfront]

/-! ## Pieces -/

theorem length_pieces (separator : Char) (t : Text) :
    (pieces separator t).length = t.count separator + 1 := by
  induction t with
  | nil => rfl
  | cons c t ih =>
    by_cases hc : c = separator
    · simp [pieces, hc, ih]
    · cases hpieces : pieces separator t with
      | nil => simp [hpieces] at ih
      | cons piece others =>
        rw [hpieces, List.length_cons] at ih
        simp [pieces, hc, hpieces, List.count_cons_of_ne hc, ih]

theorem pieces_append (separator : Char) (t rest : Text) :
    pieces separator (t ++ separator :: rest) = pieces separator t ++ pieces separator rest := by
  induction t with
  | nil => simp [pieces]
  | cons c t ih =>
    by_cases hc : c = separator
    · simp [pieces, hc, ih]
    · cases hpieces : pieces separator t with
      | nil => exact absurd (length_pieces_pos separator t) (by simp [hpieces])
      | cons piece others => simp [pieces, hc, ih, hpieces]

theorem pieces_of_notMem {separator : Char} {t : Text} (h : separator ∉ t) :
    pieces separator t = [t] := by
  induction t with
  | nil => rfl
  | cons c t ih =>
    obtain ⟨hc, ht⟩ := not_or.mp (mt List.mem_cons.mpr h)
    rw [pieces, if_neg (Ne.symm hc), ih ht]

abbrev join (separator : Char) (ts : List Text) : Text :=
  [separator].intercalate ts

theorem join_cons_cons (t u : Text) : join separator (t :: u :: ts) =
    t ++ separator :: join separator (u :: ts) := by
  rw [join, List.intercalate_cons_cons, List.append_assoc]
  rfl

theorem join_cons (separator : Char) (t : Text) (ts : List Text) :
    join separator (t :: ts) = t ++ ts.flatMap (separator :: ·) := by
  induction ts generalizing t with
  | nil => simp
  | cons u ts ih => rw [join_cons_cons, ih, List.flatMap_cons, List.cons_append]

theorem exists_join_cons (separator : Char) (t : Text) (ts : List Text) :
    ∃ back, join separator (t :: ts) = t ++ back := by
  cases ts with
  | nil => exact ⟨[], by simp⟩
  | cons u ts => exact ⟨_, join_cons_cons t u⟩

theorem notMem_join (hseparator : c ≠ separator) (h : ∀ t ∈ ts, c ∉ t) :
    c ∉ join separator ts := by
  induction ts with
  | nil => simp
  | cons t ts ih =>
    obtain ⟨ht, hts⟩ := List.forall_mem_cons.mp h
    cases ts with
    | nil => simpa using ht
    | cons u ts =>
      rw [join_cons_cons, List.mem_append, List.mem_cons]
      rintro (hmem | hmem | hmem)
      · exact ht hmem
      · exact hseparator hmem
      · exact ih hts hmem

theorem pieces_join (hne : ts ≠ []) (h : ∀ t ∈ ts, separator ∉ t) :
    pieces separator (join separator ts) = ts := by
  induction ts with
  | nil => exact absurd rfl hne
  | cons t ts ih =>
    obtain ⟨ht, hts⟩ := List.forall_mem_cons.mp h
    cases ts with
    | nil => simpa using pieces_of_notMem ht
    | cons u ts =>
      rw [join_cons_cons, pieces_append, pieces_of_notMem ht, ih (List.cons_ne_nil _ _) hts]
      rfl

theorem join_pieces (separator : Char) (t : Text) : join separator (pieces separator t) = t := by
  induction t with
  | nil => rfl
  | cons c t ih =>
    obtain ⟨piece, others, hpieces⟩ :=
      List.exists_cons_of_length_pos (length_pieces_pos separator t)
    rw [hpieces, join_cons] at ih
    by_cases hc : c = separator
    · rw [pieces, if_pos hc, hpieces, join_cons, List.flatMap_cons, List.cons_append, ih, hc,
        List.nil_append]
    · rw [pieces, if_neg hc, hpieces, join_cons, List.cons_append, ih]

theorem infix_join_of_mem (h : t ∈ ts) : t <:+: join separator ts := by
  induction ts with
  | nil => cases h
  | cons u ts ih =>
    rw [join_cons]
    rcases List.mem_cons.mp h with rfl | hlater
    · exact (List.prefix_append _ _).isInfix
    · cases ts with
      | nil => cases hlater
      | cons v ts =>
        have hback := ih hlater
        rw [join_cons] at hback
        exact hback.trans ((List.suffix_cons _ _).trans (List.suffix_append _ _)).isInfix

theorem infix_of_mem_pieces (h : part ∈ pieces separator t) : part <:+: t := by
  rw [← join_pieces separator t]
  exact infix_join_of_mem h

theorem not_pair_infix_join (hne : ts ≠ []) (h : ∀ t ∈ ts, separator ∉ t ∧ t ≠ []) :
    ¬ [separator, separator] <:+: join separator ts := by
  rintro ⟨front, back, hpair⟩
  have hpieces := pieces_join hne fun t ht => (h t ht).1
  rw [← hpair, List.append_assoc] at hpieces
  have hempty : [] ∈ ts := by
    rw [← hpieces]
    simp [pieces_append, pieces]
  exact (h [] hempty).2 rfl

theorem isPrefix_append_cons_iff (h : separator ∉ part) :
    part <+: front ++ separator :: back ↔ part <+: front := by
  induction front generalizing part with
  | nil =>
    cases part with
    | nil => simp
    | cons c part => simp [List.cons_prefix_cons, ne_of_mem_of_not_mem List.mem_cons_self h]
  | cons d front ih =>
    cases part with
    | nil => simp
    | cons c part =>
      rw [List.cons_append, List.cons_prefix_cons, List.cons_prefix_cons,
        ih fun hmem => h (List.mem_cons_of_mem _ hmem)]

theorem infix_append_cons_iff (h : separator ∉ part) :
    part <:+: front ++ separator :: back ↔ part <:+: front ∨ part <:+: back := by
  have hnil {l : Text} (hl : l <+: separator :: back) (hsep : separator ∉ l) : l = [] :=
    List.prefix_nil.mp ((@isPrefix_append_cons_iff l [] back separator hsep).mp hl)
  constructor
  · intro hpart
    obtain hfront | hback | ⟨first, second, rfl, hfirst, hsecond⟩ := List.infix_append_iff.mp hpart
    · exact .inl hfront
    · rcases List.infix_cons_iff.mp hback with hstarts | hback
      · exact .inr (hnil hstarts h ▸ List.nil_infix)
      · exact .inr hback
    · obtain rfl := hnil hsecond fun hmem => h (List.mem_append_right _ hmem)
      exact .inl (by simpa using hfirst.isInfix)
  · rintro (hfront | hback)
    · exact hfront.trans (List.prefix_append _ _).isInfix
    · exact hback.trans ((List.suffix_cons _ _).trans (List.suffix_append _ _)).isInfix

theorem infix_join_iff (h : separator ∉ part) (hne : part ≠ []) :
    part <:+: join separator ts ↔ ∃ t ∈ ts, part <:+: t := by
  induction ts with
  | nil => simp [hne]
  | cons t ts ih =>
    cases ts with
    | nil => simp
    | cons u ts =>
      rw [join_cons_cons, infix_append_cons_iff h, ih]
      simp

/-! ## Replacing -/

theorem replace_of_not_infix (h : ¬ old <:+: t) : replace old new t = t := by
  rw [replace]
  induction t with
  | nil => rfl
  | cons c rest ih =>
    obtain ⟨hstarts, hrest⟩ := not_or.mp (mt List.infix_cons_iff.mpr h)
    rw [replace.go, if_neg (mt List.isPrefixOf_iff_prefix.mp hstarts), ih hrest]

theorem replace_of_notMem (c : Char) (hold : c ∈ old) (hc : c ∉ t) : replace old new t = t :=
  replace_of_not_infix fun hoccurs => hc (hoccurs.subset hold)

theorem go_append_cons (hsep : separator ∉ old) (hne : old ≠ []) {skipped : Nat}
    (hskipped : skipped ≤ front.length) :
    replace.go old new skipped (front ++ separator :: back) =
      replace.go old new skipped front ++ separator :: replace.go old new 0 back := by
  have hstarts {front : Text} :
      old.isPrefixOf (front ++ separator :: back) = old.isPrefixOf front := by
    rw [Bool.eq_iff_iff, List.isPrefixOf_iff_prefix, List.isPrefixOf_iff_prefix,
      isPrefix_append_cons_iff hsep]
  induction front generalizing skipped with
  | nil =>
    obtain rfl : skipped = 0 := by simpa using hskipped
    have hnone : old.isPrefixOf (separator :: back) = false := by
      rw [← List.nil_append (separator :: back), hstarts]
      cases old with
      | nil => exact absurd rfl hne
      | cons => rfl
    simp [replace.go, hnone]
  | cons c front ih =>
    cases skipped with
    | succ skipped => exact ih (Nat.le_of_succ_le_succ hskipped)
    | zero =>
      rw [List.cons_append, replace.go, replace.go, ← List.cons_append, hstarts]
      split_ifs with hfits
      · have hlength := (List.isPrefixOf_iff_prefix.mp hfits).length_le
        rw [ih (by simp at hlength; omega), List.append_assoc]
      · rw [ih (Nat.zero_le _)]
        rfl

theorem replace_join (hsep : separator ∉ old) (hne : old ≠ []) :
    replace old new (join separator ts) = join separator (ts.map (replace old new)) := by
  induction ts with
  | nil => rfl
  | cons t ts ih =>
    cases ts with
    | nil => simp
    | cons u ts =>
      rw [List.map_cons, List.map_cons, join_cons_cons, join_cons_cons, ← List.map_cons, ← ih,
        replace, go_append_cons hsep hne (Nat.zero_le _)]
      rfl

end Asymptote.Text
