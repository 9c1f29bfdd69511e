import Asymptote.Proofs.Pattern.Fit

/-! # Whole words
A whole word is a run of characters of words that no other such character touches. Whole words
never overlap, so a search for a pattern that fits nothing else finds it wherever it fits, and
counts the places at which the word stands. -/
namespace Asymptote

namespace Text

theorem isWord_of_isAlpha {c : Char} (h : c.isAlpha = true) : isWord c = true := by
  have halphanum : c.isAlphanum = true := by simp [Char.isAlphanum, h]
  simp [isWord, splitAscii, toNat_of_isAlphanum halphanum, halphanum]

theorem isWord_eq_false_of_isBlank {c : Char} (h : isBlank c = true) : isWord c = false :=
  eq_of_isBlank (by decide +kernel) h

structure IsWord (t : Text) : Prop where
  ne_nil : t ≠ []
  chars : ∀ c ∈ t, isWord c = true

instance (t : Text) : Decidable t.IsWord :=
  decidable_of_iff (t ≠ [] ∧ t.all isWord = true)
    ⟨fun h => ⟨h.1, List.all_eq_true.mp h.2⟩, fun h => ⟨h.ne_nil, List.all_eq_true.mpr h.chars⟩⟩

/-- The text is a word that no character of a word touches in front or behind. -/
structure StandsWhole (word front back : Text) : Prop where
  isWord : word.IsWord
  front : front.getLast?.any Text.isWord = false
  back : back.head?.any Text.isWord = false

def countPlaces (test : Text → Text → Bool) : Text → Text → Nat
  | front, [] => if test front [] then 1 else 0
  | front, c :: rest =>
    countPlaces test (front ++ [c]) rest + if test front (c :: rest) then 1 else 0

def isWholeAhead (word front ahead : Text) : Bool :=
  word.isPrefixOf ahead && !front.getLast?.any isWord && !(ahead.drop word.length).head?.any isWord

def wholeWords (word t : Text) : Nat :=
  countPlaces (isWholeAhead word) [] t

variable {word word' front front' back back' ahead pad t : Text}

theorem IsWord.head?_any (h : word.IsWord) : (word ++ back).head?.any Text.isWord = true := by
  cases word with
  | nil => exact absurd rfl h.ne_nil
  | cons c word => simpa using h.chars c List.mem_cons_self

theorem IsWord.getLast?_any (h : word.IsWord) :
    (front ++ word).getLast?.any Text.isWord = true := by
  rw [List.getLast?_append, List.getLast?_eq_some_getLast h.ne_nil]
  exact h.chars _ (List.getLast_mem h.ne_nil)

theorem getLast?_any_append (hfront : front.getLast?.any isWord = false)
    (hpad : ∀ c ∈ pad, isWord c = false) : (front ++ pad).getLast?.any isWord = false := by
  rw [List.getLast?_append]
  cases h : pad.getLast? with
  | none => exact hfront
  | some c => exact hpad c (List.mem_of_getLast? h)

theorem head?_any_eq_false (hpad : ∀ c ∈ pad, isWord c = false) : pad.head?.any isWord = false := by
  cases pad with
  | nil => rfl
  | cons c pad => exact hpad c List.mem_cons_self

theorem head?_any_append (hpad : ∀ c ∈ pad, isWord c = false)
    (hback : back.head?.any isWord = false) : (pad ++ back).head?.any isWord = false := by
  cases pad with
  | nil => exact hback
  | cons c pad => exact hpad c List.mem_cons_self

theorem IsWord.eq_nil_of_append {more : Text} (h : (word ++ more).IsWord)
    (hback : (more ++ back).head?.any Text.isWord = false) : more = [] := by
  cases more with
  | nil => rfl
  | cons c more =>
    have hc : Text.isWord c = false := hback
    rw [h.chars c (by simp)] at hc
    cases hc

theorem StandsWhole.unique (h : StandsWhole word front back) (h' : StandsWhole word' front back')
    (heq : word ++ back = word' ++ back') : word = word' := by
  rcases List.append_eq_append_iff.mp heq with ⟨more, rfl, rfl⟩ | ⟨more, rfl, rfl⟩
  · rw [h'.isWord.eq_nil_of_append h.back, List.append_nil]
  · rw [h.isWord.eq_nil_of_append h'.back, List.append_nil]

theorem isWholeAhead_iff (hword : word.IsWord) : isWholeAhead word front ahead = true ↔
    ∃ back, ahead = word ++ back ∧ StandsWhole word front back := by
  simp only [isWholeAhead, Bool.and_eq_true, Bool.not_eq_true', List.isPrefixOf_iff_prefix]
  constructor
  · rintro ⟨⟨⟨back, rfl⟩, hfront⟩, hback⟩
    rw [List.drop_left] at hback
    exact ⟨back, rfl, hword, hfront, hback⟩
  · rintro ⟨back, rfl, h⟩
    exact ⟨⟨⟨back, rfl⟩, h.front⟩, by simpa using h.back⟩

theorem countPlaces_pos_iff {test : Text → Text → Bool} : 0 < countPlaces test front ahead ↔
    ∃ before behind, ahead = before ++ behind ∧ test (front ++ before) behind = true := by
  induction ahead generalizing front with
  | nil =>
    rw [countPlaces]
    split <;> simp_all
  | cons c rest ih =>
    have hpos : 0 < countPlaces test front (c :: rest) ↔
        test front (c :: rest) = true ∨ 0 < countPlaces test (front ++ [c]) rest := by
      rw [countPlaces]
      split
      next h => simp [h]
      next h => simp [h]
    rw [hpos, ih, exists_split_cons]
    simp

theorem wholeWords_pos_iff (hword : word.IsWord) : 0 < wholeWords word t ↔
    ∃ front back, t = front ++ (word ++ back) ∧ StandsWhole word front back := by
  rw [wholeWords, countPlaces_pos_iff]
  constructor
  · rintro ⟨front, ahead, rfl, h⟩
    obtain ⟨back, rfl, hstands⟩ := (isWholeAhead_iff hword).mp h
    exact ⟨front, back, rfl, hstands⟩
  · rintro ⟨front, back, rfl, hstands⟩
    exact ⟨front, word ++ back, rfl, (isWholeAhead_iff hword).mpr ⟨back, rfl, hstands⟩⟩

/-! ## White space around a text -/

theorem isWholeAhead_congr (h : front'.getLast?.any isWord = front.getLast?.any isWord) :
    isWholeAhead word front' ahead = isWholeAhead word front ahead := by
  rw [isWholeAhead, h, isWholeAhead]

theorem countPlaces_isWholeAhead_congr
    (h : front'.getLast?.any isWord = front.getLast?.any isWord) :
    countPlaces (isWholeAhead word) front' ahead = countPlaces (isWholeAhead word) front ahead := by
  induction ahead generalizing front front' with
  | nil => rw [countPlaces, countPlaces, isWholeAhead_congr h]
  | cons c rest ih => rw [countPlaces, countPlaces, isWholeAhead_congr h,
    @ih (front ++ [c]) (front' ++ [c]) (by simp)]

section
variable (hword : word.IsWord)
include hword

theorem isWholeAhead_append (hpad : ∀ c ∈ pad, isWord c = false) :
    isWholeAhead word front (ahead ++ pad) = isWholeAhead word front ahead := by
  have hnext (t : Text) : (t ++ pad).head?.any isWord = t.head?.any isWord := by
    cases t with
    | nil => exact head?_any_eq_false hpad
    | cons c t => rfl
  rw [Bool.eq_iff_iff, isWholeAhead_iff hword, isWholeAhead_iff hword]
  constructor
  · rintro ⟨back, hsplit, hstands⟩
    rcases List.append_eq_append_iff.mp hsplit with ⟨more, rfl, rfl⟩ | ⟨more, rfl, rfl⟩
    · obtain rfl := hword.eq_nil_of_append (head?_any_eq_false hpad)
      exact ⟨[], by simp, by simpa using hword, hstands.front, rfl⟩
    · exact ⟨more, rfl, hword, hstands.front, (hnext more).symm.trans hstands.back⟩
  · rintro ⟨back, rfl, hstands⟩
    exact ⟨back ++ pad, List.append_assoc .., hword, hstands.front, (hnext back).trans hstands.back⟩

theorem isWholeAhead_eq_false (h : ahead.head?.any isWord = false) :
    isWholeAhead word front ahead = false := by
  rw [← Bool.not_eq_true, isWholeAhead_iff hword]
  rintro ⟨back, rfl, -⟩
  rw [hword.head?_any] at h
  cases h

theorem countPlaces_pad (hpad : ∀ c ∈ pad, isWord c = false) :
    countPlaces (isWholeAhead word) front pad = 0 := by
  induction pad generalizing front with
  | nil =>
    have hhere : isWholeAhead word front [] = false := isWholeAhead_eq_false hword rfl
    simp [countPlaces, hhere]
  | cons c pad ih =>
    obtain ⟨hc, hpad⟩ := List.forall_mem_cons.mp hpad
    simp [countPlaces, isWholeAhead_eq_false hword, hc, ih hpad]

theorem countPlaces_pad_append (hpad : ∀ c ∈ pad, isWord c = false)
    (hfront : front.getLast?.any isWord = false) :
    countPlaces (isWholeAhead word) front (pad ++ t) = countPlaces (isWholeAhead word) front t := by
  induction pad generalizing front with
  | nil => rfl
  | cons c pad ih =>
    obtain ⟨hc, hpad⟩ := List.forall_mem_cons.mp hpad
    have hlast : (front ++ [c]).getLast?.any isWord = false := by simpa using hc
    have hhere : isWholeAhead word front (c :: (pad ++ t)) = false :=
      isWholeAhead_eq_false hword hc
    rw [List.cons_append, countPlaces, ih hpad hlast, hhere,
      countPlaces_isWholeAhead_congr (hlast.trans hfront.symm)]
    rfl

theorem countPlaces_append_pad (hpad : ∀ c ∈ pad, isWord c = false) :
    countPlaces (isWholeAhead word) front (t ++ pad) = countPlaces (isWholeAhead word) front t := by
  induction t generalizing front with
  | nil =>
    rw [List.nil_append, countPlaces_pad hword hpad, countPlaces_pad hword (by simp)]
  | cons c t ih =>
    rw [List.cons_append, countPlaces, countPlaces, ih, ← List.cons_append,
      isWholeAhead_append hword hpad]

theorem wholeWords_trim (t : Text) : wholeWords word (trim t) = wholeWords word t := by
  obtain ⟨lead, trail, ht, hlead, htrail⟩ := exists_trim_eq t
  conv_rhs => rw [ht]
  rw [wholeWords, wholeWords,
    countPlaces_pad_append hword (fun c hc => isWord_eq_false_of_isBlank (hlead c hc)) rfl,
    countPlaces_append_pad hword fun c hc => isWord_eq_false_of_isBlank (htrail c hc)]

end

end Text

namespace Pattern

variable {p : Pattern} {front text back ahead t : Text} {kept : Groups} {m : Match}

open Cursor (between)

theorem atEdge_ahead (hword : text.IsWord) : (between front (text ++ back)).atEdge = true ↔
    front.getLast?.any Text.isWord = false := by
  change (_ != (text ++ back).head?.any Text.isWord) = true ↔ _
  rw [hword.head?_any]
  simp [between]

theorem atEdge_behind (hword : text.IsWord) : (between (front ++ text) back).atEdge = true ↔
    back.head?.any Text.isWord = false := by
  change ((front ++ text).getLast?.any Text.isWord != _) = true ↔ _
  rw [hword.getLast?_any]
  simp [between]

theorem standsWhole_iff_atEdge (hword : text.IsWord) : text.StandsWhole front back ↔
    (between front (text ++ back)).atEdge = true ∧
      (between (front ++ text) back).atEdge = true := by
  rw [atEdge_ahead hword, atEdge_behind hword]
  exact ⟨fun h => ⟨h.front, h.back⟩, fun h => ⟨hword, h.1, h.2⟩⟩

/-! ## Matches at all places -/

/-- The matches at all places of a text, whether they overlap or not. -/
def places (p : Pattern) : Text → Text → List Match
  | front, [] => (p.at? (between front [])).toList
  | front, c :: rest => (p.at? (between front (c :: rest))).toList ++ places p (front ++ [c]) rest

theorem length_places : (places p front ahead).length =
    Text.countPlaces (fun front ahead => (p.at? (between front ahead)).isSome) front ahead := by
  induction ahead generalizing front with
  | nil => cases h : p.at? (between front []) <;> simp [places, Text.countPlaces, h]
  | cons c rest ih =>
    cases h : p.at? (between front (c :: rest)) <;> simp [places, Text.countPlaces, h, ih]

theorem mem_places_iff : m ∈ places p front ahead ↔
    ∃ before behind, ahead = before ++ behind ∧
      p.at? (between (front ++ before) behind) = some m := by
  induction ahead generalizing front with
  | nil => simp [places]
  | cons c rest ih => simp [places, ih, Text.exists_split_cons]

theorem places_eq_nil (h : ∀ before behind, ahead = before ++ behind →
    p.at? (between (front ++ before) behind) = none) : places p front ahead = [] := by
  refine List.eq_nil_iff_forall_not_mem.mpr fun m hm => ?_
  obtain ⟨before, behind, hsplit, hm⟩ := mem_places_iff.mp hm
  rw [h before behind hsplit] at hm
  cases hm

theorem places_append {skipped rest : Text}
    (hskips : ∀ before behind, skipped = before ++ behind → behind ≠ [] →
      p.at? (between (front ++ before) (behind ++ rest)) = none) :
    places p front (skipped ++ rest) = places p (front ++ skipped) rest := by
  induction skipped generalizing front with
  | nil => simp
  | cons c skipped ih =>
    rw [Text.forall_split_cons] at hskips
    have hhere : p.at? (between front (c :: (skipped ++ rest))) = none := by
      simpa using hskips.1 (by simp)
    have hlater := @ih (front ++ [c]) (by simpa using hskips.2)
    rw [List.cons_append, places, hhere, hlater]
    simp

/-! ## Patterns of whole words -/

def BareWords (p : Pattern) : Prop :=
  ∀ front text back kept, p.Fits front text back kept → text.StandsWhole front back

namespace BareWords

variable (hp : p.BareWords)
include hp

theorem at?_eq_none {before : Text} (hword : before.IsWord) :
    p.at? (between (front ++ before) ahead) = none := by
  rw [← Option.not_isSome_iff_eq_none, isSome_at?_iff]
  rintro ⟨text, back, kept, -, hfits⟩
  have hfront := (hp _ _ _ _ hfits).front
  rw [hword.getLast?_any] at hfront
  cases hfront

theorem places_of_at? (h : p.at? (between front (m.text ++ back)) = some m) :
    places p front (m.text ++ back) = m :: places p (front ++ m.text) back := by
  have hwhole := (hp _ _ _ _ (stands_of_at?_append h).fits).isWord
  generalize m.text = word at h hwhole ⊢
  cases word with
  | nil => exact absurd rfl hwhole.ne_nil
  | cons c word =>
    have hlater : places p (front ++ [c]) (word ++ back) =
        places p (front ++ [c] ++ word) back := by
      refine places_append fun before behind hsplit _ => ?_
      rw [List.append_assoc]
      refine hp.at?_eq_none ⟨List.cons_ne_nil c before, fun d hd => hwhole.chars d ?_⟩
      rw [hsplit, ← List.cons_append]
      exact List.mem_append_left _ hd
    rw [List.cons_append, places, hlater, ← List.cons_append, h]
    simp

theorem allFrom_eq_places {fuel : Nat} (hfuel : ahead.length < fuel) {last : Option Nat} :
    p.allFrom fuel (between front ahead) last = places p front ahead := by
  -- No match is empty, so each round leaves less text and the fuel lasts.
  induction fuel generalizing front ahead last with
  | zero => exact absurd hfuel (Nat.not_lt_zero _)
  | succ fuel ih =>
    rw [allFrom]
    cases hfound : p.from? (between front ahead).previous (between front ahead).index
        (between front ahead).ahead with
    | none => exact (places_eq_nil (from?_eq_none_iff.mp hfound)).symm
    | some m =>
      obtain ⟨skipped, back, rfl, hfirst⟩ := comesFirst_of_from? hfound
      have hstands := stands_of_at?_append hfirst.found
      have hne := (hp _ _ _ _ hstands.fits).isWord.ne_nil
      have hlength := List.length_pos_iff.mpr hne
      have hmoves : m.stop.index ≠ m.start.index := by
        simp [hstands.start, hstands.stop, between, hne]
      have hshorter : back.length < fuel := by
        simp only [List.length_append] at hfuel
        omega
      rw [places_append hfirst.skips, hp.places_of_at? hfirst.found]
      dsimp only
      rw [if_neg hmoves, hstands.stop, ih hshorter]

theorem findAll_eq_places (t : Text) : p.findAll t = places p [] t := by
  rw [findAll, Cursor.start_eq]
  exact hp.allFrom_eq_places (Nat.lt_succ_self _)

theorem count_eq (t : Text) : p.count t =
    Text.countPlaces (fun front ahead => (p.at? (between front ahead)).isSome) [] t := by
  rw [count, hp.findAll_eq_places, length_places]

theorem exists_mem_findAll_iff {word : Text} : (∃ m ∈ p.findAll t, m.text = word) ↔
    ∃ front back kept, t = front ++ (word ++ back) ∧ p.Fits front word back kept := by
  constructor
  · rintro ⟨m, hm, rfl⟩
    obtain ⟨front, back, ht, hm⟩ := at?_of_mem_findAll hm
    exact ⟨front, back, m.groups, ht, (stands_of_at?_append hm).fits⟩
  · rintro ⟨front, back, kept, rfl, hfits⟩
    obtain ⟨m, hm⟩ :=
      Option.isSome_iff_exists.mp (isSome_at?_iff.mpr ⟨word, back, kept, rfl, hfits⟩)
    obtain ⟨rest, hrest, hstands⟩ := stands_of_at? hm
    refine ⟨m, ?_, (hp _ _ _ _ hstands.fits).unique (hp _ _ _ _ hfits) hrest.symm⟩
    rw [hp.findAll_eq_places]
    exact mem_places_iff.mpr ⟨front, word ++ back, rfl, hm⟩

end BareWords

theorem describes_word : word.Describes Text.IsWord where
  fits_iff := (describes_some1 .inWord).fits_iff.trans <|
    and_congr_left fun _ => ⟨fun h => ⟨h.1, h.2⟩, fun h => ⟨h.1, h.2⟩⟩

theorem fits_whole {w : String} (hw : Text.IsWord w.toList) :
    (whole w).Fits front text back kept ↔
      text = w.toList ∧ text.StandsWhole front back ∧ kept = [] := by
  rw [whole, fits_append_edge, fits_edge_append, (describes_literal w).fits_iff]
  constructor
  · rintro ⟨⟨hfront, rfl, rfl⟩, hback⟩
    exact ⟨rfl, (standsWhole_iff_atEdge hw).mpr ⟨hfront, hback⟩, rfl⟩
  · rintro ⟨rfl, hstands, rfl⟩
    obtain ⟨hfront, hback⟩ := (standsWhole_iff_atEdge hw).mp hstands
    exact ⟨⟨hfront, rfl, rfl⟩, hback⟩

theorem isSome_at?_whole {w : String} (hw : Text.IsWord w.toList) :
    ((whole w).at? (between front ahead)).isSome = Text.isWholeAhead w.toList front ahead := by
  rw [Bool.eq_iff_iff, isSome_at?_iff, Text.isWholeAhead_iff hw]
  simp only [fits_whole hw]
  constructor
  · rintro ⟨_, back, _, rfl, rfl, hstands, rfl⟩
    exact ⟨back, rfl, hstands⟩
  · rintro ⟨back, rfl, hstands⟩
    exact ⟨_, back, _, rfl, rfl, hstands, rfl⟩

theorem isWord_of_nameStart {c : Char} (h : CharClass.nameStart.has c = true) :
    Text.isWord c = true := by
  simp only [CharClass.nameStart, Bool.or_eq_true, beq_iff_eq] at h
  rcases h with h | rfl
  · exact Text.isWord_of_isAlpha h
  · decide

theorem fits_identifier : identifier.Fits front text back kept ↔
    text.StandsWhole front back ∧ text.head?.any CharClass.nameStart.has = true ∧ kept = [] := by
  rw [identifier, fits_append_edge, wordRest, (describes_any .inWord).fits_append]
  simp only [fits_edge_append, (describes_one .nameStart).fits_iff]
  constructor
  · rintro ⟨⟨_, rest, rfl, hrest, hfront, ⟨c, hc, rfl⟩, rfl⟩, hback⟩
    rw [List.singleton_append] at hback ⊢
    have hword : Text.IsWord (c :: rest) :=
      ⟨List.cons_ne_nil c rest, List.forall_mem_cons.mpr ⟨isWord_of_nameStart hc, hrest⟩⟩
    exact ⟨(standsWhole_iff_atEdge hword).mpr ⟨hfront, hback⟩, hc, rfl⟩
  · rintro ⟨hstands, hstart, rfl⟩
    obtain ⟨hfront, hback⟩ := (standsWhole_iff_atEdge hstands.isWord).mp hstands
    have hchars := hstands.isWord.chars
    cases text with
    | nil => cases hstart
    | cons c rest =>
      have hrest := (List.forall_mem_cons.mp hchars).2
      exact ⟨⟨[c], rest, rfl, hrest, hfront, ⟨c, hstart, rfl⟩, rfl⟩, hback⟩

theorem bareWords_whole {w : String} (hw : Text.IsWord w.toList) : (whole w).BareWords :=
  fun _ _ _ _ h => ((fits_whole hw).mp h).2.1

theorem bareWords_identifier : identifier.BareWords :=
  fun _ _ _ _ h => (fits_identifier.mp h).1

theorem count_whole {w : String} (hw : Text.IsWord w.toList) (t : Text) :
    (whole w).count t = Text.wholeWords w.toList t := by
  rw [(bareWords_whole hw).count_eq, Text.wholeWords]
  congr 1
  funext front ahead
  exact isSome_at?_whole hw

/-! ## Words at the end of a pattern -/

section

variable {q : Pattern} {α : Type}

theorem exists_run_eq (among : CharClass) {k : Continuation α} {groups : Groups}
    (hk : ∀ cur, (k cur groups).isSome) (previous : Option Char) (index : Nat) (ahead : Text) :
    ∃ cur, match? (run among false) k ⟨previous, ahead, index⟩ groups = k cur groups ∧
      cur.ahead.head?.any among.has = false := by
  induction ahead generalizing previous index with
  | nil => exact ⟨_, rfl, rfl⟩
  | cons c rest ih =>
    rw [match?_run_cons]
    split_ifs with hc
    · obtain ⟨cur, hrun, hend⟩ := ih (some c) (index + 1)
      obtain ⟨a, ha⟩ := Option.isSome_iff_exists.mp (hk cur)
      rw [hrun, ha]
      exact ⟨cur, ha.symm, hend⟩
    · exact ⟨_, rfl, by simpa using hc⟩

theorem exists_match?_word_eq {k : Continuation α} {groups : Groups}
    (hk : ∀ cur, (k cur groups).isSome) {cur : Cursor} {a : α}
    (h : match? word k cur groups = some a) :
    ∃ stop, k stop groups = some a ∧ stop.ahead.head?.any Text.isWord = false := by
  obtain ⟨previous, ahead, index⟩ := cur
  cases ahead with
  | nil => cases h
  | cons c rest =>
    have hrest : (if CharClass.inWord.has c then
        match? (run .inWord false) k ⟨some c, rest, index + 1⟩ groups else none) = some a := h
    split_ifs at hrest
    obtain ⟨stop, hrun, hend⟩ := exists_run_eq .inWord hk (some c) (index + 1) rest
    exact ⟨stop, hrun ▸ hrest, hend⟩

/-- The pattern, where anything may follow, is followed by no character of a word. -/
def EndsWords (q : Pattern) : Prop :=
  ∀ (start cur : Cursor) (groups : Groups) (m : Match),
    match? q (finish start) cur groups = some m → m.stop.ahead.head?.any Text.isWord = false

theorem endsWords_word : word.EndsWords := by
  intro start cur groups m h
  obtain ⟨stop, hm, hend⟩ := exists_match?_word_eq (fun _ => rfl) h
  cases hm
  exact hend

theorem endsWords_group_word (number : Nat) : (group number word).EndsWords := by
  intro start cur groups m h
  rw [match?] at h
  obtain ⟨stop, hm, hend⟩ := exists_match?_word_eq (fun _ => rfl) h
  cases hm
  exact hend

theorem EndsWords.head?_of_at? (hq : q.EndsWords)
    (h : (p ++ q).at? (between front (m.text ++ back)) = some m) :
    back.head?.any Text.isWord = false := by
  have hseq : match? p (match? q (finish _)) (between front (m.text ++ back)) [] = some m := h
  obtain ⟨_, _, _, -, -, hfound⟩ := found_of_match? hseq
  have hend := hq _ _ _ _ hfound
  rwa [(stands_of_at?_append h).stop] at hend

theorem head?_of_fits_word_edge {number : Nat}
    (h : (p ++ group number word ++ edge).Fits front text back kept) :
    back.head?.any Text.isWord = false := by
  obtain ⟨hfits, hedge⟩ := fits_append_edge.mp h
  obtain ⟨_, last, _, rfl, hlast, -⟩ := describes_word.fits_append_group.mp hfits
  rwa [← List.append_assoc, atEdge_behind hlast] at hedge

end

end Pattern
end Asymptote
