import Asymptote.Proofs.Text.Trim
import Asymptote.Snippet
import Mathlib.Data.List.Infix

/-! # Names in a line
A name stands in a text where no character of an identifier touches it. Two places of a name do not
overlap if identifiers go on through all of it but its last character, so a search from left to
right finds them all, and what it finds behind one of them are the places further right. -/
namespace Asymptote

namespace Text

/-- All characters but the last are such as an identifier has; the last may be a mark. -/
structure IsName (name : Text) : Prop where
  ne_nil : name ≠ []
  chars : ∀ c ∈ name.dropLast, isIdentifier c = true

instance (name : Text) : Decidable name.IsName :=
  decidable_of_iff (name ≠ [] ∧ name.dropLast.all isIdentifier = true)
    ⟨fun h => ⟨h.1, List.all_eq_true.mp h.2⟩, fun h => ⟨h.ne_nil, List.all_eq_true.mpr h.chars⟩⟩

/-- The name stands in the text between front and behind, and no identifier goes on into it. -/
structure NameAt (name t front behind : Text) : Prop where
  split : t = front ++ (name ++ behind)
  front : front.getLast?.any isIdentifier = false
  behind : behind.head?.any isIdentifier = false

variable {name t front front' behind behind' done ahead following : Text}

theorem NameAt.length_eq (h : NameAt name t front behind) :
    t.length = front.length + name.length + behind.length := by
  rw [h.split]
  simp only [List.length_append]
  omega

theorem NameAt.take_eq (h : NameAt name t front behind) :
    t.take (t.length - (name.length + behind.length)) = front := by
  rw [h.length_eq, Nat.add_assoc, Nat.add_sub_cancel, h.split, List.take_left]

theorem free_iff {c : Option Char} : afterWord.free c = true ↔ c.any isIdentifier = false := by
  simp [afterWord.free]

section

variable (hname : name.IsName)
include hname

theorem NameAt.length_le (h : NameAt name t front' behind') (hsplit : t = front ++ (name ++ behind))
    (hlt : front.length < front'.length) : front.length + name.length ≤ front'.length := by
  by_contra hoverlap
  have hprefix : front <+: front' := by
    refine List.prefix_of_prefix_length_le ⟨_, hsplit.symm⟩ ⟨_, h.split.symm⟩ hlt.le
  obtain ⟨more, rfl⟩ := hprefix
  have hmore : more ≠ [] := by
    rintro rfl
    simp at hlt
  -- What lies between the two places is a part of the name, so an identifier goes on there.
  have hpart : more <+: name.dropLast := by
    have hcancel : more ++ (name ++ behind') = name ++ behind := by
      have htext := h.split.symm.trans hsplit
      rwa [List.append_assoc, List.append_cancel_left_eq] at htext
    refine List.prefix_of_prefix_length_le ⟨_, hcancel⟩
      ((List.dropLast_prefix name).trans (List.prefix_append ..)) ?_
    rw [List.length_append] at hoverlap
    rw [List.length_dropLast]
    omega
  have hlast := hname.chars _ (hpart.subset (List.getLast_mem hmore))
  have hfront := h.front
  rw [List.getLast?_append, List.getLast?_eq_some_getLast hmore] at hfront
  exact absurd hlast (by simpa using hfront)

def foundHere? (name : Text) (previous : Option Char) (ahead : Text) : Option Text :=
  if name.isPrefixOf ahead && (afterWord.free previous &&
      afterWord.free (ahead.drop name.length).head?) then
    some (ahead.drop name.length)
  else none

def leftOut (name ahead : Text) : Nat :=
  if name.isPrefixOf ahead then name.length - 1 else 0

omit hname in
theorem foundHere?_eq_some_iff : foundHere? name done.getLast? ahead = some following ↔
    NameAt name (done ++ ahead) done following := by
  rw [foundHere?, Option.ite_none_right_eq_some, Option.some.injEq, Bool.and_eq_true,
    Bool.and_eq_true, List.isPrefixOf_iff_prefix, free_iff, free_iff]
  constructor
  · rintro ⟨⟨⟨behind, rfl⟩, hfront, hbehind⟩, hfollowing⟩
    rw [List.drop_left] at hbehind hfollowing
    exact ⟨by rw [hfollowing], hfront, hfollowing ▸ hbehind⟩
  · intro h
    obtain rfl : ahead = name ++ following := List.append_cancel_left h.split
    rw [List.drop_left]
    exact ⟨⟨List.prefix_append .., h.front, h.behind⟩, rfl⟩

omit hname in
theorem go_cons (previous : Option Char) (c : Char) (rest : Text) :
    afterWord.go name 0 previous (c :: rest) =
      (foundHere? name previous (c :: rest)).toList ++
        afterWord.go name (leftOut name (c :: rest)) (some c) rest := by
  simp only [afterWord.go, foundHere?, leftOut]
  cases name.isPrefixOf (c :: rest) with
  | false => rfl
  | true =>
    cases afterWord.free previous && afterWord.free ((c :: rest).drop name.length).head? <;> rfl

omit hname in
theorem mem_go_cons_iff (c : Char) (rest : Text) :
    following ∈ afterWord.go name 0 done.getLast? (c :: rest) ↔
      NameAt name (done ++ c :: rest) done following ∨
        following ∈ afterWord.go name (leftOut name (c :: rest)) (some c) rest := by
  rw [go_cons, List.mem_append, Option.mem_toList, foundHere?_eq_some_iff]

omit hname in
theorem exists_nameAt_succ_iff (n : Nat) (c : Char) (rest : Text) :
    (∃ before, n + 1 ≤ before.length ∧ NameAt name (done ++ c :: rest) (done ++ before) following) ↔
      ∃ before, n ≤ before.length ∧
        NameAt name (done ++ [c] ++ rest) (done ++ [c] ++ before) following := by
  constructor
  · rintro ⟨_ | ⟨d, before⟩, hlength, h⟩
    · cases hlength
    · have hsplit := h.split
      rw [List.append_assoc, List.append_cancel_left_eq] at hsplit
      obtain ⟨rfl, -⟩ := List.cons.inj hsplit
      exact ⟨before, by simpa using hlength, by simpa using h⟩
  · rintro ⟨before, hlength, h⟩
    exact ⟨c :: before, by simpa using hlength, by simpa using h⟩

theorem exists_nameAt_iff (c : Char) (rest : Text) :
    (∃ before, NameAt name (done ++ c :: rest) (done ++ before) following) ↔
      NameAt name (done ++ c :: rest) done following ∨
        ∃ before, leftOut name (c :: rest) + 1 ≤ before.length ∧
          NameAt name (done ++ c :: rest) (done ++ before) following := by
  constructor
  · rintro ⟨before, h⟩
    rcases eq_or_ne before [] with rfl | hne
    · exact .inl (by simpa using h)
    · refine .inr ⟨before, ?_, h⟩
      have hbefore := List.length_pos_iff.mpr hne
      rw [leftOut]
      split_ifs with hprefix
      · obtain ⟨behind, hsplit⟩ := List.isPrefixOf_iff_prefix.mp hprefix
        have htext : done ++ c :: rest = done ++ (name ++ behind) := by rw [hsplit]
        have hle := h.length_le hname htext (by simpa using hbefore)
        have hpos := List.length_pos_iff.mpr hname.ne_nil
        rw [List.length_append] at hle
        omega
      · omega
  · rintro (h | ⟨before, -, h⟩)
    · exact ⟨[], by simpa using h⟩
    · exact ⟨before, h⟩

/-- The search, having passed a part of the text and leaving out some characters more, finds the
places of the name from there on. -/
theorem mem_go_iff {n : Nat} : following ∈ afterWord.go name n done.getLast? ahead ↔
    ∃ before, n ≤ before.length ∧ NameAt name (done ++ ahead) (done ++ before) following := by
  induction ahead generalizing n done with
  | nil =>
    have hgo : following ∉ afterWord.go name n done.getLast? [] := by
      cases n <;> simp [afterWord.go, hname.ne_nil]
    refine iff_of_false hgo ?_
    rintro ⟨before, -, h⟩
    have hlength := h.length_eq
    have hpos := List.length_pos_iff.mpr hname.ne_nil
    simp only [List.length_append, List.length_nil] at hlength
    omega
  | cons c rest ih =>
    have hnext (n : Nat) : following ∈ afterWord.go name n (some c) rest ↔
        ∃ before, n + 1 ≤ before.length ∧
          NameAt name (done ++ c :: rest) (done ++ before) following := by
      rw [exists_nameAt_succ_iff, ← @ih (done ++ [c]) n, List.getLast?_concat]
    cases n with
    | succ n => rw [afterWord.go, hnext]
    | zero =>
      simp only [Nat.zero_le, true_and]
      rw [mem_go_cons_iff, hnext, exists_nameAt_iff hname]

theorem mem_afterWord_iff :
    following ∈ afterWord name t ↔ ∃ front, NameAt name t front following := by
  have hgo : following ∈ afterWord.go name 0 ([] : Text).getLast? t ↔ _ := mem_go_iff hname
  simpa [afterWord] using hgo

theorem pairwise_go (n : Nat) (done ahead : Text) :
    (afterWord.go name n done.getLast? ahead).Pairwise fun first later =>
      later.length < first.length := by
  induction ahead generalizing n done with
  | nil => cases n <;> simp [afterWord.go, hname.ne_nil]
  | cons c rest ih =>
    have hrest (n : Nat) : (afterWord.go name n (some c) rest).Pairwise fun first later =>
        later.length < first.length := by
      simpa using ih n (done ++ [c])
    cases n with
    | succ n => exact hrest n
    | zero =>
      rw [go_cons]
      refine List.pairwise_append.mpr ⟨by cases foundHere? .. <;> simp, hrest _, ?_⟩
      intro first hfirst later hlater
      have hhere := (foundHere?_eq_some_iff.mp (Option.mem_toList.mp hfirst)).length_eq
      rw [← List.getLast?_concat (l := done) (a := c)] at hlater
      obtain ⟨before, -, hthere⟩ := (mem_go_iff hname).mp hlater
      have hlength := hthere.length_eq
      simp only [List.length_append, List.length_cons, List.length_nil] at hhere hlength
      omega

theorem pairwise_afterWord (t : Text) :
    (afterWord name t).Pairwise fun first later => later.length < first.length := by
  simpa [afterWord] using pairwise_go hname 0 [] t

theorem exists_nameAt_of_afterWord {others : List Text} (h : afterWord name t = behind :: others) :
    ∃ front, NameAt name t front behind ∧
      ∀ front' behind', NameAt name t front' behind' → front.length ≤ front'.length := by
  have hmem : behind ∈ afterWord name t := by simp [h]
  obtain ⟨front, hfront⟩ := (mem_afterWord_iff hname).mp hmem
  refine ⟨front, hfront, fun front' behind' hfront' => ?_⟩
  have hfound : behind' ∈ behind :: others := h ▸ (mem_afterWord_iff hname).mpr ⟨front', hfront'⟩
  have hshorter : behind'.length ≤ behind.length := by
    rcases List.mem_cons.mp hfound with rfl | hlater
    · exact Nat.le_refl _
    · have hpairwise := pairwise_afterWord hname t
      rw [h] at hpairwise
      exact ((List.pairwise_cons.mp hpairwise).1 _ hlater).le
  have hlength := hfront.length_eq
  have hlength' := hfront'.length_eq
  omega

/-- Where the name comes again, its last character no longer counts for what stands in front. -/
theorem getLast?_any_behind {before : Text} (h : NameAt name t front behind)
    (hsplit : behind = before ++ (name ++ following)) :
    (front ++ name ++ before).getLast?.any isIdentifier = before.getLast?.any isIdentifier := by
  rw [List.getLast?_append]
  cases before with
  | cons c before => simp [List.getLast?_cons]
  | nil =>
    -- The name comes again at once, so it begins with a mark, and a mark is all there is to it.
    obtain ⟨c, rest, rfl⟩ := List.exists_cons_of_ne_nil hname.ne_nil
    have hc : isIdentifier c = false := by simpa [hsplit] using h.behind
    cases rest with
    | nil => simp [hc]
    | cons d rest =>
      have hidentifier := hname.chars c (by simp)
      rw [hc] at hidentifier
      cases hidentifier

theorem NameAt.exists_behind_iff (h : NameAt name t front behind) :
    (∃ before, NameAt name behind before following) ↔
      ∃ front', front.length < front'.length ∧ NameAt name t front' following := by
  have hpos := List.length_pos_iff.mpr hname.ne_nil
  constructor
  · rintro ⟨before, hbefore⟩
    refine ⟨front ++ (name ++ before), ?_, ?_, ?_, hbefore.behind⟩
    · simp only [List.length_append]
      omega
    · rw [h.split, hbefore.split]
      simp
    · rw [← List.append_assoc, getLast?_any_behind hname h hbefore.split]
      exact hbefore.front
  · rintro ⟨front', hlt, h'⟩
    have hle := h'.length_le hname h.split hlt
    have hprefix : front ++ name <+: front' := by
      refine List.prefix_of_prefix_length_le ⟨behind, ?_⟩ ⟨_, h'.split.symm⟩ ?_
      · rw [h.split, List.append_assoc]
      · rwa [List.length_append]
    obtain ⟨before, rfl⟩ := hprefix
    have hsplit : behind = before ++ (name ++ following) := by
      have htext := h.split.symm.trans h'.split
      simpa using htext
    refine ⟨before, hsplit, ?_, h'.behind⟩
    rw [← getLast?_any_behind hname h hsplit]
    exact h'.front

end

end Text

namespace Snippet

variable {name t front following arguments : Text}

def OpensCall (t : Text) : Prop :=
  ∃ gap inner, t = gap ++ '(' :: inner ∧ ∀ c ∈ gap, Text.isBlank c = true

theorem arguments?_eq_some_iff : arguments? t = some arguments ↔
    ∃ gap inner, t = gap ++ '(' :: inner ∧ (∀ c ∈ gap, Text.isBlank c = true) ∧
      uptoClose 0 inner = arguments := by
  rw [arguments?]
  constructor
  · intro h
    split at h
    next inner htrim =>
      obtain ⟨gap, ht, hgap⟩ := Text.exists_trimStart_eq t
      exact ⟨gap, inner, htrim ▸ ht, hgap, Option.some.inj h⟩
    next => cases h
  · rintro ⟨gap, inner, rfl, hgap, rfl⟩
    rw [Text.trimStart_append_cons hgap (by decide)]
    rfl

theorem isSome_arguments?_iff : (arguments? t).isSome ↔ OpensCall t := by
  simp [Option.isSome_iff_exists, arguments?_eq_some_iff, OpensCall]

theorem arguments?_eq_none_iff : arguments? t = none ↔ ¬ OpensCall t := by
  rw [← isSome_arguments?_iff, Option.not_isSome_iff_eq_none]

def CallAt (name t front : Text) : Prop :=
  ∃ behind, Text.NameAt name t front behind ∧ OpensCall behind

theorem exists_callAt_behind_iff (hname : name.IsName) {behind : Text}
    (h : Text.NameAt name t front behind) :
    (∃ before, CallAt name behind before) ↔
      ∃ front', front.length < front'.length ∧ CallAt name t front' := by
  constructor
  · rintro ⟨before, following, hbefore, hopens⟩
    obtain ⟨front', hlt, hfront'⟩ := (h.exists_behind_iff hname).mp ⟨before, hbefore⟩
    exact ⟨front', hlt, following, hfront', hopens⟩
  · rintro ⟨front', hlt, following, hfront', hopens⟩
    obtain ⟨before, hbefore⟩ := (h.exists_behind_iff hname).mpr ⟨front', hlt, hfront'⟩
    exact ⟨before, following, hbefore, hopens⟩

theorem forall_callAt_iff (hname : name.IsName) {P : Text → Prop} :
    (∀ front, CallAt name t front → P front) ↔
      ∀ following ∈ Text.afterWord name t, (arguments? following).isSome →
        P (t.take (t.length - (name.length + following.length))) := by
  simp only [Text.mem_afterWord_iff hname, isSome_arguments?_iff, CallAt]
  constructor
  · rintro h following ⟨front, hfront⟩ hopens
    rw [hfront.take_eq]
    exact h front ⟨following, hfront, hopens⟩
  · rintro h front ⟨following, hfront, hopens⟩
    rw [← hfront.take_eq]
    exact h following ⟨front, hfront⟩ hopens

theorem callArguments_eq_nil_iff (hname : name.IsName) :
    callArguments name t = [] ↔ ∀ front, ¬ CallAt name t front := by
  simp only [callArguments, List.filterMap_eq_nil_iff, arguments?_eq_none_iff,
    Text.mem_afterWord_iff hname, CallAt, not_exists, not_and, forall_exists_index]
  exact forall_comm

end Snippet
end Asymptote
