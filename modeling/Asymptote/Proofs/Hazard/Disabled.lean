import Asymptote.Engine
import Mathlib.Data.List.Find

/-! # Disabled hazards
The first entry of the table that is not disabled and recognizes the snippet gives the verdict. So only
the entry that answers can be disabled with effect, and the answer passes to a later entry or to
none. -/
namespace Asymptote.Hazard

def Answers (s : Snippet) (disabled : List String) (h : Hazard) : Prop :=
  h.name ∉ disabled ∧ h.recognizes (HazardView.ofSnippet s) = true

instance (s : Snippet) (disabled : List String) : DecidablePred (Answers s disabled) :=
  fun _ => inferInstanceAs (Decidable (_ ∧ _))

structure FirstAt (s : Snippet) (disabled : List String) (i : Nat) (h : Hazard) : Prop where
  stands : table[i]? = some h
  answers : Answers s disabled h
  first : ∀ j < i, ∀ x ∈ table[j]?, ¬ Answers s disabled x

variable {s : Snippet} {disabled more other : List String} {h h' : Hazard} {i j : Nat}

theorem isKnown_of_mem (hmem : h ∈ table) : isKnown h.name = true :=
  List.any_eq_true.mpr ⟨h, hmem, decide_eq_true rfl⟩

theorem find?_of_isEmpty (hblank : s.isEmpty = true) : find? s disabled = none := by
  rw [find?, if_pos hblank]

theorem find?_eq_find?_answers (hshown : s.isEmpty = false) :
    find? s disabled = table.find? fun h => decide (Answers s disabled h) := by
  rw [find?, hshown]
  refine List.find?_congr fun h _ => Bool.eq_iff_iff.mpr ?_
  rw [decide_eq_true_iff]
  simp [Answers]

theorem find?_eq_some_iff :
    find? s disabled = some h ↔ s.isEmpty = false ∧ ∃ i, FirstAt s disabled i h := by
  cases hblank : s.isEmpty with
  | true => simp [find?_of_isEmpty hblank]
  | false =>
    rw [find?_eq_find?_answers hblank, List.find?_eq_some_iff_getElem]
    simp only [decide_eq_true_eq, Bool.not_eq_true', decide_eq_false_iff_not, true_and]
    constructor
    · rintro ⟨hanswers, i, hi, hstands, hfirst⟩
      refine ⟨i, List.getElem?_eq_some_iff.mpr ⟨hi, hstands⟩, hanswers, fun j hj x hx => ?_⟩
      obtain ⟨_, rfl⟩ := List.getElem?_eq_some_iff.mp hx
      exact hfirst j hj
    · rintro ⟨i, hstands, hanswers, hfirst⟩
      obtain ⟨hi, hstands⟩ := List.getElem?_eq_some_iff.mp hstands
      exact ⟨hanswers, i, hi, hstands, fun j hj => hfirst j hj _ (List.getElem?_eq_getElem _)⟩

theorem find?_congr
    (hsame : ∀ name, isKnown name = true → (name ∈ other ↔ name ∈ disabled)) :
    find? s other = find? s disabled := by
  cases hblank : s.isEmpty with
  | true => rw [find?_of_isEmpty hblank, find?_of_isEmpty hblank]
  | false =>
    rw [find?_eq_find?_answers hblank, find?_eq_find?_answers hblank]
    refine List.find?_congr fun h hmem => decide_eq_decide.mpr ?_
    rw [Answers, Answers, hsame h.name (isKnown_of_mem hmem)]

/-! ## More disabled names -/

theorem Answers.of_subset (hsub : ∀ name ∈ disabled, isKnown name = true → name ∈ more)
    (hmem : h ∈ table) (hanswers : Answers s more h) : Answers s disabled h :=
  ⟨fun hname => hanswers.1 (hsub _ hname (isKnown_of_mem hmem)), hanswers.2⟩

theorem FirstAt.le (hfirst : FirstAt s disabled i h) (hstands : table[j]? = some h')
    (hanswers : Answers s disabled h') : i ≤ j :=
  not_lt.mp fun hlt => hfirst.first j hlt h' hstands hanswers

theorem exists_firstAt_le (hsub : ∀ name ∈ disabled, isKnown name = true → name ∈ more)
    (hfound : find? s more = some h') :
    ∃ h ∈ find? s disabled, ∃ i j, FirstAt s disabled i h ∧ FirstAt s more j h' ∧ i ≤ j := by
  obtain ⟨hshown, j, hlater⟩ := find?_eq_some_iff.mp hfound
  have hanswers := hlater.answers.of_subset hsub (List.mem_of_getElem? hlater.stands)
  cases hfirst : find? s disabled with
  | none =>
    rw [find?_eq_find?_answers hshown, List.find?_eq_none] at hfirst
    exact absurd (decide_eq_true hanswers) (hfirst h' (List.mem_of_getElem? hlater.stands))
  | some h =>
    obtain ⟨_, i, hi⟩ := find?_eq_some_iff.mp hfirst
    exact ⟨h, rfl, i, j, hi, hlater, hi.le hlater.stands hanswers⟩

theorem FirstAt.of_subset (hfirst : FirstAt s disabled i h)
    (hsub : ∀ name ∈ disabled, isKnown name = true → name ∈ more) (hname : h.name ∉ more) :
    FirstAt s more i h where
  stands := hfirst.stands
  answers := ⟨hname, hfirst.answers.2⟩
  first j hj x hx hanswers :=
    hfirst.first j hj x hx (hanswers.of_subset hsub (List.mem_of_getElem? hx))

theorem find?_of_subset (hsub : ∀ name ∈ disabled, isKnown name = true → name ∈ more)
    (hkept : ∀ h ∈ find? s disabled, h.name ∉ more) : find? s more = find? s disabled := by
  cases hfirst : find? s disabled with
  | some h =>
    obtain ⟨hshown, i, hi⟩ := find?_eq_some_iff.mp hfirst
    exact find?_eq_some_iff.mpr ⟨hshown, i, hi.of_subset hsub (hkept h hfirst)⟩
  | none =>
    cases hmore : find? s more with
    | none => rfl
    | some h' =>
      obtain ⟨h, hh, _⟩ := exists_firstAt_le hsub hmore
      rw [hfirst] at hh
      cases hh

/-- The verdict is that of the first entry which is not disabled and recognizes the snippet. Other
names that are disabled leave it, with more of them it passes to a later entry or to none, and names
of no entry, repetition and order are without effect. -/
theorem find?_first_enabled (s : Snippet) (disabled : List String) :
    (∀ h, find? s disabled = some h ↔ s.isEmpty = false ∧ ∃ i, FirstAt s disabled i h) ∧
    (∀ h ∈ find? s disabled, Heuristic.ofSnippet s disabled = ⟨h.verdict, none⟩) ∧
    (∀ more, (∀ h ∈ find? s disabled, h.name ∉ more) →
      find? s (disabled ++ more) = find? s disabled) ∧
    (∀ more, disabled ⊆ more → ∀ h' ∈ find? s more, ∃ h ∈ find? s disabled, ∃ i j,
      FirstAt s disabled i h ∧ FirstAt s more j h' ∧ i ≤ j) ∧
    ∀ other, (∀ name, isKnown name = true → (name ∈ other ↔ name ∈ disabled)) →
      find? s other = find? s disabled := by
  refine ⟨fun h => find?_eq_some_iff, ?verdict, ?others, ?more, fun other => find?_congr⟩
  case verdict =>
    intro h hh
    rw [Heuristic.ofSnippet, Option.mem_def.mp hh]
  case others =>
    intro more hkept
    refine find?_of_subset (fun name hname _ => List.mem_append_left _ hname) fun h hh hname => ?_
    obtain ⟨_, i, hi⟩ := find?_eq_some_iff.mp hh
    rcases List.mem_append.mp hname with hname | hname
    · exact hi.answers.1 hname
    · exact hkept h hh hname
  case more =>
    exact fun more hsub h' hh => exists_firstAt_le (fun name hname _ => hsub hname) hh

end Asymptote.Hazard
