import Asymptote.Text.Basic
import Mathlib

/-! # Letter case
Characters and texts that differ only in the case of ASCII letters belong to the same classes and
have the same lowercase. A character that is neither cased nor looked through keeps the parts of a
text apart when it is lowered: what ends a word in a part ends it in the whole. -/
namespace Asymptote.Text

variable {s t : Text} {c d : Char}

/-! ## Characters -/

theorem isAlpha_eq_false_of_isDigit (h : c.isDigit = true) : c.isAlpha = false := by
  simp only [Char.isDigit, Char.isAlpha, Char.isUpper, Char.isLower, Bool.and_eq_true,
    Bool.or_eq_false_iff, Bool.and_eq_false_iff, decide_eq_true_eq, decide_eq_false_iff_not,
    ge_iff_le, UInt32.le_iff_toNat_le, UInt32.reduceToNat, Char.toNat_val, Char.reduceVal] at h ⊢
  omega

theorem toLower_of_isDigit (h : c.isDigit = true) : c.toLower = c := by
  apply Char.toLower_eq_of_not_isUpper
  intro hupper
  have halpha := isAlpha_eq_false_of_isDigit h
  simp [Char.isAlpha, hupper] at halpha

/-- What each capital has in common with its small letter does not depend on case. -/
theorem eq_of_toLower_eq {α : Type} {f : Char → α}
    (h : ∀ n ∈ List.range' 65 26, f (Char.ofNat (n + 32)) = f (Char.ofNat n))
    (hcd : c.toLower = d.toLower) : f c = f d := by
  have hlower (c : Char) : f c.toLower = f c := by
    by_cases hc : c.isUpper = true
    · have hcapital : 65 ≤ c.toNat ∧ c.toNat ≤ 90 := by
        simpa [Char.isUpper, UInt32.le_iff_toNat_le, ← Char.toNat_val] using hc
      have hsmall := h c.toNat (List.mem_range'_1.mpr ⟨hcapital.1, by omega⟩)
      rwa [← Char.toLower_eq_of_isUpper hc, Char.ofNat_toNat] at hsmall
    · rw [Char.toLower_eq_of_not_isUpper hc]
  rw [← hlower c, hcd, hlower d]

theorem isBlank_congr (h : c.toLower = d.toLower) : isBlank c = isBlank d :=
  eq_of_toLower_eq (by decide) h

theorem isCased_congr (h : c.toLower = d.toLower) : isCased c = isCased d :=
  eq_of_toLower_eq (by decide) h

theorem isCaseIgnorable_congr (h : c.toLower = d.toLower) :
    isCaseIgnorable c = isCaseIgnorable d :=
  eq_of_toLower_eq (by decide) h

theorem lowerChar_congr (h : c.toLower = d.toLower) : lowerChar c = lowerChar d :=
  eq_of_toLower_eq (by decide) h

theorem eq_sigma_congr (h : c.toLower = d.toLower) : c = 'Σ' ↔ d = 'Σ' :=
  decide_eq_decide.mp (eq_of_toLower_eq (f := fun c => decide (c = 'Σ')) (by decide) h)

/-! ## Texts -/

def SameButCase : Text → Text → Prop :=
  List.Forall₂ fun c d => c.toLower = d.toLower

theorem sameButCase_iff : SameButCase s t ↔ s.map Char.toLower = t.map Char.toLower := by
  rw [← List.forall₂_eq_eq_eq, List.forall₂_map_left_iff, List.forall₂_map_right_iff, SameButCase]

instance (s t : Text) : Decidable (SameButCase s t) :=
  decidable_of_iff _ sameButCase_iff.symm

namespace SameButCase

theorem meetsCased_eq (h : SameButCase s t) : meetsCased s = meetsCased t := by
  induction h with
  | nil => rfl
  | cons hcd _ ih =>
    rw [meetsCased, meetsCased, List.dropWhile_cons, List.dropWhile_cons,
      isCaseIgnorable_congr hcd]
    split_ifs
    · exact ih
    · exact isCased_congr hcd

theorem flatMap_lowerChar_eq (h : SameButCase s t) :
    s.flatMap lowerChar = t.flatMap lowerChar := by
  induction h with
  | nil => rfl
  | cons hcd _ ih => rw [List.flatMap_cons, List.flatMap_cons, lowerChar_congr hcd, ih]

theorem lowercase_eq (h : SameButCase s t) : lowercase s = lowercase t := by
  have hgo {before before' : Text} (hbefore : SameButCase before before') :
      lowercase.go before s = lowercase.go before' t := by
    induction h generalizing before before' with
    | nil => rfl
    | cons hcd hst ih =>
      have hrest := ih (List.Forall₂.cons hcd hbefore)
      have hahead := SameButCase.meetsCased_eq hst
      simp only [lowercase.go, hrest, hbefore.meetsCased_eq, hahead, lowerChar_congr hcd,
        eq_sigma_congr hcd]
  exact hgo List.Forall₂.nil

end SameButCase

/-! ## Parts -/

/-- The character ends what may be seen of a word from either side. -/
def Separates (c : Char) : Prop :=
  c ≠ 'Σ' ∧ isCased c = false ∧ isCaseIgnorable c = false

instance (c : Char) : Decidable (Separates c) :=
  inferInstanceAs (Decidable (_ ∧ _))

theorem Separates.meetsCased_append (h : Separates c) (front back : Text) :
    meetsCased (front ++ c :: back) = meetsCased front := by
  obtain ⟨-, hcased, hignorable⟩ := h
  induction front with
  | nil => simp [meetsCased, hcased, hignorable]
  | cons d front ih =>
    rw [meetsCased, meetsCased] at ih
    rw [meetsCased, meetsCased, List.cons_append, List.dropWhile_cons, List.dropWhile_cons]
    split_ifs
    · exact ih
    · rfl

theorem Separates.go_behind (h : Separates c) (before past t : Text) :
    lowercase.go (before ++ c :: past) t = lowercase.go before t := by
  induction t generalizing before with
  | nil => rfl
  | cons d t ih =>
    have hrest := ih (d :: before)
    rw [List.cons_append] at hrest
    rw [lowercase.go, lowercase.go, hrest, h.meetsCased_append]

theorem Separates.lowercase_append (h : Separates c) (front back : Text) :
    lowercase (front ++ c :: back) = lowercase front ++ (lowerChar c ++ lowercase back) := by
  have hgo (before : Text) : lowercase.go before (front ++ c :: back) =
      lowercase.go before front ++ (lowerChar c ++ lowercase back) := by
    induction front generalizing before with
    | nil =>
      have hback := h.go_behind [] before back
      rw [List.nil_append] at hback
      simp only [List.nil_append, lowercase.go, if_neg h.1, hback, lowercase]
    | cons d front ih =>
      rw [List.cons_append, lowercase.go, lowercase.go, ih, h.meetsCased_append,
        List.append_assoc]
  exact hgo []

theorem lowercase_eq_flatMap (h : 'Σ' ∉ t) : lowercase t = t.flatMap lowerChar := by
  have hgo (before : Text) : lowercase.go before t = t.flatMap lowerChar := by
    induction t generalizing before with
    | nil => rfl
    | cons c t ih =>
      obtain ⟨hc, ht⟩ := not_or.mp (mt List.mem_cons.mpr h)
      rw [lowercase.go, if_neg (Ne.symm hc), ih ht, List.flatMap_cons]
  exact hgo []

end Asymptote.Text
