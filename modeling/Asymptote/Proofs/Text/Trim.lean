import Asymptote.Text.Basic
import Mathlib.Data.List.TakeWhile

/-! # White space around a text
Trimming takes away white space at the ends of a text and nothing else, and it comes to the same
with more white space around the text. -/
namespace Asymptote.Text

variable {c : Char} {lead trail t : Text}

theorem exists_trimStart_eq (t : Text) :
    ∃ lead, t = lead ++ trimStart t ∧ ∀ c ∈ lead, isBlank c = true :=
  ⟨t.takeWhile isBlank, List.takeWhile_append_dropWhile.symm, List.all_eq_true.mp List.all_takeWhile⟩

theorem exists_trimEnd_eq (t : Text) :
    ∃ trail, t = trimEnd t ++ trail ∧ ∀ c ∈ trail, isBlank c = true := by
  refine ⟨(t.reverse.takeWhile isBlank).reverse, ?_, ?_⟩
  · rw [trimEnd, dropEndWhile, ← List.reverse_append, List.takeWhile_append_dropWhile,
      List.reverse_reverse]
  · simpa using List.all_eq_true.mp (List.all_takeWhile (p := isBlank))

theorem exists_trim_eq (t : Text) : ∃ lead trail, t = lead ++ (trim t ++ trail) ∧
    (∀ c ∈ lead, isBlank c = true) ∧ ∀ c ∈ trail, isBlank c = true := by
  obtain ⟨lead, hstart, hlead⟩ := exists_trimStart_eq t
  obtain ⟨trail, hend, htrail⟩ := exists_trimEnd_eq (trimStart t)
  exact ⟨lead, trail, by rwa [trim, ← hend], hlead, htrail⟩

theorem trimStart_append (h : ∀ c ∈ lead, isBlank c = true) (t : Text) :
    trimStart (lead ++ t) = trimStart t :=
  List.dropWhile_append_of_pos h

theorem trimStart_append_cons (h : ∀ c ∈ lead, isBlank c = true) (hc : isBlank c = false)
    (t : Text) : trimStart (lead ++ c :: t) = c :: t := by
  rw [trimStart_append h, trimStart, List.dropWhile_cons_of_neg (by simp [hc])]

theorem trimStart_eq_nil_iff : trimStart t = [] ↔ isAllBlank t = true := by
  rw [trimStart, List.dropWhile_eq_nil_iff, isAllBlank, List.all_eq_true]

theorem trimEnd_append (h : ∀ c ∈ trail, isBlank c = true) (t : Text) :
    trimEnd (t ++ trail) = trimEnd t := by
  rw [trimEnd, dropEndWhile, List.reverse_append,
    List.dropWhile_append_of_pos (by simpa using h), trimEnd, dropEndWhile]

theorem trim_append (h : ∀ c ∈ trail, isBlank c = true) (t : Text) :
    trim (t ++ trail) = trim t := by
  by_cases ht : trimStart t = []
  · have hall : trimStart (t ++ trail) = [] := by
      rw [trimStart_eq_nil_iff, isAllBlank, List.all_append, Bool.and_eq_true]
      exact ⟨trimStart_eq_nil_iff.mp ht, List.all_eq_true.mpr h⟩
    rw [trim, trim, ht, hall]
  · have hfront : trimStart (t ++ trail) = trimStart t ++ trail := by
      rw [trimStart] at ht
      rw [trimStart, List.dropWhile_append, if_neg (mt List.isEmpty_iff.mp ht), trimStart]
    rw [trim, hfront, trimEnd_append h, trim]

theorem trim_pad (hlead : ∀ c ∈ lead, isBlank c = true) (htrail : ∀ c ∈ trail, isBlank c = true)
    (t : Text) : trim (lead ++ (t ++ trail)) = trim t := by
  rw [trim, trimStart_append hlead, ← trim, trim_append htrail]

/-! ## Blank lines -/

def IsIndent (t : Text) : Prop :=
  ∀ c ∈ t, c = ' ' ∨ c = '\t'

/-- A line of nothing but spaces and tabs, if it may have any, with its break. -/
inductive BlankLine (indented : Bool) : Text → Prop
  | close : BlankLine indented ['\n']
  | indent {c : Char} {w : Text} (hindented : indented = true) (hc : c = ' ' ∨ c = '\t')
      (h : BlankLine indented w) : BlankLine indented (c :: w)

namespace IsIndent

variable {indent : Text} (h : IsIndent indent)
include h

theorem isBlank_of_mem : ∀ c ∈ indent, isBlank c = true := by
  intro c hc
  rcases h c hc with rfl | rfl <;> rfl

theorem trimEnd_eq_nil : trimEnd indent = [] := by
  have hempty := trimEnd_append h.isBlank_of_mem []
  exact hempty

theorem break_notMem : '\n' ∉ indent := fun hbreak => by
  simpa using h _ hbreak

theorem blankLine : BlankLine true (indent ++ ['\n']) := by
  induction indent with
  | nil => exact .close
  | cons c indent ih =>
    obtain ⟨hc, hindent⟩ := List.forall_mem_cons.mp h
    exact .indent rfl hc (ih hindent)

end IsIndent

namespace BlankLine

variable {indented : Bool} {w : Text} (h : BlankLine indented w)
include h

theorem exists_eq_append : ∃ indent, w = indent ++ ['\n'] ∧ IsIndent indent := by
  induction h with
  | close => exact ⟨[], rfl, List.forall_mem_nil _⟩
  | @indent c w _ hc h ih =>
    obtain ⟨indent, rfl, hindent⟩ := ih
    exact ⟨c :: indent, rfl, List.forall_mem_cons.mpr ⟨hc, hindent⟩⟩

theorem isBlank_of_mem : ∀ c ∈ w, isBlank c = true := by
  obtain ⟨indent, rfl, hindent⟩ := h.exists_eq_append
  have hbreak : ∀ c ∈ ['\n'], isBlank c = true := by simp [isBlank]
  exact List.forall_mem_append.mpr ⟨hindent.isBlank_of_mem, hbreak⟩

theorem head?_any_isWord (back : Text) : (w ++ back).head?.any isWord = false := by
  cases h with
  | close => rfl
  | indent _ hc => rcases hc with rfl | rfl <;> rfl

end BlankLine

end Asymptote.Text
