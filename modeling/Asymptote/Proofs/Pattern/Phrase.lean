import Asymptote.Proofs.Pattern.Word

/-! # Phrases
Some patterns fit pieces of a text, such as words and signs, with white space between them. What
such a phrase fits is told step by step, from its first word on. -/
namespace Asymptote

/-- The text consists of the pieces, with nothing but white space between them. -/
inductive Text.Spells : List Text → Text → Prop
  | one (piece : Text) : Spells [piece] piece
  | more {pieces : List Text} {t gap : Text} (h : Spells pieces t)
      (hgap : ∀ c ∈ gap, isBlank c = true) (piece : Text) :
      Spells (pieces ++ [piece]) (t ++ (gap ++ piece))

theorem Text.Spells.isInfix {pieces : List Text} {t piece : Text} (h : Spells pieces t)
    (hpiece : piece ∈ pieces) : piece <:+: t := by
  induction h with
  | one piece =>
    cases List.mem_singleton.mp hpiece
    exact List.infix_refl _
  | more _ _ last ih =>
    rcases List.mem_append.mp hpiece with hpiece | hpiece
    · exact (ih hpiece).trans (List.prefix_append _ _).isInfix
    · cases List.mem_singleton.mp hpiece
      rw [← List.append_assoc]
      exact (List.suffix_append _ _).isInfix

namespace Pattern
open Cursor (between)

/-- The pattern fits phrases behind no character of a word, with pieces and groups as `reads`
says. -/
structure Phrase (p : Pattern) (reads : List Text → Groups → Prop) : Prop where
  of_fits : ∀ {front text back kept}, p.Fits front text back kept →
    front.getLast?.any Text.isWord = false ∧ ∃ t gap pieces, text = t ++ gap ∧ t.Spells pieces ∧
      (∀ c ∈ gap, Text.isBlank c = true) ∧ reads pieces kept

theorem phrase_word (number : Nat) : (edge ++ group number word).Phrase fun pieces kept =>
    ∃ w : Text, w.IsWord ∧ pieces = [w] ∧ kept = [(number, w)] where
  of_fits {front text back kept} h := by
    obtain ⟨hedge, _, rfl, hfits⟩ := fits_edge_append.mp h
    have ⟨hword, hkept⟩ := describes_word.fits_iff.mp hfits
    subst hkept
    rw [atEdge_ahead hword] at hedge
    exact ⟨hedge, text, [], [text], by simp, .one text, by simp, text, hword, rfl, rfl⟩

namespace Phrase

variable {p q : Pattern} {reads : List Text → Groups → Prop} {kind : Text → Prop}

theorem piece (hp : p.Phrase reads) (hq : q.Describes kind) :
    (p ++ q).Phrase fun pieces kept => ∃ before last, pieces = before ++ [last] ∧ kind last ∧
      reads before kept where
  of_fits h := by
    obtain ⟨_, last, rfl, hlast, hfits⟩ := hq.fits_append.mp h
    obtain ⟨hfront, t, gap, pieces, rfl, hspells, hgap, hreads⟩ := hp.of_fits hfits
    exact ⟨hfront, _, [], _, by simp, hspells.more hgap last, by simp, pieces, last, rfl, hlast,
      hreads⟩

theorem group (hp : p.Phrase reads) (number : Nat) (hq : q.Describes kind) :
    (p ++ group number q).Phrase fun pieces kept => ∃ before last inner, pieces = before ++ [last] ∧
      kept = (number, last) :: inner ∧ kind last ∧ reads before inner where
  of_fits h := by
    obtain ⟨_, last, inner, rfl, hlast, rfl, hfits⟩ := hq.fits_append_group.mp h
    obtain ⟨hfront, t, gap, pieces, rfl, hspells, hgap, hreads⟩ := hp.of_fits hfits
    exact ⟨hfront, _, [], _, by simp, hspells.more hgap last, by simp, pieces, last, inner, rfl,
      rfl, hlast, hreads⟩

theorem ws (hp : p.Phrase reads) : (p ++ ws).Phrase reads where
  of_fits h := by
    obtain ⟨_, gap', rfl, hgap', hfits⟩ := describes_ws.fits_append.mp h
    obtain ⟨hfront, t, gap, pieces, rfl, hspells, hgap, hreads⟩ := hp.of_fits hfits
    exact ⟨hfront, t, gap ++ gap', pieces, by simp, hspells,
      List.forall_mem_append.mpr ⟨hgap, hgap'⟩, hreads⟩

theorem spaced (hp : p.Phrase reads) (s : String) :
    (p ++ spaced s).Phrase fun pieces kept => ∃ before, pieces = before ++ [s.toList] ∧
      reads before kept where
  of_fits h := by
    obtain ⟨_, before, behind, rfl, hbefore, hbehind, hfits⟩ := (fits_append_spaced s).mp h
    obtain ⟨hfront, t, gap, pieces, rfl, hspells, hgap, hreads⟩ := hp.of_fits hfits
    exact ⟨hfront, _, behind, _, by simp,
      hspells.more (List.forall_mem_append.mpr ⟨hgap, hbefore⟩) s.toList, hbehind, pieces, rfl,
      hreads⟩

theorem spaced_word (hp : p.Phrase reads) (s : String) (number : Nat) :
    (p ++ Pattern.spaced s ++ Pattern.group number word).Phrase fun pieces kept =>
      ∃ before last inner, pieces = before ++ [s.toList, last] ∧ kept = (number, last) :: inner ∧
        Text.IsWord last ∧ reads before inner where
  of_fits h := by
    obtain ⟨hfront, t, gap, _, htext, hspells, hgap, _, last, inner, rfl, hkept, hlast, before, rfl,
      hreads⟩ := ((hp.spaced s).group number describes_word).of_fits h
    exact ⟨hfront, t, gap, _, htext, hspells, hgap, before, last, inner, by simp, hkept, hlast,
      hreads⟩

theorem edge (hp : p.Phrase reads) : (p ++ edge).Phrase reads where
  of_fits h := hp.of_fits (fits_append_edge.mp h).1

end Phrase

end Pattern
end Asymptote
