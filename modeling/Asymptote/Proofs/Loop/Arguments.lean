import Asymptote.Loop.Basic
import Asymptote.Proofs.Snippet.Bracket
import Asymptote.Proofs.Text.Parts
import Asymptote.Proofs.Text.Trim

/-! # Lists of arguments
Arguments are joined by commas, with white space around each of them, and cut apart again. A cut is
made at a comma where no bracket is open, so what was joined comes back if each argument closes the
brackets it opens and has its own commas in brackets. Nothing comes back for a blank last piece. -/
namespace Asymptote.Loop
open Snippet

variable {depth : Int} {piece read rest argument : Text}

/-- An argument as it may stand in a list: without white space around it, with as many brackets
closed as opened, and with commas only where the two counts differ, that is, in brackets. -/
structure IsArgument (argument : Text) : Prop where
  trimmed : Text.trim argument = argument
  balanced : closers argument = openers argument
  commas : ∀ front, front ++ [','] <+: argument → closers front ≠ openers front

instance (argument : Text) : Decidable (IsArgument argument) :=
  decidable_of_iff
    (Text.trim argument = argument ∧ closers argument = openers argument ∧
      ∀ front ∈ argument.inits, front ++ [','] <+: argument → closers front ≠ openers front)
    ⟨fun h => ⟨h.1, h.2.1, fun front hfront =>
        h.2.2 front ((List.mem_inits ..).mpr ((List.prefix_append ..).trans hfront)) hfront⟩,
      fun h => ⟨h.trimmed, h.balanced, fun front _ => h.commas front⟩⟩

def Pads (piece argument : Text) : Prop :=
  ∃ lead trail, piece = lead ++ (argument ++ trail) ∧ (∀ c ∈ lead, Text.isBlank c = true) ∧
    ∀ c ∈ trail, Text.isBlank c = true

/-! ## Between two cuts -/

/-- No comma in the text is reached with no bracket open, if `depth` are open in front of it. -/
def Uncut (depth : Int) (t : Text) : Prop :=
  ∀ front, front ++ [','] <+: t → depth + openers front ≠ closers front

theorem splitArgumentsFrom_cons {c : Char} (hc : c = ',' → depth ≠ 0) :
    splitArgumentsFrom depth piece (c :: rest) =
      splitArgumentsFrom (depth + openers [c] - closers [c]) (c :: piece) rest := by
  have hopener : isOpener c = true ↔ c = '(' ∨ c = '[' ∨ c = '\x7b' := by
    simp [isOpener, or_assoc]
  have hcloser : isCloser c = true ↔ c = ')' ∨ c = ']' ∨ c = '\x7d' := by
    simp [isCloser, or_assoc]
  simp only [splitArgumentsFrom, ← hopener, ← hcloser, openers_cons, closers_cons]
  split_ifs with hopen hclose hclose hcomma
  · rw [isCloser_eq_false_of_isOpener hopen] at hclose
    cases hclose
  · simp
  · simp
  · exact absurd hcomma.2 (hc hcomma.1)
  · simp

theorem Uncut.tail {c : Char} {t : Text} (h : Uncut depth (c :: t)) :
    Uncut (depth + openers [c] - closers [c]) t := by
  intro front hfront
  have hcons := h (c :: front) (List.cons_prefix_cons.mpr ⟨rfl, hfront⟩)
  rw [← List.singleton_append, openers_append, closers_append] at hcons
  omega

theorem splitArgumentsFrom_append (h : Uncut depth read) :
    splitArgumentsFrom depth piece (read ++ rest) =
      splitArgumentsFrom (depth + openers read - closers read) (read.reverse ++ piece) rest := by
  induction read generalizing depth piece with
  | nil => simp
  | cons c read ih =>
    have hc : c = ',' → depth ≠ 0 := by
      rintro rfl
      simpa using h [] (by simp)
    have hopeners := openers_append [c] read
    have hclosers := closers_append [c] read
    rw [List.singleton_append] at hopeners hclosers
    rw [List.cons_append, splitArgumentsFrom_cons hc, ih h.tail, hopeners, hclosers,
      List.reverse_cons, List.append_assoc, List.singleton_append]
    congr 1
    omega

theorem uncut_of_blank {t : Text} (h : ∀ c ∈ t, Text.isBlank c = true) : Uncut depth t := by
  intro front hfront
  have hcomma := h ',' (hfront.subset (by simp))
  exact absurd hcomma (by decide)

theorem IsArgument.uncut (h : IsArgument argument) : Uncut 0 argument := by
  intro front hfront
  have hcomma := h.commas front hfront
  omega

theorem splitArgumentsFrom_even (h : Uncut 0 read) (heven : closers read = openers read) :
    splitArgumentsFrom 0 piece (read ++ rest) =
      splitArgumentsFrom 0 (read.reverse ++ piece) rest := by
  rw [splitArgumentsFrom_append h, heven, Int.zero_add, Int.sub_self]

theorem splitArgumentsFrom_piece (hpads : Pads piece argument) (hargument : IsArgument argument)
    (rest : Text) :
    splitArgumentsFrom 0 [] (piece ++ rest) = splitArgumentsFrom 0 piece.reverse rest := by
  have hblank {pad : Text} (hpad : ∀ c ∈ pad, Text.isBlank c = true) :
      closers pad = openers pad := by
    rw [openers_of_blank hpad, closers_of_blank hpad]
  obtain ⟨lead, trail, rfl, hlead, htrail⟩ := hpads
  rw [List.append_assoc, List.append_assoc,
    splitArgumentsFrom_even (uncut_of_blank hlead) (hblank hlead),
    splitArgumentsFrom_even hargument.uncut hargument.balanced,
    splitArgumentsFrom_even (uncut_of_blank htrail) (hblank htrail)]
  simp

theorem Pads.trim_eq (hpads : Pads piece argument) (hargument : IsArgument argument) :
    Text.trim piece = argument := by
  obtain ⟨lead, trail, rfl, hlead, htrail⟩ := hpads
  rw [Text.trim_pad hlead htrail, hargument.trimmed]

/-! ## Joined arguments -/

theorem splitArgumentsFrom_comma :
    splitArgumentsFrom 0 piece (',' :: rest) =
      Text.trim piece.reverse :: splitArgumentsFrom 0 [] rest := by
  simp [splitArgumentsFrom]

theorem splitArgumentsFrom_nil (h : Text.trim piece.reverse ≠ []) :
    splitArgumentsFrom 0 piece [] = [Text.trim piece.reverse] := by
  have hblank : ¬ Text.isAllBlank piece := by
    intro hblank
    have hstart : Text.trimStart piece.reverse = [] := by
      rw [Text.trimStart_eq_nil_iff, Text.isAllBlank, List.all_reverse]
      exact hblank
    rw [Text.trim, hstart] at h
    exact h rfl
  rw [splitArgumentsFrom, if_neg hblank]

/-- Arguments that are joined by commas, with any white space around them, are cut apart again. -/
theorem splitArguments_join {pieces arguments : List Text}
    (hpieces : List.Forall₂ Pads pieces arguments)
    (harguments : ∀ argument ∈ arguments, IsArgument argument)
    (hlast : arguments.getLast? ≠ some []) :
    splitArguments (Text.join ',' pieces) = arguments := by
  rw [splitArguments]
  induction hpieces with
  | nil => rfl
  | @cons piece argument pieces arguments hpads hpieces ih =>
    obtain ⟨hargument, harguments⟩ := List.forall_mem_cons.mp harguments
    have htrim := hpads.trim_eq hargument
    cases hpieces with
    | nil =>
      have hne : argument ≠ [] := by
        rintro rfl
        exact hlast rfl
      have hpiece := splitArgumentsFrom_piece hpads hargument []
      rw [List.append_nil] at hpiece
      rw [Text.join, List.intercalate_singleton, hpiece, splitArgumentsFrom_nil,
        List.reverse_reverse, htrim]
      rwa [List.reverse_reverse, htrim]
    | cons hpads' hpieces =>
      rw [Text.join_cons_cons, splitArgumentsFrom_piece hpads hargument, splitArgumentsFrom_comma,
        List.reverse_reverse, htrim, ih harguments (by simpa using hlast)]

def nestedArguments : List Text :=
  ["f(a, b)", "", "[x, \x7by: (1, z)\x7d]"].map String.toList

def paddedArguments : List Text :=
  [" f(a, b)\t", "", "\u00a0[x, \x7by: (1, z)\x7d]"].map String.toList

theorem splitArguments_join_nested :
    List.Forall₂ Pads paddedArguments nestedArguments ∧
      (∀ argument ∈ nestedArguments, IsArgument argument) ∧
      nestedArguments.getLast? ≠ some [] ∧
      splitArguments (Text.join ',' paddedArguments) = nestedArguments := by
  have hspace : Text.isBlank ' ' = true := by decide
  have htab : Text.isBlank '\t' = true := by decide
  have hfixed : Text.isBlank '\u00a0' = true := by decide
  have hpads : List.Forall₂ Pads paddedArguments nestedArguments :=
    .cons ⟨[' '], ['\t'], rfl, by simp [hspace], by simp [htab]⟩
      (.cons ⟨[], [], rfl, by simp, by simp⟩
        (.cons ⟨['\u00a0'], [], rfl, by simp [hfixed], by simp⟩ .nil))
  have harguments : ∀ argument ∈ nestedArguments, IsArgument argument := by
    decide
  have hlast : nestedArguments.getLast? ≠ some [] := by
    decide
  exact ⟨hpads, harguments, hlast, splitArguments_join hpads harguments hlast⟩

end Asymptote.Loop
