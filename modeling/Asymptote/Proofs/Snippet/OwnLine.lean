import Asymptote.Proofs.Snippet.LineBreak

/-! # Lines on their own
A comment or a literal goes on over a line break in four ways only: between backticks, behind a
backslash at the end of a line, in a block comment and in a docstring. In a text without these each
line is scrubbed as if it stood alone. -/
namespace Asymptote.Snippet

variable {l : Language} {t u : Text}

structure LineBound (l : Language) (t : Text) : Prop where
  backtick : '\x60' ∉ t
  escape : ¬ ['\\', '\n'] <:+: t
  blockComment : l.hasBlockComments = true → ¬ "/*".toList <:+: t
  docstring : l = .python → ¬ "\"\"\"".toList <:+: t ∧ ¬ "'''".toList <:+: t

theorem LineBound.of_infix (h : LineBound l t) (hpart : u <:+: t) : LineBound l u where
  backtick hmem := h.backtick (hpart.subset hmem)
  escape hoccurs := h.escape (hoccurs.trans hpart)
  blockComment hl hoccurs := h.blockComment hl (hoccurs.trans hpart)
  docstring hl := ⟨fun hoccurs => (h.docstring hl).1 (hoccurs.trans hpart),
    fun hoccurs => (h.docstring hl).2 (hoccurs.trans hpart)⟩

def Mode.EndsWithLine : Mode → Prop
  | .code | .lineComment => True
  | .literal quote => quote ≠ '\x60'
  | .blockComment | .docstring _ => False

theorem Mode.EndsWithLine.afterBreak {mode : Mode} (h : mode.EndsWithLine) :
    mode.afterBreak = .code := by
  cases mode with
  | code | lineComment => rfl
  | literal quote => exact if_neg h
  | blockComment | docstring quote => cases h

theorem endsWithLine_codeStep {c : Char} {rest : Text} (h : LineBound l (c :: rest)) :
    (codeStep l c rest).mode.EndsWithLine := by
  have hstart {mark : Text} (hnot : ¬ mark <:+: c :: rest) :
      Text.startsWith (c :: rest) mark = false := by
    rw [Text.startsWith, ← Bool.not_eq_true, List.isPrefixOf_iff_prefix]
    exact fun hstarts => hnot hstarts.isInfix
  have hblock : (l.hasBlockComments && Text.startsWith (c :: rest) "/*") = false := by
    cases hl : l.hasBlockComments with
    | false => rfl
    | true => exact hstart (h.blockComment hl)
  have hdocstring : opensDocstring l (c :: rest) = false := by
    rw [opensDocstring_eq]
    by_cases hl : l = .python
    · simp only [hstart (h.docstring hl).1, hstart (h.docstring hl).2, Bool.or_self, Bool.and_false]
    · simp [hl]
  rw [codeStep, hblock, hdocstring]
  simp only [Bool.false_eq_true, if_false]
  split_ifs with hline hopens
  · trivial
  · rintro rfl
    exact h.backtick List.mem_cons_self
  · trivial

theorem endsWithLine_step {mode : Mode} (hmode : mode.EndsWithLine) {c : Char} {rest : Text}
    (h : LineBound l (c :: rest)) : (step l mode c rest).mode.EndsWithLine := by
  cases mode with
  | code => exact endsWithLine_codeStep h
  | lineComment =>
    rw [step]
    split <;> trivial
  | literal quote =>
    rw [step]
    split_ifs
    · exact hmode
    · trivial
    · exact absurd ‹quote = '\x60'› hmode
    · trivial
    · exact hmode
  | blockComment | docstring quote => cases hmode

theorem endsWithLine_after {p : Pass} (hp : p.mode.EndsWithLine) (h : LineBound l t) :
    (p.after l t []).mode.EndsWithLine := by
  induction t generalizing p with
  | nil => exact hp
  | cons c rest ih =>
    rw [Pass.after, List.append_nil]
    refine ih ?_ (h.of_infix (List.suffix_cons c rest).isInfix)
    obtain ⟨mode, n⟩ := p
    cases n with
    | zero => exact endsWithLine_step hp h
    | succ n => exact hp

theorem scrubLines_eq_map {lines : List Text} (h : ∀ line ∈ lines, LineBound l line) :
    scrubLines l .code lines = lines.map (scrub l) := by
  induction lines with
  | nil => rfl
  | cons line others ih =>
    obtain ⟨hline, hothers⟩ := List.forall_mem_cons.mp h
    have hends : (Pass.after l ⟨.code, 0⟩ line []).mode.EndsWithLine :=
      endsWithLine_after trivial hline
    rw [scrubLines, hends.afterBreak, ih hothers]
    rfl

theorem LineBound.not_escapesBreak (h : LineBound l t) : ¬ EscapesBreak l t := by
  rintro ⟨past, rest, quote, rfl, -⟩
  exact h.escape ⟨past, rest, by simp⟩

theorem LineBound.pieces_scrub (h : LineBound l t) :
    Text.pieces '\n' (scrub l t) = (Text.pieces '\n' t).map (scrub l) := by
  have hlines := @Snippet.pieces_scrub l .code trivial t h.not_escapesBreak
  rw [scrubLines_eq_map fun line hline => h.of_infix (Text.infix_of_mem_pieces hline)] at hlines
  exact hlines

/-- A text in which nothing can go on over a line break is scrubbed line by line, so a line of the
scrubbed text depends on no other line of the text. -/
theorem scrub_eq_join_lines (h : LineBound l t) :
    scrub l t = Text.join '\n' ((Text.pieces '\n' t).map (scrub l)) ∧
    Text.pieces '\n' (scrub l t) = (Text.pieces '\n' t).map (scrub l) ∧
    ∀ (u : Text) (number : Nat), LineBound l u →
      (Text.pieces '\n' u)[number]? = (Text.pieces '\n' t)[number]? →
        (Text.pieces '\n' (scrub l u))[number]? = (Text.pieces '\n' (scrub l t))[number]? := by
  refine ⟨?_, h.pieces_scrub, fun u number hu hline => ?_⟩
  · rw [← h.pieces_scrub, Text.join_pieces]
  · rw [hu.pieces_scrub, h.pieces_scrub, List.getElem?_map, List.getElem?_map, hline]

theorem scrub_eq_join_lines_unclosed :
    let t := "s = \"it # isn't\nn = len(s)  # \"count\"\nx = 'a\\'b'".toList
    let u := "s = 'it'\nn = len(s)  # \"count\"".toList
    LineBound .python t ∧
      scrub .python t = Text.join '\n' ((Text.pieces '\n' t).map (scrub .python)) ∧
      scrub .python t = "s = \"\nn = len(s)  \nx = ''".toList ∧ LineBound .python u ∧
      (Text.pieces '\n' (scrub .python u))[1]? = (Text.pieces '\n' (scrub .python t))[1]? := by
  intro t u
  have ht : LineBound .python t :=
    ⟨by decide, by decide +kernel, by decide, by decide +kernel⟩
  have hu : LineBound .python u :=
    ⟨by decide, by decide +kernel, by decide, by decide +kernel⟩
  obtain ⟨hjoin, -, hlocal⟩ := scrub_eq_join_lines ht
  exact ⟨ht, hjoin, by decide, hu, hlocal u 1 hu (by decide)⟩

end Asymptote.Snippet
