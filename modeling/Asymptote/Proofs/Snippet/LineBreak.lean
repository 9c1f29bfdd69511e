import Asymptote.Proofs.Snippet.Pass
import Asymptote.Proofs.Text.Parts

/-! # Line breaks
The scrubbed text has the lines of the code, each scrubbed in the mode that the lines before it
leave, unless a literal escapes a line break: a backslash takes the break with it. -/
namespace Asymptote

namespace Snippet

variable (l : Language)

def Pass.losesBreak : Pass → Char → Text → Bool
  | ⟨.literal _, 0⟩, '\\', '\n' :: _ => true
  | _, _, _ => false

def lostBreaks : Pass → Text → Nat
  | _, [] => 0
  | p, c :: rest => (p.losesBreak c rest).toNat + lostBreaks (p.next l c rest) rest

def EscapesFrom (p : Pass) (t : Text) : Prop :=
  ∃ past rest quote, t = past ++ '\\' :: '\n' :: rest ∧
    p.after l past ('\\' :: '\n' :: rest) = ⟨.literal quote, 0⟩

def EscapesBreak (code : Text) : Prop :=
  EscapesFrom l {} code

/-- Each line scrubbed on its own, in the mode that the lines before it leave. -/
def scrubLines : Mode → List Text → List Text
  | _, [] => []
  | mode, line :: others =>
    Pass.scrub l ⟨mode, 0⟩ line ::
      scrubLines (Pass.after l ⟨mode, 0⟩ line []).mode.afterBreak others

variable {l}

/-! ## Counting breaks -/

theorem Pass.losesBreak_iff {p : Pass} {c : Char} {rest : Text} :
    p.losesBreak c rest = true ↔
      ∃ quote tail, p = ⟨.literal quote, 0⟩ ∧ c = '\\' ∧ rest = '\n' :: tail := by
  unfold losesBreak
  split
  · simp
  · simp_all

/-- A text that begins with a mark does not begin with a line break, nor does it drop one with the
rest of the mark, if there is none in the mark. -/
theorem count_take_of_startsWith {c d : Char} {rest : Text} (mark : Text) (hmark : '\n' ∉ d :: mark)
    (h : Text.startsWith (c :: rest) (d :: mark) = true) :
    c ≠ '\n' ∧ (rest.take mark.length).count '\n' = 0 := by
  rw [Text.cons_startsWith_cons, Bool.and_eq_true, beq_iff_eq] at h
  obtain ⟨rfl, hrest⟩ := h
  obtain ⟨behind, rfl⟩ := List.isPrefixOf_iff_prefix.mp hrest
  obtain ⟨hd, hmark⟩ := not_or.mp (mt List.mem_cons.mpr hmark)
  rw [List.take_left]
  exact ⟨Ne.symm hd, List.count_eq_zero.mpr hmark⟩

theorem count_keepBreak (c : Char) : (keepBreak c).count '\n' = [c].count '\n' := by
  by_cases hc : c = '\n' <;> simp [keepBreak, hc]

theorem breaks_step {mode : Mode} (hmode : mode.Proper) (c : Char) (rest : Text) :
    (step l mode c rest).output.count '\n' = [c].count '\n' ∧
      (rest.take (step l mode c rest).dropped).count '\n' =
        (Pass.losesBreak ⟨mode, 0⟩ c rest).toNat := by
  cases mode with
  | code =>
    rw [step]
    rcases codeStep_cases l c rest with
      ⟨rfl, hrest, h⟩ | ⟨hc, h⟩ | ⟨hc, hrest, h⟩ | ⟨_, h⟩ | ⟨_, h⟩
    · simp [h, hrest, Pass.losesBreak]
    · rcases hc with rfl | rfl <;> simp [h, Pass.losesBreak]
    · rcases hc with rfl | rfl <;> simp [h, hrest, Pass.losesBreak]
    · simp [h, Pass.losesBreak]
    · simp [h, Pass.losesBreak]
  | blockComment =>
    rw [step]
    split
    next hcloses =>
      obtain ⟨hc, htake⟩ := count_take_of_startsWith ['/'] (by decide) hcloses
      simpa [hc, Pass.losesBreak] using htake
    next => simp [count_keepBreak, Pass.losesBreak]
  | lineComment => by_cases hc : c = '\n' <;> simp [step, hc, Pass.losesBreak]
  | docstring quote =>
    rw [step]
    split
    next hcloses =>
      have hquotes : '\n' ∉ [quote, quote, quote] := by
        rcases hmode with rfl | rfl <;> decide
      obtain ⟨hc, htake⟩ := count_take_of_startsWith [quote, quote] hquotes hcloses
      simpa [hc, Pass.losesBreak] using htake
    next => simp [count_keepBreak, Pass.losesBreak]
  | literal quote =>
    by_cases hescape : c = '\\'
    · subst hescape
      cases rest with
      | nil => simp [step, Pass.losesBreak]
      | cons d rest =>
        by_cases hd : d = '\n' <;> simp [step, hd, Pass.losesBreak]
    · have hkeeps : Pass.losesBreak ⟨.literal quote, 0⟩ c rest = false := by
        simp [Pass.losesBreak, hescape]
      rw [hkeeps]
      by_cases hquote : c = quote
      · subst hquote
        simp [step, hescape]
      · by_cases hc : c = '\n'
        · subst hc
          simp [step, hquote]
        · simp [step, hescape, hquote, hc]

theorem count_scrub {p : Pass} (hp : p.mode.Proper) (t : Text) :
    (p.scrub l t).count '\n' + lostBreaks l p t + (t.take p.pending).count '\n' =
      t.count '\n' := by
  -- Breaks among the pending characters count with the step that dropped them.
  induction t generalizing p with
  | nil => simp [Pass.scrub, scrubFrom, lostBreaks]
  | cons c rest ih =>
    have hrest := ih (Pass.proper_next (l := l) hp c rest)
    rw [Pass.scrub_cons, List.count_append, lostBreaks]
    obtain ⟨mode, n⟩ := p
    cases n with
    | zero =>
      obtain ⟨houtput, hdropped⟩ := @breaks_step l mode hp c rest
      simp only [Pass.next, Pass.emit] at hrest ⊢
      calc
        _ = [c].count '\n' + rest.count '\n' := by
          rw [houtput, ← hrest, hdropped, List.take_zero, List.count_nil]
          omega
        _ = (c :: rest).count '\n' := by rw [← List.count_append, List.singleton_append]
    | succ n =>
      simp only [Pass.next, Pass.emit] at hrest ⊢
      rw [List.take_succ_cons, List.count_cons, List.count_cons, ← hrest]
      simp [Pass.losesBreak]
      omega

theorem lostBreaks_eq_zero_iff {p : Pass} {t : Text} :
    lostBreaks l p t = 0 ↔ ¬ EscapesFrom l p t := by
  induction t generalizing p with
  | nil => simp [lostBreaks, EscapesFrom]
  | cons c rest ih =>
    have hescapes : EscapesFrom l p (c :: rest) ↔
        p.losesBreak c rest = true ∨ EscapesFrom l (p.next l c rest) rest := by
      rw [Pass.losesBreak_iff]
      constructor
      · rintro ⟨past, tail, quote, ht, hafter⟩
        cases past with
        | nil =>
          cases ht
          exact .inl ⟨quote, tail, hafter, rfl, rfl⟩
        | cons d past =>
          cases ht
          exact .inr ⟨past, tail, quote, rfl, hafter⟩
      · rintro (⟨quote, tail, rfl, rfl, rfl⟩ | ⟨past, tail, quote, rfl, hafter⟩)
        · exact ⟨[], tail, quote, rfl, rfl⟩
        · exact ⟨c :: past, tail, quote, rfl, hafter⟩
    rw [lostBreaks, Nat.add_eq_zero_iff, ih, hescapes]
    simp

/-! ## Line by line -/

theorem EscapesFrom.append {p : Pass} {first second : Text}
    (h : EscapesFrom l (p.after l first second) second) : EscapesFrom l p (first ++ second) := by
  obtain ⟨past, rest, quote, rfl, hafter⟩ := h
  refine ⟨first ++ past, rest, quote, (List.append_assoc ..).symm, ?_⟩
  rw [Pass.after_append, hafter]

theorem lookAlike_break (rest : Text) : LookAlike ('\n' :: rest) [] := by
  intro mark hmark c past
  simp only [marks, List.map, String.reduceToList, List.mem_cons, List.not_mem_nil,
    or_false] at hmark
  match past with
  | [] => rcases hmark with rfl | rfl | rfl | rfl | rfl | rfl | rfl <;> simp
  | [d] => rcases hmark with rfl | rfl | rfl | rfl | rfl | rfl | rfl <;> simp
  | d :: e :: past => rcases hmark with rfl | rfl | rfl | rfl | rfl | rfl | rfl <;> simp

namespace Pass

theorem proper_after {p : Pass} (hp : p.mode.Proper) (past ahead : Text) :
    (p.after l past ahead).mode.Proper := by
  induction past generalizing p with
  | nil => exact hp
  | cons c past ih => exact ih (proper_next (l := l) hp c _)

theorem pending_after_eq_zero {p : Pass} (hp : p.mode.Proper) {past rest : Text}
    (hpending : '\n' ∉ (past ++ '\n' :: rest).take p.pending)
    (h : ¬ EscapesFrom l p (past ++ '\n' :: rest)) :
    (p.after l past ('\n' :: rest)).pending = 0 := by
  induction past generalizing p with
  | nil =>
    cases hn : p.pending with
    | zero => exact hn
    | succ n => simp [hn] at hpending
  | cons c past ih =>
    apply ih (proper_next (l := l) hp c _)
    · obtain ⟨mode, n⟩ := p
      cases n with
      | zero =>
        have hlost := lostBreaks_eq_zero_iff.mpr h
        have hloses : losesBreak ⟨mode, 0⟩ c (past ++ '\n' :: rest) = false := by
          simpa [lostBreaks] using (Nat.add_eq_zero_iff.mp hlost).1
        have hdropped := (@breaks_step l mode hp c (past ++ '\n' :: rest)).2
        rw [hloses] at hdropped
        exact List.count_eq_zero.mp hdropped
      | succ n => exact (not_or.mp (mt List.mem_cons.mpr hpending)).2
    · intro hnext
      exact h (@EscapesFrom.append l p [c] _ hnext)

theorem emitted_nil (p : Pass) (t : Text) : p.emitted l t [] = p.scrub l t := by
  have happend := p.scrub_append l t []
  simpa [scrub, scrubFrom] using happend.symm

theorem next_break {mode : Mode} (hmode : mode.Proper) (rest : Text) :
    Pass.next l ⟨mode, 0⟩ '\n' rest = ⟨mode.afterBreak, 0⟩ := by
  rw [next, step_break l hmode]

theorem scrub_break {mode : Mode} (hmode : mode.Proper) (rest : Text) :
    Pass.scrub l ⟨mode, 0⟩ ('\n' :: rest) = '\n' :: Pass.scrub l ⟨mode.afterBreak, 0⟩ rest := by
  rw [scrub_cons, next_break hmode, emit, step_break l hmode, List.singleton_append]

end Pass

theorem Mode.Proper.afterBreak {mode : Mode} (hmode : mode.Proper) : mode.afterBreak.Proper := by
  cases mode with
  | code | blockComment | lineComment => trivial
  | docstring quote => exact hmode
  | literal quote =>
    rw [Mode.afterBreak]
    split <;> trivial

/-- A text in front of a line break is scrubbed like a text of its own, and the text behind it in
the mode that it leaves. -/
theorem scrub_append_break {mode : Mode} (hmode : mode.Proper) {past rest : Text}
    (h : ¬ EscapesFrom l ⟨mode, 0⟩ (past ++ '\n' :: rest)) :
    let behind := (Pass.after l ⟨mode, 0⟩ past []).mode.afterBreak
    Pass.scrub l ⟨mode, 0⟩ (past ++ '\n' :: rest) =
      Pass.scrub l ⟨mode, 0⟩ past ++ '\n' :: Pass.scrub l ⟨behind, 0⟩ rest ∧
      behind.Proper ∧ ¬ EscapesFrom l ⟨behind, 0⟩ rest := by
  intro behind
  obtain ⟨hafter, hemitted⟩ :=
    @Pass.congr_lookAlike l _ _ (lookAlike_break rest) ⟨mode, 0⟩ hmode past
  have hpending : (Pass.after l ⟨mode, 0⟩ past ('\n' :: rest)).pending = 0 :=
    @Pass.pending_after_eq_zero l ⟨mode, 0⟩ hmode past rest (by simp) h
  have hbreak : Pass.after l ⟨mode, 0⟩ past ('\n' :: rest) =
      ⟨(Pass.after l ⟨mode, 0⟩ past []).mode, 0⟩ := by
    rw [← hafter]
    exact congrArg (Pass.mk _) hpending
  have hproper := @Pass.proper_after l ⟨mode, 0⟩ hmode past []
  refine ⟨?_, hproper.afterBreak, ?_⟩
  · rw [Pass.scrub_append, hemitted, Pass.emitted_nil, hbreak, Pass.scrub_break hproper]
  · intro hrest
    apply h
    apply EscapesFrom.append
    rw [hbreak]
    apply @EscapesFrom.append l _ ['\n'] rest
    rwa [Pass.after, Pass.after, List.nil_append, Pass.next_break hproper]

theorem pieces_scrub {mode : Mode} (hmode : mode.Proper) {t : Text}
    (h : ¬ EscapesFrom l ⟨mode, 0⟩ t) :
    Text.pieces '\n' (Pass.scrub l ⟨mode, 0⟩ t) = scrubLines l mode (Text.pieces '\n' t) := by
  induction hn : t.length using Nat.strongRecOn generalizing mode t with
  | _ n ih =>
  have hclean (line : Text) (hline : '\n' ∉ line) : '\n' ∉ Pass.scrub l ⟨mode, 0⟩ line := by
    have hcount := @count_scrub l ⟨mode, 0⟩ hmode line
    rw [List.count_eq_zero.mpr hline] at hcount
    exact List.count_eq_zero.mp (by omega)
  by_cases hbreak : '\n' ∈ t
  · obtain ⟨line, rest, rfl, hline⟩ := List.eq_append_cons_of_mem hbreak
    obtain ⟨hscrub, hbehind, hrest⟩ := scrub_append_break hmode h
    have hshorter : rest.length < n := by
      rw [← hn]
      simp
      omega
    rw [hscrub, Text.pieces_append, Text.pieces_append, Text.pieces_of_notMem hline,
      Text.pieces_of_notMem (hclean line hline), ih rest.length hshorter hbehind hrest rfl]
    rfl
  · rw [Text.pieces_of_notMem hbreak, Text.pieces_of_notMem (hclean t hbreak)]
    rfl

theorem length_scrubLines (mode : Mode) (lines : List Text) :
    (scrubLines l mode lines).length = lines.length := by
  induction lines generalizing mode with
  | nil => rfl
  | cons line others ih => rw [scrubLines, List.length_cons, List.length_cons, ih]

theorem length_lines (l : Language) (code : Text) :
    (ofCode l code).lines.length = (ofCode l code).clean.count '\n' + 1 := by
  rw [← Text.length_pieces]
  exact Line.length_table _ _

/-- The breaks of the code are those of the scrubbed text and those that a literal escapes. Without
the latter, and only then, the line table has a line for each line of the code, scrubbed in its
place. -/
theorem lineBreaks_ofCode (l : Language) (code : Text) :
    let s := ofCode l code
    s.clean.count '\n' + lostBreaks s.language {} code = code.count '\n' ∧
      (s.clean.count '\n' = code.count '\n' ↔ ¬ EscapesBreak s.language code) ∧
      (s.lines.length = (Text.pieces '\n' code).length ↔ ¬ EscapesBreak s.language code) ∧
      (Text.pieces '\n' s.clean = scrubLines s.language .code (Text.pieces '\n' code) ↔
        ¬ EscapesBreak s.language code) := by
  intro s
  have hclean : s.clean = Pass.scrub s.language {} code := rfl
  have hcount : s.clean.count '\n' + lostBreaks s.language {} code = code.count '\n' := by
    simpa [hclean] using @count_scrub s.language {} trivial code
  have hlost : lostBreaks s.language {} code = 0 ↔ ¬ EscapesBreak s.language code :=
    lostBreaks_eq_zero_iff
  have hkeeps : s.clean.count '\n' = code.count '\n' ↔ ¬ EscapesBreak s.language code := by
    rw [← hlost]
    omega
  refine ⟨hcount, hkeeps, ?_, ?_⟩
  · rw [length_lines, Text.length_pieces, Nat.add_right_cancel_iff]
    exact hkeeps
  · constructor
    · intro hpieces
      have hlength := congrArg List.length hpieces
      rw [length_scrubLines, Text.length_pieces, Text.length_pieces] at hlength
      exact hkeeps.mp (Nat.add_right_cancel hlength)
    · intro hescapes
      exact @pieces_scrub s.language .code trivial code hescapes

theorem not_forall_count_breaks :
    ¬ ∀ (l : Language) (code : Text), (ofCode l code).clean.count '\n' = code.count '\n' := by
  intro h
  have hbreaks := h .python "s = \"a\\\nb\"\n".toList
  exact absurd hbreaks (by decide)

end Snippet
end Asymptote
