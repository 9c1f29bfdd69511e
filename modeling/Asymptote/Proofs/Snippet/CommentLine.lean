import Asymptote.Proofs.Pattern.Search
import Asymptote.Proofs.Snippet.EmptyLine
import Asymptote.Proofs.Snippet.Hidden

/-! # Comment lines
A line of nothing but a comment becomes a blank line of the snippet, whatever the comment says. The
lines around it are scrubbed as if it were not there. -/
namespace Asymptote

open Text (BlankLine)

namespace Snippet

variable {l : Language}

/-- The second text has one line more, which is nothing but a line comment behind an indentation. It
stands behind a line break of the first at which code goes on: the break is in no literal and in no
block comment, but it may end a line comment. The text in front of the break is `past`. -/
inductive InsertsComment (l : Language) (indent : Text) : (past code commented : Text) → Prop
  | intro {past rest mark content : Text} (hreach : Reaches l (past ++ ['\n']) rest)
      (hindent : Text.IsIndent indent) (hmark : mark ∈ l.lineComments) (hline : '\n' ∉ content) :
      InsertsComment l indent past (past ++ '\n' :: rest)
        (past ++ '\n' :: (indent ++ (mark ++ (content ++ '\n' :: rest))))

/-! ### In front of a line break -/

namespace Pass

theorem literal_of_drops_break {p : Pass} (hp : p.mode.Proper) {past ahead : Text}
    (hsound : '\n' ∈ (past ++ ahead).take p.pending → ∃ quote, p.mode = .literal quote)
    (hdrops : '\n' ∈ ahead.take (p.after l past ahead).pending) :
    ∃ quote, (p.after l past ahead).mode = .literal quote := by
  induction past generalizing p with
  | nil => exact hsound hdrops
  | cons c past ih =>
    refine ih (proper_next (l := l) hp c _) ?_ hdrops
    obtain ⟨mode, n⟩ := p
    cases n with
    | zero =>
      intro hmem
      have hdropped := (@breaks_step l mode hp c (past ++ ahead)).2
      have hpositive := List.count_pos_iff.mpr hmem
      simp only [next] at hpositive
      have hloses : losesBreak ⟨mode, 0⟩ c (past ++ ahead) = true := by
        cases h : losesBreak ⟨mode, 0⟩ c (past ++ ahead) with
        | true => rfl
        | false =>
          rw [hdropped, h] at hpositive
          exact absurd hpositive (by decide)
      obtain ⟨quote, tail, hmode, rfl, htail⟩ := losesBreak_iff.mp hloses
      cases hmode
      exact ⟨quote, rfl⟩
    | succ n => exact fun hmem => hsound (List.mem_cons_of_mem _ hmem)

theorem sees_break {past rest : Text} (h : Reaches l (past ++ ['\n']) rest) :
    ∃ mode : Mode, mode.Proper ∧ mode.afterBreak = .code ∧
      ∀ ahead, Pass.after l {} past ('\n' :: ahead) = ⟨mode, 0⟩ := by
  have hsame (ahead : Text) : Pass.after l {} past ('\n' :: ahead) = Pass.after l {} past [] :=
    (@congr_lookAlike l _ _ (lookAlike_break ahead) {} trivial past).1
  have hproper : (Pass.after l {} past []).mode.Proper := @proper_after l {} trivial past []
  have hbehind : (Pass.after l {} past []).next l '\n' rest = {} := by
    rw [← hsame rest]
    simpa [Reaches, after_append, after] using h
  have hliteral := @literal_of_drops_break l {} trivial past ('\n' :: rest) (by simp)
  rw [hsame rest] at hliteral
  generalize Pass.after l {} past [] = p at hsame hproper hbehind hliteral
  obtain ⟨mode, n⟩ := p
  cases n with
  | zero =>
    rw [next_break hproper] at hbehind
    exact ⟨mode, hproper, congrArg Pass.mode hbehind, hsame⟩
  | succ n =>
    obtain ⟨quote, hquote⟩ := hliteral (by simp)
    have hcode : mode = .code := congrArg Pass.mode hbehind
    rw [hcode] at hquote
    cases hquote

end Pass

/-- A text behind a line break of code is scrubbed like a text of its own, and the text in front of
it does not depend on it. -/
theorem scrub_behind_break {past rest : Text} (h : Reaches l (past ++ ['\n']) rest) (ahead : Text) :
    scrub l (past ++ '\n' :: ahead) = scrub l past ++ '\n' :: scrub l ahead := by
  obtain ⟨mode, hproper, hcode, hafter⟩ := Pass.sees_break h
  have hemitted := (@Pass.congr_lookAlike l _ _ (lookAlike_break ahead) {} trivial past).2
  have happend := Pass.scrub_append l {} past ('\n' :: ahead)
  rw [hafter, hemitted, Pass.emitted_nil, Pass.scrub_break hproper, hcode] at happend
  exact happend

theorem scrub_indent {indent : Text} (h : Text.IsIndent indent) (t : Text) :
    scrub l (indent ++ t) = indent ++ scrub l t := by
  induction indent with
  | nil => rfl
  | cons c indent ih =>
    obtain ⟨hc, hindent⟩ := List.forall_mem_cons.mp h
    have hstep : codeStep l c (indent ++ t) = ⟨[c], .code, 0⟩ := by
      rcases codeStep_cases l c (indent ++ t) with
        ⟨hmark, -⟩ | ⟨hmark, -⟩ | ⟨hquote, -⟩ | ⟨hopens, -⟩ | ⟨-, h⟩
      · simp [hmark] at hc
      · rcases hmark with rfl | rfl <;> simp at hc
      · rcases hquote with rfl | rfl <;> simp at hc
      · rcases opensLiteral_cases hopens with rfl | rfl | rfl <;> simp at hc
      · exact h
    rw [List.cons_append, scrub, scrubFrom, step, hstep]
    exact congrArg (c :: ·) (ih hindent)

theorem scrub_insertsComment {indent past code commented : Text}
    (h : InsertsComment l indent past code commented) :
    ∃ back, scrub l code = scrub l past ++ '\n' :: back ∧
      scrub l commented = scrub l past ++ '\n' :: (indent ++ '\n' :: back) := by
  cases h with
  | @intro rest mark content hreach hindent hmark hline =>
    refine ⟨scrub l rest, scrub_behind_break hreach rest, ?_⟩
    have hhides : Hides l mark [] [] content ('\n' :: rest) := .lineComment hmark hline (by simp)
    have hcomment : scrub l (mark ++ (content ++ '\n' :: rest)) = '\n' :: scrub l rest :=
      (scrubFrom_hides hhides).trans (@Pass.scrub_break l .code trivial rest)
    rw [scrub_behind_break hreach, scrub_indent hindent, hcomment]

end Snippet

/-! ## Snippets around an added blank line
A comment line leaves a text in which there is one blank line more, and so a snippet with one empty
line more. The patterns found in it, its names, its functions and their calls are the same, at their
new places. -/

namespace Text

theorem startsWith_append_break {part : Text} (hpart : '\n' ∉ part) (front back : Text) :
    startsWith (front ++ '\n' :: back) part = startsWith front part := by
  induction part generalizing front with
  | nil => rw [startsWith_nil, startsWith_nil]
  | cons d part ih =>
    have hd : d ≠ '\n' := (List.ne_of_not_mem_cons hpart).symm
    have hothers := List.not_mem_of_not_mem_cons hpart
    cases front with
    | nil =>
      rw [List.nil_append, cons_startsWith_cons, nil_startsWith_cons, beq_eq_false_iff_ne.mpr hd]
      rfl
    | cons c front =>
      rw [List.cons_append, cons_startsWith_cons, cons_startsWith_cons, ih hothers]

theorem contains_interlined {indented : Bool} {w part : Text} (hw : BlankLine indented w)
    (hpart : '\n' ∉ part) (hsome : ¬ IsIndent part) (front back : Text) :
    contains (front ++ '\n' :: (w ++ back)) part = contains (front ++ '\n' :: back) part := by
  obtain ⟨indent, rfl, hindent⟩ := hw.exists_eq_append
  have hnot : ¬ part <:+: indent := fun h => hsome fun c hc => hindent c (h.mem hc)
  rw [Bool.eq_iff_iff, contains_iff, contains_iff, List.append_assoc, List.singleton_append,
    infix_append_cons_iff hpart, infix_append_cons_iff hpart, infix_append_cons_iff hpart]
  simp [hnot]

end Text

namespace Snippet

/-- The second snippet is that of the text with a blank line added, in front of line `k`. -/
structure Interlined (k : Nat) (s s' : Snippet) : Prop extends Widened k s s' where
  clean : ∃ w front back, BlankLine true w ∧ s.clean = front ++ '\n' :: back ∧
    s'.clean = front ++ '\n' :: (w ++ back)
  identifiers : s'.identifiers = s.identifiers

theorem identifiersOf_interlined {w : Text} (hw : BlankLine true w) (front back : Text) :
    identifiersOf (front ++ '\n' :: (w ++ back)) = identifiersOf (front ++ '\n' :: back) := by
  have hkeeps : Pattern.identifier.Keeps true := Pattern.keeps_of_isSafe rfl
  rw [identifiersOf, identifiersOf, hkeeps.map_eq hw]
  intro m m' htakes hsame
  obtain htext | ⟨hbreak, -⟩ := hsame.text
  · rw [htext]
  · exact absurd hbreak (htakes.2 rfl)

theorem interlined_ofCode {l : Language} (hl : l ≠ .unknown) {indent past code commented : Text}
    (h : InsertsComment l indent past code commented) :
    Interlined (ofCode l past).lines.length (ofCode l code) (ofCode l commented) := by
  obtain ⟨back, hcode, hcommented⟩ := scrub_insertsComment h
  have hw : BlankLine true (indent ++ ['\n']) := by
    cases h with
    | intro _ hindent => exact hindent.blankLine
  have hwidens := Line.widens_ofText hw (scrub l past) back
  have hlength : (ofCode l past).lines.length = (scrub l past).count '\n' + 1 := by
    rw [ofCode, if_neg hl, Line.ofText, Line.length_table, Text.length_pieces]
  have hadded : indent ++ '\n' :: back = indent ++ ['\n'] ++ back := by simp
  rw [hlength]
  simp only [ofCode, if_neg hl, hcode, hcommented, hadded]
  exact
    { language := rfl
      lines := hwidens
      functions := functionsOf_widens l hwidens
      clean := ⟨_, scrub l past, back, hw, rfl, rfl⟩
      identifiers := identifiersOf_interlined hw (scrub l past) back }

namespace Interlined

variable {k : Nat} {s s' : Snippet} (h : Interlined k s s')
include h

/-! ### What the text shows -/

theorem isEmpty_eq : s'.isEmpty = s.isEmpty := by
  obtain ⟨w, front, back, hw, hclean, hclean'⟩ := h.clean
  have hblank : w.all Text.isBlank = true := List.all_eq_true.mpr hw.isBlank_of_mem
  simp only [isEmpty, Text.isAllBlank, hclean, hclean', List.all_append, List.all_cons, hblank,
    Bool.true_and]

theorem elem_eq {c : Char} (hc : Text.isBlank c = false) :
    s'.clean.elem c = s.clean.elem c := by
  obtain ⟨w, front, back, hw, hclean, hclean'⟩ := h.clean
  have hnot : c ∉ w := fun hmem => by simp [hw.isBlank_of_mem c hmem] at hc
  simp [hclean, hclean', hnot]

theorem contains_eq {part : Text} (hpart : '\n' ∉ part) (hsome : ¬ Text.IsIndent part) :
    Text.contains s'.clean part = Text.contains s.clean part := by
  obtain ⟨w, front, back, hw, hclean, hclean'⟩ := h.clean
  rw [hclean, hclean', Text.contains_interlined hw hpart hsome]

theorem mentions_eq (keys : List String) : s'.mentions keys = s.mentions keys := by
  rw [mentions, mentions, h.identifiers]

section

variable {p : Pattern} (hp : p.Keeps true)
include hp

theorem shows_eq : s'.shows p = s.shows p := by
  obtain ⟨w, front, back, hw, hclean, hclean'⟩ := h.clean
  rw [shows, shows, hclean, hclean', hp.occursIn_eq hw]

theorem count_eq : p.count s'.clean = p.count s.clean := by
  obtain ⟨w, front, back, hw, hclean, hclean'⟩ := h.clean
  rw [hclean, hclean', hp.count_eq hw]

theorem any_findAll_eq {test test' : Match → Bool}
    (htest : ∀ {w m m'}, Match.Alike w m m' → test' m' = test m) :
    (p.findAll s'.clean).any test' = (p.findAll s.clean).any test := by
  obtain ⟨w, front, back, hw, hclean, hclean'⟩ := h.clean
  rw [hclean, hclean', hp.any_eq hw _ _ htest]

theorem length_filter_findAll_eq {test test' : Match → Bool}
    (htest : ∀ {w m m'}, Match.Alike w m m' → test' m' = test m) :
    ((p.findAll s'.clean).filter test').length = ((p.findAll s.clean).filter test).length := by
  obtain ⟨w, front, back, hw, hclean, hclean'⟩ := h.clean
  rw [hclean, hclean', hp.length_filter_eq hw _ _ htest]

theorem map_findAll_eq {α : Type} {f f' : Match → α}
    (hf : ∀ {w m m'}, Match.Alike w m m' → f' m' = f m) :
    (p.findAll s'.clean).map f' = (p.findAll s.clean).map f := by
  obtain ⟨w, front, back, hw, hclean, hclean'⟩ := h.clean
  rw [hclean, hclean', hp.map_eq hw _ _ fun _ hsame => hf hsame]

end

end Interlined

end Snippet

end Asymptote
