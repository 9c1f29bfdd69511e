import Asymptote.Snippet
import Mathlib.Tactic.SplitIfs

/-! # The scrubbing pass in parts
A text may be scrubbed in two parts: what comes out of the first part, and where the pass stands
behind it. Ahead of a part the pass sees at most two characters of what follows, so two
continuations that look alike to every mark are the same to it. -/
namespace Asymptote.Snippet

/-- Where the pass stands in front of a character: what the character belongs to, and how many
characters are still to be dropped unseen. -/
structure Pass where
  mode : Mode := .code
  pending : Nat := 0
  deriving DecidableEq, Repr

namespace Pass

variable (l : Language)

def scrub (p : Pass) (t : Text) : Text :=
  scrubFrom l p.mode p.pending t

def next : Pass → Char → Text → Pass
  | ⟨mode, n + 1⟩, _, _ => ⟨mode, n⟩
  | ⟨mode, 0⟩, c, rest => ⟨(step l mode c rest).mode, (step l mode c rest).dropped⟩

def emit : Pass → Char → Text → Text
  | ⟨_, _ + 1⟩, _, _ => []
  | ⟨mode, 0⟩, c, rest => (step l mode c rest).output

/-- Where the pass stands behind a part of the text that goes on with `ahead`. -/
def after : Pass → Text → Text → Pass
  | p, [], _ => p
  | p, c :: past, ahead => after (p.next l c (past ++ ahead)) past ahead

def emitted : Pass → Text → Text → Text
  | _, [], _ => []
  | p, c :: past, ahead =>
    p.emit l c (past ++ ahead) ++ emitted (p.next l c (past ++ ahead)) past ahead

theorem scrub_cons (p : Pass) (c : Char) (rest : Text) :
    p.scrub l (c :: rest) = p.emit l c rest ++ (p.next l c rest).scrub l rest := by
  obtain ⟨mode, n⟩ := p
  cases n with
  | zero => rfl
  | succ n => rfl

theorem scrub_append (p : Pass) (past ahead : Text) :
    p.scrub l (past ++ ahead) = p.emitted l past ahead ++ (p.after l past ahead).scrub l ahead := by
  induction past generalizing p with
  | nil => rfl
  | cons c past ih => rw [List.cons_append, scrub_cons, ih, emitted, after, List.append_assoc]

theorem after_append (p : Pass) (first second ahead : Text) :
    p.after l (first ++ second) ahead =
      (p.after l first (second ++ ahead)).after l second ahead := by
  induction first generalizing p with
  | nil => rfl
  | cons c first ih => rw [List.cons_append, after, List.append_assoc, ih, after]

end Pass

/-- The pass reaches the text `ahead` of `past` outside of any comment or literal. -/
def Reaches (l : Language) (past ahead : Text) : Prop :=
  Pass.after l {} past ahead = {}

instance (l : Language) (past ahead : Text) : Decidable (Reaches l past ahead) :=
  inferInstanceAs (Decidable (_ = _))

/-! ## Marks -/

def marks : List Text :=
  ["/*", "*/", "\"\"\"", "'''", "//", "#", "# "].map String.toList

theorem lineComments_cases {l : Language} {mark : Text} (h : mark ∈ l.lineComments) :
    mark = ['/', '/'] ∨ mark = ['#'] ∨ mark = ['#', ' '] := by
  revert mark
  cases l <;> decide

theorem mem_marks_of_mem_lineComments {l : Language} {mark : Text} (h : mark ∈ l.lineComments) :
    mark ∈ marks := by
  rcases lineComments_cases h with rfl | rfl | rfl <;> decide

theorem opensDocstring_eq (l : Language) (t : Text) :
    opensDocstring l t =
      (l = .python && (Text.startsWith t "\"\"\"" || Text.startsWith t "'''")) := by
  match t with
  | [] | [_] | [_, _] => simp [opensDocstring]
  | a :: b :: c :: t =>
    rw [Bool.eq_iff_iff]
    simp only [opensDocstring, String.reduceToList, Text.cons_startsWith_cons, Text.startsWith_nil,
      Bool.and_eq_true, Bool.or_eq_true, beq_iff_eq, decide_eq_true_eq, and_true]
    grind

/-! ## What a step can do -/

def Mode.Proper : Mode → Prop
  | .docstring quote => quote = '"' ∨ quote = '\''
  | _ => True

theorem codeStep_cases (l : Language) (c : Char) (rest : Text) :
    (c = '/' ∧ rest.take 1 = ['*'] ∧ codeStep l c rest = ⟨[], .blockComment, 1⟩) ∨
    ((c = '/' ∨ c = '#') ∧ codeStep l c rest = ⟨[], .lineComment, 0⟩) ∨
    ((c = '"' ∨ c = '\'') ∧ rest.take 2 = [c, c] ∧ codeStep l c rest = ⟨[c, c], .docstring c, 2⟩) ∨
    (opensLiteral l c ∧ codeStep l c rest = ⟨[c], .literal c, 0⟩) ∨
    (¬ opensLiteral l c ∧ codeStep l c rest = ⟨[c], .code, 0⟩) := by
  by_cases hblock : (l.hasBlockComments && Text.startsWith (c :: rest) "/*") = true
  · left
    have hstep : codeStep l c rest = ⟨[], .blockComment, 1⟩ := by rw [codeStep, if_pos hblock]
    cases rest with
    | nil => simp at hblock
    | cons d rest =>
      simp only [String.reduceToList, Text.cons_startsWith_cons, Bool.and_eq_true,
        beq_iff_eq] at hblock
      obtain ⟨_, rfl, rfl, _⟩ := hblock
      exact ⟨rfl, rfl, hstep⟩
  right
  by_cases hline : (l.lineComments.any fun mark => Text.startsWith (c :: rest) mark) = true
  · left
    have hstep : codeStep l c rest = ⟨[], .lineComment, 0⟩ := by
      rw [codeStep, if_neg hblock, if_pos hline]
    obtain ⟨mark, hmark, hstarts⟩ := List.any_eq_true.mp hline
    refine ⟨?_, hstep⟩
    rcases lineComments_cases hmark with rfl | rfl | rfl <;> simp at hstarts <;> grind
  right
  by_cases hdocstring : opensDocstring l (c :: rest) = true
  · left
    have hstep : codeStep l c rest = ⟨[c, c], .docstring c, 2⟩ := by
      rw [codeStep, if_neg hblock, if_neg hline, if_pos hdocstring]
    match rest with
    | [] | [_] => simp [opensDocstring] at hdocstring
    | d :: e :: rest =>
      simp only [opensDocstring, Bool.and_eq_true, Bool.or_eq_true, decide_eq_true_eq] at hdocstring
      obtain ⟨⟨⟨_, hquote⟩, rfl⟩, rfl⟩ := hdocstring
      exact ⟨hquote, rfl, hstep⟩
  right
  by_cases hliteral : opensLiteral l c = true
  · left
    have hstep : codeStep l c rest = ⟨[c], .literal c, 0⟩ := by
      rw [codeStep, if_neg hblock, if_neg hline, if_neg hdocstring, if_pos hliteral]
    exact ⟨hliteral, hstep⟩
  · right
    have hstep : codeStep l c rest = ⟨[c], .code, 0⟩ := by
      rw [codeStep, if_neg hblock, if_neg hline, if_neg hdocstring, if_neg hliteral]
    exact ⟨hliteral, hstep⟩

theorem proper_step {l : Language} {mode : Mode} (hmode : mode.Proper) (c : Char) (rest : Text) :
    (step l mode c rest).mode.Proper := by
  cases mode with
  | code =>
    rw [step]
    rcases codeStep_cases l c rest with ⟨_, _, h⟩ | ⟨_, h⟩ | ⟨hquote, _, h⟩ | ⟨_, h⟩ | ⟨_, h⟩
    case inr.inr.inl => rw [h]; exact hquote
    all_goals rw [h]; trivial
  | blockComment => rw [step]; split <;> trivial
  | lineComment => rw [step]; split <;> trivial
  | docstring quote =>
    rw [step]
    split
    · trivial
    · exact hmode
  | literal quote =>
    rw [step]
    split_ifs <;> trivial

def Mode.afterBreak : Mode → Mode
  | .code | .lineComment => .code
  | .blockComment => .blockComment
  | .docstring quote => .docstring quote
  | .literal quote => if quote = '\x60' then .literal quote else .code

/-- A line break that is not dropped survives in every mode, and no mark begins with it. -/
theorem step_break (l : Language) {mode : Mode} (hmode : mode.Proper) (rest : Text) :
    step l mode '\n' rest = ⟨['\n'], mode.afterBreak, 0⟩ := by
  cases mode with
  | code =>
    rw [step]
    rcases codeStep_cases l '\n' rest with ⟨hc, _⟩ | ⟨hc, _⟩ | ⟨hc, _⟩ | ⟨hopens, _⟩ | ⟨_, h⟩
    case inr.inr.inr.inr => exact h
    case inr.inr.inr.inl => simp [opensLiteral] at hopens
    all_goals simp at hc
  | blockComment => rfl
  | lineComment => rfl
  | docstring quote =>
    have hopen : Text.startsWith ('\n' :: rest) [quote, quote, quote] = false := by
      rcases hmode with rfl | rfl
      · rfl
      · rfl
    simp [step, hopen, keepBreak, Mode.afterBreak]
  | literal quote =>
    by_cases hquote : '\n' = quote
    · subst hquote
      rfl
    · simp [step, hquote, Mode.afterBreak]

/-! ## Looking ahead -/

/-- Behind at least one more character the two texts look alike to every mark. -/
def LookAlike (a b : Text) : Prop :=
  ∀ mark ∈ marks, ∀ c past,
    Text.startsWith (c :: (past ++ a)) mark = Text.startsWith (c :: (past ++ b)) mark

section

variable (l : Language) {c : Char} {rest rest' : Text}
  (h : ∀ mark ∈ marks, Text.startsWith (c :: rest) mark = Text.startsWith (c :: rest') mark)
include h

theorem codeStep_congr : codeStep l c rest = codeStep l c rest' := by
  have hblock := h "/*".toList (by decide)
  have hline : (l.lineComments.any fun mark => Text.startsWith (c :: rest) mark) =
      l.lineComments.any fun mark => Text.startsWith (c :: rest') mark := by
    rw [Bool.eq_iff_iff]
    simp only [List.any_eq_true]
    constructor
    · rintro ⟨mark, hmark, hstarts⟩
      exact ⟨mark, hmark, (h mark (mem_marks_of_mem_lineComments hmark)) ▸ hstarts⟩
    · rintro ⟨mark, hmark, hstarts⟩
      exact ⟨mark, hmark, (h mark (mem_marks_of_mem_lineComments hmark)) ▸ hstarts⟩
  have hdocstring : opensDocstring l (c :: rest) = opensDocstring l (c :: rest') := by
    rw [opensDocstring_eq, opensDocstring_eq, h "\"\"\"".toList (by decide),
      h "'''".toList (by decide)]
  rw [codeStep, codeStep, hblock, hline, hdocstring]

theorem step_congr {mode : Mode} (hmode : mode.Proper) :
    step l mode c rest = step l mode c rest' := by
  cases mode with
  | code => exact codeStep_congr l h
  | blockComment => rw [step, step, h "*/".toList (by decide)]
  | lineComment => rfl
  | docstring quote =>
    have hclose : Text.startsWith (c :: rest) [quote, quote, quote] =
        Text.startsWith (c :: rest') [quote, quote, quote] := by
      rcases hmode with rfl | rfl
      · exact h _ (by decide)
      · exact h _ (by decide)
    rw [step, step, hclose]
  | literal quote => rfl

end

namespace Pass

variable {l : Language}

theorem proper_next {p : Pass} (hp : p.mode.Proper) (c : Char) (rest : Text) :
    (p.next l c rest).mode.Proper := by
  obtain ⟨mode, n⟩ := p
  cases n with
  | zero => exact proper_step hp c rest
  | succ n => exact hp

theorem congr_lookAlike {a b : Text} (h : LookAlike a b) {p : Pass} (hp : p.mode.Proper)
    (past : Text) :
    p.after l past a = p.after l past b ∧ p.emitted l past a = p.emitted l past b := by
  induction past generalizing p with
  | nil => exact ⟨rfl, rfl⟩
  | cons c past ih =>
    have hstep : step l p.mode c (past ++ a) = step l p.mode c (past ++ b) :=
      step_congr l (fun mark hmark => h mark hmark c past) hp
    have hnext : p.next l c (past ++ a) = p.next l c (past ++ b) := by
      obtain ⟨mode, n⟩ := p
      cases n with
      | zero => simp only [next, hstep]
      | succ n => rfl
    have hemit : p.emit l c (past ++ a) = p.emit l c (past ++ b) := by
      obtain ⟨mode, n⟩ := p
      cases n with
      | zero => simp only [emit, hstep]
      | succ n => rfl
    obtain ⟨hafter, hemitted⟩ := ih (proper_next (l := l) hp c (past ++ a))
    simp only [after, emitted, ← hnext, ← hemit, hafter, hemitted, and_self]

end Pass

end Asymptote.Snippet
