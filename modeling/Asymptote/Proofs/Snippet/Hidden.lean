import Asymptote.Engine
import Asymptote.Proofs.Snippet.Pass
import Mathlib.Data.List.Infix
import Mathlib.Logic.Relation

/-! # Hidden contents
What a comment or a literal contains leaves no trace in a snippet. The pass comes out of it where it
went in, and in front of it nothing shows which contents follow. -/
namespace Asymptote
open Snippet

namespace Snippet

/-- Between `opening` and `closing` stands a comment or a literal that hides `content` and leaves
`shown`, in front of `rest`. -/
inductive Hides (l : Language) : (opening closing shown content rest : Text) → Prop
  | lineComment {mark content rest : Text} (hmark : mark ∈ l.lineComments)
      (hline : '\n' ∉ content) (hrest : ∀ c ∈ rest.head?, c = '\n') :
      Hides l mark [] [] content rest
  | blockComment {content rest : Text} (hl : l.hasBlockComments) (hline : '\n' ∉ content)
      (hclosing : ¬ "*/".toList <:+: content) :
      Hides l "/*" "*/" [] content rest
  | literal {quote : Char} {content rest : Text} (hopens : opensLiteral l quote)
      (hsome : content ≠ []) (hline : '\n' ∉ content) (hescape : '\\' ∉ content)
      (hquote : quote ∉ content) :
      Hides l [quote] [quote] [quote, quote] content rest

variable {l : Language}

theorem opensLiteral_cases {quote : Char} (h : opensLiteral l quote) :
    quote = '"' ∨ quote = '\x60' ∨ quote = '\'' := by
  simp only [opensLiteral, Bool.or_eq_true, Bool.and_eq_true, decide_eq_true_eq] at h
  tauto

/-! ## Through a hidden part -/

theorem scrubFrom_lineComment {content : Text} (h : '\n' ∉ content) (rest : Text) :
    scrubFrom l .lineComment 0 (content ++ rest) = scrubFrom l .lineComment 0 rest := by
  induction content with
  | nil => rfl
  | cons c content ih =>
    obtain ⟨hc, hcontent⟩ := not_or.mp (mt List.mem_cons.mpr h)
    simpa [scrubFrom, step, Ne.symm hc] using ih hcontent

theorem scrubFrom_lineComment_end {rest : Text} (h : ∀ c ∈ rest.head?, c = '\n') :
    scrubFrom l .lineComment 0 rest = scrubFrom l .code 0 rest := by
  cases rest with
  | nil => rfl
  | cons c rest =>
    obtain rfl : c = '\n' := h c rfl
    have hcomment := @step_break l .lineComment trivial rest
    have hcode := @step_break l .code trivial rest
    simp only [scrubFrom, hcomment, hcode, Mode.afterBreak]

theorem scrubFrom_blockComment {content : Text} (hline : '\n' ∉ content)
    (hclosing : ¬ "*/".toList <:+: content) (rest : Text) :
    scrubFrom l .blockComment 0 (content ++ ("*/".toList ++ rest)) = scrubFrom l .code 0 rest := by
  induction content with
  | nil => rfl
  | cons c content ih =>
    obtain ⟨hc, hcontent⟩ := not_or.mp (mt List.mem_cons.mpr hline)
    have hnext : ¬ "*/".toList <:+: content := fun h =>
      hclosing (h.trans (List.suffix_cons ..).isInfix)
    have hstarts : Text.startsWith (c :: (content ++ ("*/".toList ++ rest))) "*/" = false := by
      rw [Bool.eq_false_iff]
      intro h
      cases content with
      | nil => simp at h
      | cons d content =>
        simp only [String.reduceToList, List.cons_append, Text.cons_startsWith_cons,
          Text.startsWith_nil, Bool.and_eq_true, beq_iff_eq, and_true] at h
        obtain ⟨rfl, rfl⟩ := h
        exact hclosing ⟨[], content, rfl⟩
    have hstep : step l .blockComment c (content ++ ("*/".toList ++ rest)) =
        ⟨[], .blockComment, 0⟩ := by
      rw [step, hstarts]
      simp [keepBreak, Ne.symm hc]
    rw [List.cons_append, scrubFrom, hstep]
    exact ih hcontent hnext

theorem scrubFrom_literal {quote : Char} {content : Text} (hopens : opensLiteral l quote)
    (hline : '\n' ∉ content) (hescape : '\\' ∉ content) (hquote : quote ∉ content)
    (rest : Text) :
    scrubFrom l (.literal quote) 0 (content ++ quote :: rest) =
      quote :: scrubFrom l .code 0 rest := by
  induction content with
  | nil =>
    have hbackslash : quote ≠ '\\' := by
      rcases opensLiteral_cases hopens with rfl | rfl | rfl <;> decide
    simp [scrubFrom, step, hbackslash]
  | cons c content ih =>
    obtain ⟨hc, hcontent⟩ := not_or.mp (mt List.mem_cons.mpr hline)
    obtain ⟨hc', hcontent'⟩ := not_or.mp (mt List.mem_cons.mpr hescape)
    obtain ⟨hc'', hcontent''⟩ := not_or.mp (mt List.mem_cons.mpr hquote)
    simpa [scrubFrom, step, Ne.symm hc, Ne.symm hc', Ne.symm hc''] using
      ih hcontent hcontent' hcontent''

/-! ## Into a hidden part -/

theorem codeStep_lineComment {c : Char} {others : Text} (hmark : c :: others ∈ l.lineComments)
    (t : Text) : codeStep l c (others ++ t) = ⟨[], .lineComment, 0⟩ := by
  have hany : (l.lineComments.any fun mark => Text.startsWith (c :: (others ++ t)) mark) = true :=
    List.any_eq_true.mpr ⟨c :: others, hmark, by simp [Text.startsWith]⟩
  have hblock : ¬ (l.hasBlockComments && Text.startsWith (c :: (others ++ t)) "/*") = true := by
    rcases lineComments_cases hmark with h | h | h <;> cases h <;> simp
  rw [codeStep, if_neg hblock, if_pos hany]

theorem codeStep_literal {quote d : Char} (hopens : opensLiteral l quote) (hd : d ≠ quote)
    (t : Text) : codeStep l quote (d :: t) = ⟨[quote], .literal quote, 0⟩ := by
  have hquote := opensLiteral_cases hopens
  rcases codeStep_cases l quote (d :: t) with ⟨hc, _⟩ | ⟨hc, _⟩ | ⟨_, htake, _⟩ | ⟨_, h⟩ | ⟨hnot, _⟩
  · rcases hquote with rfl | rfl | rfl <;> simp at hc
  · rcases hquote with rfl | rfl | rfl <;> simp at hc
  · cases t <;> simp [hd] at htake
  · exact h
  · exact absurd hopens hnot

theorem scrubFrom_hides {opening closing shown content rest : Text}
    (h : Hides l opening closing shown content rest) :
    scrubFrom l .code 0 (opening ++ (content ++ (closing ++ rest))) =
      shown ++ scrubFrom l .code 0 rest := by
  cases h with
  | lineComment hmark hline hrest =>
    cases opening with
    | nil => rcases lineComments_cases hmark with h | h | h <;> cases h
    | cons c others =>
      have hothers : '\n' ∉ others ++ content := by
        rcases lineComments_cases hmark with h | h | h <;> cases h <;> simp [hline]
      rw [List.cons_append, scrubFrom, step, codeStep_lineComment hmark, ← List.append_assoc]
      exact (scrubFrom_lineComment hothers rest).trans (scrubFrom_lineComment_end hrest)
  | blockComment hl hline hclosing =>
    have hstep (t : Text) : codeStep l '/' ('*' :: t) = ⟨[], .blockComment, 1⟩ := by
      simp [codeStep, hl]
    have hopening (t : Text) : "/*".toList ++ t = '/' :: '*' :: t := by simp
    rw [hopening, scrubFrom, step, hstep]
    exact scrubFrom_blockComment hline hclosing rest
  | @literal quote content rest hopens hsome hline hescape hquote =>
    cases content with
    | nil => exact absurd rfl hsome
    | cons d content =>
      have hd : d ≠ quote := fun h => hquote (h ▸ List.mem_cons_self)
      rw [List.singleton_append, scrubFrom, step, List.cons_append, codeStep_literal hopens hd]
      exact congrArg (quote :: ·) (scrubFrom_literal hopens hline hescape hquote rest)

theorem lookAlike_of_head? {a b : Text} (hhead : a.head? = b.head?)
    (ha : ∀ q ∈ ['"', '\''], Text.startsWith a [q, q] = false)
    (hb : ∀ q ∈ ['"', '\''], Text.startsWith b [q, q] = false) : LookAlike a b := by
  have hsingle (d : Char) : Text.startsWith a [d] = Text.startsWith b [d] := by
    cases a <;> cases b <;> simp_all
  intro mark hmark c past
  simp only [marks, List.map, String.reduceToList, List.mem_cons, List.not_mem_nil,
    or_false] at hmark
  -- A mark has at most three characters: `c` and two more, of `past` or else of what follows.
  match past with
  | [] => rcases hmark with rfl | rfl | rfl | rfl | rfl | rfl | rfl <;> simp_all
  | [d] => rcases hmark with rfl | rfl | rfl | rfl | rfl | rfl | rfl <;> simp_all
  | d :: e :: past => rcases hmark with rfl | rfl | rfl | rfl | rfl | rfl | rfl <;> simp

theorem Hides.not_startsWith_pair {opening closing shown content rest : Text}
    (h : Hides l opening closing shown content rest) :
    ∀ q ∈ ['"', '\''],
      Text.startsWith (opening ++ (content ++ (closing ++ rest))) [q, q] = false := by
  cases h with
  | lineComment hmark => rcases lineComments_cases hmark with rfl | rfl | rfl <;> simp
  | blockComment => simp
  | @literal quote content rest hopens hsome hline hescape hquote =>
    cases content with
    | nil => exact absurd rfl hsome
    | cons d content =>
      have hd : quote ≠ d := fun h => hquote (h ▸ List.mem_cons_self)
      intro q hq
      simp
      grind

theorem Hides.lookAlike {opening closing shown old new rest : Text}
    (hold : Hides l opening closing shown old rest)
    (hnew : Hides l opening closing shown new rest) :
    LookAlike (opening ++ (old ++ (closing ++ rest))) (opening ++ (new ++ (closing ++ rest))) := by
  have hopening : opening ≠ [] := by
    cases hold with
    | lineComment hmark => rcases lineComments_cases hmark with rfl | rfl | rfl <;> simp
    | blockComment => simp
    | literal => simp
  apply lookAlike_of_head? _ hold.not_startsWith_pair hnew.not_startsWith_pair
  cases opening with
  | nil => exact absurd rfl hopening
  | cons c opening => rfl

/-- The second text has other contents in one comment or literal of the first. -/
def Redacts (l : Language) (a b : Text) : Prop :=
  ∃ past opening closing shown old new rest,
    a = past ++ (opening ++ (old ++ (closing ++ rest))) ∧
    b = past ++ (opening ++ (new ++ (closing ++ rest))) ∧
    Reaches l past (opening ++ (old ++ (closing ++ rest))) ∧
    Hides l opening closing shown old rest ∧ Hides l opening closing shown new rest

theorem scrub_eq_of_redacts {a b : Text} (h : Redacts l a b) : scrub l a = scrub l b := by
  obtain ⟨past, opening, closing, shown, old, new, rest, rfl, rfl, hreach, hold, hnew⟩ := h
  obtain ⟨hafter, hemitted⟩ :=
    Pass.congr_lookAlike (l := l) (hold.lookAlike hnew) (p := {}) trivial past
  have hscrub (ahead : Text) (h : Reaches l past ahead) :
      scrub l (past ++ ahead) = Pass.emitted l {} past ahead ++ scrubFrom l .code 0 ahead := by
    have happend := Pass.scrub_append l {} past ahead
    rwa [show Pass.after l {} past ahead = {} from h] at happend
  rw [hscrub _ hreach, hscrub _ (hafter.symm.trans hreach), hemitted, scrubFrom_hides hold,
    scrubFrom_hides hnew]

theorem ofCode_eq_of_redacts (hl : l ≠ .unknown) {a b : Text} (h : Redacts l a b) :
    ofCode l a = ofCode l b := by
  simp only [ofCode, if_neg hl, scrub_eq_of_redacts h]

end Snippet

namespace Engine

variable (e : Engine) {l : Language}

theorem evidence?_congr {code code' : Option Text}
    (h : code.map (ofCode l) = code'.map (ofCode l)) (claim : Option Claim) :
    e.evidence? l code claim = e.evidence? l code' claim := by
  cases code with
  | none =>
    obtain rfl : code' = none := by simpa using h.symm
    rfl
  | some a =>
    obtain ⟨b, rfl, hb⟩ : ∃ b, code' = some b ∧ ofCode l b = ofCode l a := by
      simpa using h.symm
    simp only [evidence?, Option.map_some, Option.isNone_some, hb]

theorem reconcile_congr (title : Option Text) (claims : Triple Claim) {code code' : Triple Text}
    (h : ∀ slot, (code.get? slot).map (ofCode l) = (code'.get? slot).map (ofCode l)) :
    e.reconcile title l code claims = e.reconcile title l code' claims := by
  have hbrute : code.bruteForce.map (ofCode l) = code'.bruteForce.map (ofCode l) := h .bruteForce
  have hbetter : code.better.map (ofCode l) = code'.better.map (ofCode l) := h .better
  have hoptimal : code.optimal.map (ofCode l) = code'.optimal.map (ofCode l) := h .optimal
  have hevidence : e.tripleEvidence l code claims = e.tripleEvidence l code' claims := by
    rw [tripleEvidence, tripleEvidence, e.evidence?_congr hbrute, e.evidence?_congr hbetter,
      e.evidence?_congr hoptimal]
  have hlookup (t : Triple Text) :
      (t.optimal <|> t.bruteForce).bind (fun c => e.lookup? (ofCode l c) none) =
        ((t.optimal.map (ofCode l)) <|> t.bruteForce.map (ofCode l)).bind
          fun s => e.lookup? s none := by
    cases t.optimal <;> cases t.bruteForce <;> rfl
  have htruth : e.tripleTruth? title l code = e.tripleTruth? title l code' := by
    rw [tripleTruth?, tripleTruth?, hlookup, hlookup, hoptimal, hbrute]
  rw [reconcile, reconcile, htruth, hevidence]

/-- What comments and literals contain is invisible: the snippet is the same, and so is whatever is
said about the code alone, beside a claim or in a triple. -/
theorem hidden_contents_invisible (hl : l ≠ .unknown) :
    (∀ a b, Redacts l a b → ofCode l a = ofCode l b ∧
      (∀ e title, Engine.analyze e a l title = Engine.analyze e b l title) ∧
      ∀ e claim, Engine.check e a l claim = Engine.check e b l claim) ∧
    ∀ e title claims code code',
      (∀ slot, Option.Rel (Relation.ReflGen (Redacts l)) (Triple.get? code slot)
        (Triple.get? code' slot)) →
      Engine.reconcile e title l code claims = Engine.reconcile e title l code' claims := by
  constructor
  · intro a b h
    have hsnippet := ofCode_eq_of_redacts hl h
    have hanalyze (e : Engine) (title : Option Text) :
        e.analyze a l title = e.analyze b l title := by
      rw [analyze, analyze, hsnippet]
    exact ⟨hsnippet, hanalyze, fun e claim => by rw [check, check, hanalyze]⟩
  · intro e title claims code code' h
    apply e.reconcile_congr
    intro slot
    have hslot := h slot
    generalize code.get? slot = a, code'.get? slot = b at hslot ⊢
    cases hslot with
    | none => rfl
    | some hredacts =>
      cases hredacts with
      | refl => rfl
      | single h => exact congrArg some (ofCode_eq_of_redacts hl h)

theorem redacts_label : Redacts .python "a = \"for\"  # b".toList "a = \"sum\"  # b".toList := by
  refine ⟨"a = ".toList, "\"".toList, "\"".toList, "\"\"".toList, "for".toList, "sum".toList,
    "  # b".toList, by decide, by decide, by decide, ?_, ?_⟩
  · exact .literal (by decide) (by decide) (by decide) (by decide) (by decide)
  · exact .literal (by decide) (by decide) (by decide) (by decide) (by decide)

theorem hidden_contents_invisible_label :
    let a := "a = \"for\"  # b".toList
    let b := "a = \"sum\"  # b".toList
    let claims : Triple Claim := { optimal := some ⟨"O(1)", "O(1)"⟩ }
    Language.python ≠ .unknown ∧ Redacts .python a b ∧ ofCode .python a = ofCode .python b ∧
      Engine.analyze {} a .python none = Engine.analyze {} b .python none ∧
      Engine.reconcile {} none .python ⟨some a, none, some a⟩ claims =
        Engine.reconcile {} none .python ⟨some a, none, some b⟩ claims := by
  intro a b claims
  have hl : Language.python ≠ .unknown := by decide
  have hredacts : Redacts .python a b := redacts_label
  obtain ⟨hcode, htriple⟩ := hidden_contents_invisible hl
  obtain ⟨hsnippet, hanalyze, _⟩ := hcode a b hredacts
  have hslots (slot : Approach) : Option.Rel (Relation.ReflGen (Redacts .python))
      (Triple.get? ⟨some a, none, some a⟩ slot) (Triple.get? ⟨some a, none, some b⟩ slot) := by
    cases slot with
    | bruteForce => exact .some .refl
    | better => exact .none
    | optimal | single => exact .some (.single hredacts)
  exact ⟨hl, hredacts, hsnippet, hanalyze {} none, htriple {} none claims _ _ hslots⟩

end Engine
end Asymptote
