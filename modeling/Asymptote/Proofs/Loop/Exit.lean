import Asymptote.Proofs.Loop.Depth
import Asymptote.Proofs.Pattern.Word

/-! # Early exits on one line
A loop whose body stands on its header line leaves early if a jump follows a colon, a closing
parenthesis or an opening brace anywhere on the line. The mark need not be the one that closes the
header, so a jump that is guarded by a condition counts like one that the body begins with. -/
namespace Asymptote

namespace Loop
open Pattern Cursor

/-! ## Jumps behind marks -/

def jumps : List String :=
  ["break", "return"]

def marks : List Char :=
  [':', ')', '\x7b']

def Jumps (t : Text) : Prop :=
  ∃ blanks jump back, t = blanks ++ jump.toList ++ back ∧ (∀ c ∈ blanks, Text.isBlank c = true) ∧
    jump ∈ jumps ∧ back.head?.any Text.isWord = false

def MarksJump (t : Text) : Prop :=
  ∃ front mark rest, t = front ++ mark :: rest ∧ mark ∈ marks ∧ Jumps rest

/-- The first statement of the body is a jump; a brace may open the body. -/
def BeginsWithJump (body : Text) : Prop :=
  Jumps body ∨ ∃ blanks rest, body = blanks ++ '\x7b' :: rest ∧
    (∀ c ∈ blanks, Text.isBlank c = true) ∧ Jumps rest

variable {s : Snippet} {l : Loop} {header body back t : Text} {mark : Char} {jump : String}

theorem isWord_jump : ∀ jump ∈ jumps, Text.IsWord jump.toList := by
  decide

theorem not_isBlank_mark (h : mark ∈ marks) :
    Text.isBlank mark = false ∧ Text.isWord mark = false := by
  simp only [marks, List.mem_cons, List.not_mem_nil, or_false] at h
  obtain rfl | rfl | rfl := h <;> decide

theorem describes_mark :
    (anyOf [":", ")", "\x7b"]).Describes fun t => ∃ mark ∈ marks, t = [mark] where
  fits_iff {front text back kept} := by
    have hmarks := describes_anyOf [":", ")", "\x7b"] (by decide)
    refine (@hmarks.fits_iff front text back kept).trans ?_
    simp [marks]

theorem occursIn_inlineExit : inlineExit.occursIn t = true ↔ MarksJump t := by
  have hjumps := describes_anyOf jumps (by decide)
  have hexit := (describes_mark.append describes_ws).append hjumps
  rw [occursIn_iff]
  constructor
  · rintro ⟨front, text, back, kept, rfl, hfits⟩
    obtain ⟨hfits, hedge⟩ := fits_append_edge.mp hfits
    obtain ⟨⟨_, _, rfl, ⟨_, blanks, rfl, ⟨mark, hmark, rfl⟩, hblanks⟩, jump, hjump, rfl⟩, rfl⟩ :=
      hexit.fits_iff.mp hfits
    rw [← List.append_assoc, atEdge_behind (isWord_jump jump hjump)] at hedge
    exact ⟨front, mark, blanks ++ jump.toList ++ back, by simp, hmark, blanks, jump, back, rfl,
      hblanks, hjump, hedge⟩
  · rintro ⟨front, mark, _, rfl, hmark, blanks, jump, back, rfl, hblanks, hjump, hback⟩
    refine ⟨front, [mark] ++ blanks ++ jump.toList, back, [], by simp,
      fits_append_edge.mpr ⟨?_, ?_⟩⟩
    · exact hexit.fits_iff.mpr
        ⟨⟨_, _, rfl, ⟨_, blanks, rfl, ⟨mark, hmark, rfl⟩, hblanks⟩, jump, hjump, rfl⟩, rfl⟩
    · rwa [← List.append_assoc, atEdge_behind (isWord_jump jump hjump)]

theorem jumps_append (hmark : mark ∈ marks) : Jumps (header ++ mark :: body) ↔ Jumps header := by
  constructor
  · rintro ⟨blanks, jump, back, hsplit, hblanks, hjump, hback⟩
    rcases List.append_eq_append_iff.mp hsplit with ⟨more, hjumps, hrest⟩ | ⟨more, rfl, rfl⟩
    · cases more with
      | nil => exact ⟨blanks, jump, [], by simpa using hjumps.symm, hblanks, hjump, rfl⟩
      | cons c more =>
        obtain ⟨rfl, rfl⟩ := List.cons_eq_cons.mp hrest
        have hmem : mark ∈ blanks ++ jump.toList := hjumps ▸ by simp
        rcases List.mem_append.mp hmem with hmem | hmem
        · have hblank := hblanks mark hmem
          rw [(not_isBlank_mark hmark).1] at hblank
          cases hblank
        · have hword := (isWord_jump jump hjump).chars mark hmem
          rw [(not_isBlank_mark hmark).2] at hword
          cases hword
    · refine ⟨blanks, jump, more, rfl, hblanks, hjump, ?_⟩
      cases more with
      | nil => rfl
      | cons c more => exact hback
  · rintro ⟨blanks, jump, back, rfl, hblanks, hjump, hback⟩
    refine ⟨blanks, jump, back ++ mark :: body, by simp, hblanks, hjump, ?_⟩
    cases back with
    | nil => exact (not_isBlank_mark hmark).2
    | cons c back => exact hback

theorem marksJump_append (hmark : mark ∈ marks) : MarksJump (header ++ mark :: body) ↔
    BeginsWithJump body ∨ MarksJump header ∨ MarksJump body := by
  constructor
  · rintro ⟨front, other, rest, hsplit, hother, hjumps⟩
    rcases List.append_eq_append_iff.mp hsplit with ⟨more, rfl, hrest⟩ | ⟨more, rfl, hrest⟩
    · cases more with
      | nil =>
        obtain ⟨rfl, rfl⟩ := List.cons_eq_cons.mp hrest
        exact .inl (.inl hjumps)
      | cons c more =>
        obtain ⟨rfl, rfl⟩ := List.cons_eq_cons.mp hrest
        exact .inr (.inr ⟨more, other, rest, rfl, hother, hjumps⟩)
    · cases more with
      | nil =>
        obtain ⟨rfl, rfl⟩ := List.cons_eq_cons.mp hrest
        exact .inl (.inl hjumps)
      | cons c more =>
        obtain ⟨rfl, rfl⟩ := List.cons_eq_cons.mp hrest
        exact .inr (.inl ⟨front, other, more, rfl, hother, (jumps_append hmark).mp hjumps⟩)
  · rintro ((hjumps | ⟨blanks, rest, rfl, -, hjumps⟩) | ⟨front, other, rest, rfl, hother, hjumps⟩ |
      ⟨front, other, rest, rfl, hother, hjumps⟩)
    · exact ⟨header, mark, body, rfl, hmark, hjumps⟩
    · exact ⟨header ++ mark :: blanks, '\x7b', rest, by simp, by decide, hjumps⟩
    · exact ⟨front, other, rest ++ mark :: body, by simp, hother, (jumps_append hmark).mpr hjumps⟩
    · exact ⟨header ++ mark :: front, other, rest, by simp, hother, hjumps⟩

theorem head?_of_beginsWithJump (h : BeginsWithJump body) :
    ∃ c ∈ ['b', 'r', '\x7b'], (Text.trimStart body).head? = some c := by
  have hhead {blanks rest : Text} {c : Char} (hblanks : ∀ c ∈ blanks, Text.isBlank c = true)
      (hc : Text.isBlank c = false) : (Text.trimStart (blanks ++ c :: rest)).head? = some c := by
    rw [Text.trimStart_append_cons hblanks hc, List.head?_cons]
  have hfirst : ∀ jump ∈ jumps, ∃ c ∈ ['b', 'r', '\x7b'], jump.toList.head? = some c ∧
      Text.isBlank c = false := by
    have hletters : Text.isBlank 'b' = false ∧ Text.isBlank 'r' = false := by decide
    simpa [jumps] using hletters
  obtain ⟨blanks, jump, back, rfl, hblanks, hjump, -⟩ | ⟨blanks, rest, rfl, hblanks, -⟩ := h
  · obtain ⟨c, hc, hhead', hblank⟩ := hfirst jump hjump
    obtain ⟨rest, heq⟩ := List.head?_eq_some_iff.mp hhead'
    refine ⟨c, hc, ?_⟩
    rw [heq, List.append_assoc]
    exact hhead hblanks hblank
  · exact ⟨'\x7b', by decide, hhead hblanks (by decide)⟩

/-! ## The body on a header line -/

/-- What follows the end of the header: a colon outside of parentheses where headers end in one, the
parenthesis that closes the first one elsewhere. `depth` counts the open parentheses. -/
def bodyFrom? (colon : Bool) (depth : Nat) : Text → Option Text
  | [] => none
  | c :: rest =>
    if c = '(' then bodyFrom? colon (depth + 1) rest
    else if c = ')' then if !colon && depth = 1 then some rest else bodyFrom? colon (depth - 1) rest
    else if c = ':' && colon && depth = 0 then some rest
    else bodyFrom? colon depth rest

def inlineBody? (l : Language) (line : Text) : Option Text :=
  bodyFrom? l.isOffside 0 line

theorem mark_of_bodyFrom? {colon : Bool} {depth : Nat} (h : bodyFrom? colon depth t = some body) :
    ∃ header mark, t = header ++ mark :: body ∧ mark ∈ marks := by
  have hlater {c : Char} {rest : Text}
      (h : ∃ header mark, rest = header ++ mark :: body ∧ mark ∈ marks) :
      ∃ header mark, c :: rest = header ++ mark :: body ∧ mark ∈ marks := by
    obtain ⟨header, mark, rfl, hmark⟩ := h
    exact ⟨c :: header, mark, rfl, hmark⟩
  induction t generalizing depth with
  | nil => cases h
  | cons c rest ih =>
    rw [bodyFrom?] at h
    split_ifs at h with hopen hclose hends hcolon
    · exact hlater (ih h)
    · cases h
      exact ⟨[], c, rfl, hclose ▸ by decide⟩
    · exact hlater (ih h)
    · cases h
      simp only [Bool.and_eq_true, decide_eq_true_eq] at hcolon
      exact ⟨[], c, rfl, hcolon.1.1 ▸ by decide⟩
    · exact hlater (ih h)

theorem exitsEarly_of_last_eq (h : l ∈ detect s) (hkind : l.kind = .forLoop ∨ l.kind = .whileLoop)
    (hlast : l.last = l.line) : l.exitsEarly = true ↔ MarksJump (s.line l.line) := by
  obtain ⟨line, -, hl⟩ := mem_detect_iff.mp h
  obtain ⟨kind, last, column, text, heq⟩ := madeOn_of_mem_ofLine hl
  rw [← occursIn_inlineExit]
  generalize l.line = number at heq hlast ⊢
  subst heq
  cases (show last = number from hlast)
  have hfirst : (kind = .forLoop || kind = .whileLoop : Bool) = true := by
    simpa [make] using hkind
  simp [make, hfirst, exitsFirst]

end Loop

namespace LoopForest
open Loop

variable {s : Snippet} {l : NestedLoop}

/-- A loop on one line leaves early exactly if a jump is marked somewhere on the line: by the end of
the header, or else in the header or within the body. -/
theorem exitsEarly_inline (hl : l ∈ ofSnippet s) (hkind : l.kind = .forLoop ∨ l.kind = .whileLoop)
    (hlast : l.last = l.line) :
    (l.exitsEarly = true ↔ MarksJump (s.line l.line)) ∧
      ∀ body, inlineBody? s.language (s.line l.line) = some body →
        ∃ header mark, s.line l.line = header ++ mark :: body ∧ mark ∈ marks ∧
          (l.exitsEarly = true ↔ BeginsWithJump body ∨ MarksJump header ∨ MarksJump body) := by
  have hexits := exitsEarly_of_last_eq (toLoop_mem_detect hl) hkind hlast
  refine ⟨hexits, fun body hbody => ?_⟩
  obtain ⟨header, mark, hline, hmark⟩ := mark_of_bodyFrom? hbody
  refine ⟨header, mark, hline, hmark, ?_⟩
  rw [hexits, hline, marksJump_append hmark]

def guardedReturn : Text :=
  "for (int i = 0; i < n; i++) if (a[i] == t) return i;".toList

def guardedLoop : NestedLoop where
  kind := .forLoop
  line := 0
  last := 0
  column := 0
  counter? := some "i".toList
  condition := "i < n".toList
  bounds := ["n".toList]
  growth := .linear
  exitsEarly := true
  parent? := none
  depth := 1
  amortization? := none
  creditedDepth := 1

theorem exitsEarly_inline_guarded :
    let s := Snippet.ofCode .java guardedReturn
    guardedLoop ∈ ofSnippet s ∧ (guardedLoop.kind = .forLoop ∨ guardedLoop.kind = .whileLoop) ∧
      guardedLoop.last = guardedLoop.line ∧
      (guardedLoop.exitsEarly = true ↔ MarksJump (s.line guardedLoop.line)) ∧
        ∀ body, inlineBody? s.language (s.line guardedLoop.line) = some body →
          ∃ header mark, s.line guardedLoop.line = header ++ mark :: body ∧ mark ∈ marks ∧
            (guardedLoop.exitsEarly = true ↔
              BeginsWithJump body ∨ MarksJump header ∨ MarksJump body) := by
  intro s
  have hl : guardedLoop ∈ ofSnippet s := by decide
  exact ⟨hl, .inl rfl, rfl, exitsEarly_inline hl (.inl rfl) rfl⟩

theorem not_forall_exitsEarly_inline :
    ¬ ∀ (language : Language) (code : Text), ∀ l ∈ ofSnippet (Snippet.ofCode language code),
      l.kind = .forLoop ∨ l.kind = .whileLoop → l.last = l.line →
        ∀ body, inlineBody? (Snippet.ofCode language code).language
            ((Snippet.ofCode language code).line l.line) = some body →
          l.exitsEarly = true → BeginsWithJump body := by
  intro h
  have hl : guardedLoop ∈ ofSnippet (Snippet.ofCode .java guardedReturn) := by decide
  have hbody : inlineBody? (Snippet.ofCode .java guardedReturn).language
      ((Snippet.ofCode .java guardedReturn).line guardedLoop.line) =
        some " if (a[i] == t) return i;".toList := by
    decide
  obtain ⟨c, hc, hhead⟩ :=
    head?_of_beginsWithJump (h .java guardedReturn guardedLoop hl (.inl rfl) rfl _ hbody rfl)
  have hfirst : (Text.trimStart " if (a[i] == t) return i;".toList).head? = some 'i' := by
    decide
  rw [hfirst] at hhead
  cases hhead
  revert hc
  decide

end LoopForest
end Asymptote
