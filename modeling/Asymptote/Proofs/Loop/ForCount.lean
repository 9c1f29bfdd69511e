import Asymptote.Proofs.Loop.Depth
import Asymptote.Proofs.Pattern.Word

/-! # The loops that `for` begins
In Python every word `for` of a line is a loop, one by keyword or a comprehension. Detection counts
the words and takes away one for the loop that a keyword has begun, whichever keyword it was. So a
word gets lost behind a keyword other than `for`, and `foreach` stands for a word that is not
there. -/
namespace Asymptote

namespace LoopKind

def byFor : LoopKind → Bool
  | forLoop | comprehension => true
  | whileLoop | unbounded | iteration => false

def byOtherKeyword : LoopKind → Bool
  | whileLoop | unbounded => true
  | forLoop | comprehension | iteration => false

end LoopKind

def LoopForest.countOn (f : LoopForest) (number : Nat) (kinds : LoopKind → Bool) : Nat :=
  f.countP fun l => kinds l.kind && decide (l.line = number)

namespace Loop
open Pattern Cursor

/-! ## The keyword of a line -/

def keywords : List String :=
  ["for", "foreach", "while", "until", "loop", "do"]

theorem isWord_keyword : ∀ s ∈ keywords, Text.IsWord s.toList := by
  decide

theorem not_isWord_before_keyword {front text back : Text} {kept : Groups}
    (h : (textStart ++ opt ("\x7d" ++ ws) ++ opt (word ++ spaced ":")).Fits front text back kept) :
    kept = [] ∧ (front ++ text).getLast?.any Text.isWord = false := by
  have hbrace := ((describes_literal "\x7d").append describes_ws).opt
  have hlabel := (describes_word.append
    ((describes_ws.append (describes_literal ":")).append describes_ws)).opt
  rw [spaced, hlabel.fits_append] at h
  obtain ⟨_, label, rfl, hlabel, h⟩ := h
  rw [hbrace.fits_append] at h
  obtain ⟨_, brace, rfl, hbrace, rfl, rfl, rfl⟩ := h
  have hblank {c : Char} : Text.isBlank c = true → Text.isWord c = false :=
    Text.isWord_eq_false_of_isBlank
  have hbrace : (brace : Text).getLast?.any Text.isWord = false := by
    obtain ⟨_, blanks, rfl, rfl, hblanks⟩ | rfl := hbrace
    · exact Text.getLast?_any_append (by decide) fun c hc => hblank (hblanks c hc)
    · rfl
  refine ⟨rfl, ?_⟩
  obtain ⟨name, _, rfl, -, _, blanks, rfl, ⟨gap, _, rfl, -, rfl⟩, hblanks⟩ | rfl := hlabel
  · have hcolon : (brace ++ name ++ gap ++ ":".toList).getLast?.any Text.isWord = false := by
      rw [List.getLast?_append]
      rfl
    simpa using Text.getLast?_any_append hcolon fun c hc => hblank (hblanks c hc)
  · simpa using hbrace

theorem standsWhole_keyword {text : Text} {m : Match} (h : keywordHead.find? text = some m) :
    ∃ front back, text = front ++ (m.group 1 ++ back) ∧ (m.group 1).StandsWhole front back := by
  obtain ⟨front, back, rfl, -, -, hfits⟩ := stands_of_find? h
  obtain ⟨_, _, _, _, htext, hkept, hfits, -, rfl, rfl⟩ := hfits
  have hkeyword := describes_anyOf keywords (by decide)
  obtain ⟨_, rest, _, rfl, -, rfl, hhead⟩ := (describes_any .inLine).fits_append_group.mp hfits
  obtain ⟨hhead, hedge⟩ := fits_append_edge.mp hhead
  obtain ⟨lead, _, _, rfl, ⟨s, hs, rfl⟩, rfl, hlead⟩ := hkeyword.fits_append_group.mp hhead
  obtain ⟨rfl, hfront⟩ := not_isWord_before_keyword hlead
  have hword := isWord_keyword s hs
  have hgroup : m.group 1 = s.toList := Match.group_eq_lookup hkept 1
  rw [hgroup, htext]
  refine ⟨front ++ lead, rest ++ back, by simp, hword, hfront, ?_⟩
  rwa [List.nil_append, ← List.append_assoc, atEdge_behind hword] at hedge

def keyword? (text : Text) : Option Text :=
  (keywordHead.find? text).map (·.group 1)

theorem wholeWords_pos_of_keyword {text keyword : Text} (h : keyword? text = some keyword) :
    0 < Text.wholeWords keyword text := by
  obtain ⟨m, hm, rfl⟩ := Option.map_eq_some_iff.mp h
  obtain ⟨front, back, htext, hstands⟩ := standsWhole_keyword hm
  exact (Text.wholeWords_pos_iff hstands.isWord).mpr ⟨front, back, htext, hstands⟩

theorem keywordKind?_cases (l : Language) (text : Text) :
    (∃ kind, keywordKind? l text = some kind ∧ kind.byFor = true ∧
        (keyword? text = some "for".toList ∨ keyword? text = some "foreach".toList)) ∨
      (∃ kind, keywordKind? l text = some kind ∧ kind.byOtherKeyword = true ∧
        keyword? text ≠ some "foreach".toList) ∨
      keywordKind? l text = none ∧ keyword? text ≠ some "foreach".toList := by
  rw [keyword?, keywordKind?]
  cases keywordHead.find? text with
  | none => exact .inr (.inr (by simp))
  | some m =>
    simp only [Option.map_some, Option.some.injEq, Bool.or_eq_true, decide_eq_true_eq]
    split_ifs with hfor
    · exact .inl ⟨_, rfl, rfl, hfor⟩
    · exact .inl ⟨_, rfl, rfl, hfor⟩
    all_goals
      have hforeach : some (m.group 1) ≠ some "foreach".toList := fun h =>
        hfor (.inr (Option.some.inj h))
    · exact .inr (.inr ⟨rfl, hforeach⟩)
    · exact .inr (.inl ⟨_, rfl, rfl, hforeach⟩)
    · exact .inr (.inl ⟨_, rfl, rfl, hforeach⟩)
    · exact .inr (.inr ⟨rfl, hforeach⟩)

variable {s : Snippet} {number : Nat} {line : Snippet.Line} {kinds : LoopKind → Bool}

theorem countP_keywordLoops {text : Text} {kind : LoopKind}
    (hkind : keywordKind? s.language text = some kind) :
    (keywordLoops s number text).countP (kinds ·.kind) = if kinds kind then 1 else 0 := by
  rw [keywordLoops, hkind]
  exact List.countP_singleton

theorem length_keywordLoops {text : Text} {kind : LoopKind}
    (hkind : keywordKind? s.language text = some kind) :
    (keywordLoops s number text).length = 1 := by
  rw [keywordLoops, hkind]
  rfl

theorem countP_comprehensions (hpython : s.language = .python) {taken : Nat} {text : Text} :
    (comprehensions s number taken text).countP (kinds ·.kind) =
      if kinds .comprehension then Text.wholeWords "for".toList text - taken else 0 := by
  rw [comprehensions, if_pos hpython, List.countP_map,
    count_whole (isWord_keyword "for" (by decide))]
  split
  next h => exact (List.countP_eq_length.mpr fun _ _ => h).trans List.length_range'
  next h => exact List.countP_eq_zero.mpr fun _ _ => h

/-- Iteration calls stand in for other loops, so they do not count among other kinds. -/
theorem countP_ofLine (hpython : s.language = .python) (hblank : line.isBlank = false)
    (hkinds : kinds .iteration = false) :
    (ofLine s number line).countP (kinds ·.kind) =
      (keywordLoops s number (Text.trim line.text)).countP (kinds ·.kind) +
        if kinds .comprehension then Text.wholeWords "for".toList line.text -
          (keywordLoops s number (Text.trim line.text)).length else 0 := by
  rw [← Text.wholeWords_trim (isWord_keyword "for" (by decide)), ← countP_comprehensions hpython,
    ← List.countP_append, ofLine, if_neg (Bool.not_eq_true _ ▸ hblank)]
  dsimp only
  split
  next hempty =>
    rw [List.isEmpty_iff.mp hempty, List.countP_nil, List.countP_eq_zero]
    intro l hl
    obtain ⟨column, -, rfl⟩ := List.mem_map.mp hl
    simpa [make] using hkinds
  next => rfl

end Loop

namespace LoopForest
open Loop

variable {s : Snippet} {number : Nat} {line : Snippet.Line}

theorem countOn_ofSnippet (hline : s.lines[number]? = some line) (kinds : LoopKind → Bool) :
    (ofSnippet s).countOn number kinds = (ofLine s number line).countP (kinds ·.kind) := by
  rw [← filter_line_detect hline, List.countP_filter, ← loops_grow s (detect s), loops,
    List.countP_map]
  rfl

/-- Where a line of Python begins by `foreach`, that is a loop even without a word `for`. Elsewhere
each loop by another keyword costs one of the loops that the words are. -/
theorem countOn_byFor (hpython : s.language = .python) (hline : s.lines[number]? = some line)
    (hblank : line.isBlank = false) :
    (ofSnippet s).countOn number LoopKind.byOtherKeyword ≤ 1 ∧
      (ofSnippet s).countOn number LoopKind.byFor =
        if keyword? (Text.trim line.text) = some "foreach".toList then
          max (Text.wholeWords "for".toList line.text) 1
        else Text.wholeWords "for".toList line.text -
          (ofSnippet s).countOn number LoopKind.byOtherKeyword := by
  have hothers : (ofSnippet s).countOn number LoopKind.byOtherKeyword =
      (keywordLoops s number (Text.trim line.text)).countP (·.kind.byOtherKeyword) := by
    rw [countOn_ofSnippet hline, countP_ofLine hpython hblank rfl]
    rfl
  have hfors : (ofSnippet s).countOn number LoopKind.byFor =
      (keywordLoops s number (Text.trim line.text)).countP (·.kind.byFor) +
        (Text.wholeWords "for".toList line.text -
          (keywordLoops s number (Text.trim line.text)).length) := by
    rw [countOn_ofSnippet hline, countP_ofLine hpython hblank rfl]
    rfl
  rw [hothers, hfors]
  obtain ⟨kind, hkind, hfor, hkeyword⟩ | ⟨kind, hkind, hother, hforeach⟩ | ⟨hnone, hforeach⟩ :=
    keywordKind?_cases s.language (Text.trim line.text)
  · -- The keyword stands for a loop by `for`; the word that detection leaves out is its own.
    have hother : kind.byOtherKeyword = false := by
      cases kind <;> first | rfl | cases hfor
    rw [countP_keywordLoops hkind, countP_keywordLoops hkind, length_keywordLoops hkind,
      if_pos hfor, hother, if_neg Bool.false_ne_true]
    refine ⟨Nat.zero_le 1, ?_⟩
    rcases hkeyword with hword | hforeach
    · have hpos := wholeWords_pos_of_keyword hword
      rw [Text.wholeWords_trim (isWord_keyword "for" (by decide))] at hpos
      rw [if_neg (by rw [hword]; decide)]
      omega
    · rw [if_pos hforeach]
      omega
  · -- The word that detection leaves out belongs to a comprehension.
    have hfor : kind.byFor = false := by
      cases kind <;> first | rfl | cases hother
    rw [countP_keywordLoops hkind, countP_keywordLoops hkind, length_keywordLoops hkind,
      if_pos hother, hfor, if_neg Bool.false_ne_true, if_neg hforeach, Nat.zero_add]
    exact ⟨Nat.le_refl 1, rfl⟩
  · rw [keywordLoops, hnone, if_neg hforeach]
    exact ⟨Nat.zero_le 1, Nat.zero_add _⟩

def guardedStep : Text :=
  "while any(x > 0 for x in xs):\n    step(xs)\n".toList

theorem countOn_byFor_condition :
    let s := Snippet.ofCode .python guardedStep
    let line : Snippet.Line := ⟨"while any(x > 0 for x in xs):".toList, 0, 0⟩
    s.language = .python ∧ s.lines[0]? = some line ∧ line.isBlank = false ∧
      (ofSnippet s).countOn 0 LoopKind.byOtherKeyword ≤ 1 ∧
        (ofSnippet s).countOn 0 LoopKind.byFor =
          if keyword? (Text.trim line.text) = some "foreach".toList then
            max (Text.wholeWords "for".toList line.text) 1
          else Text.wholeWords "for".toList line.text -
            (ofSnippet s).countOn 0 LoopKind.byOtherKeyword := by
  intro s line
  have hline : s.lines[0]? = some line := by decide
  exact ⟨rfl, hline, rfl, countOn_byFor rfl hline rfl⟩

theorem not_forall_countOn_byFor :
    ¬ ∀ (code : Text) (number : Nat) (line : Snippet.Line),
      (Snippet.ofCode .python code).lines[number]? = some line → line.isBlank = false →
        (ofSnippet (Snippet.ofCode .python code)).countOn number LoopKind.byFor =
          Text.wholeWords "for".toList line.text := by
  intro h
  have hwords := h guardedStep 0 ⟨"while any(x > 0 for x in xs):".toList, 0, 0⟩
    (by decide) rfl
  have hlost : (ofSnippet (Snippet.ofCode .python guardedStep)).countOn 0 LoopKind.byFor = 0 := by
    decide
  have hone : Text.wholeWords "for".toList "while any(x > 0 for x in xs):".toList = 1 := by
    decide
  rw [hlost, hone] at hwords
  cases hwords

end LoopForest
end Asymptote
