import Asymptote.Snippet
import Mathlib.Data.List.Basic
import Mathlib.Data.Nat.Find

/-! # The extent of blocks
By indentation a block holds the written lines that are indented more than its head, up to the first
that is not; such blocks nest. By braces it ends on the first line behind its head that ends no
deeper than the head begins. This is the line of the matching brace, unless a block that opens
behind that brace is still open where the line ends. -/
namespace Asymptote.Snippet

variable {lines : List Line} {s : Snippet}

/-! ## Indentation -/

def Writes (lines : List Line) (number : Nat) (line : Line) : Prop :=
  lines[number]? = some line ∧ line.isBlank = false

/-- By indentation, the block of the head on line `first` ends on line `last`. -/
structure OffsideBlock (lines : List Line) (first : Nat) (head : Line) (last : Nat) : Prop where
  first_le : first ≤ last
  lt_length : last < lines.length
  deeper : ∀ j line, Writes lines j line → first < j → j ≤ last → head.indent < line.indent
  written : last = first ∨ ∃ line, Writes lines last line
  stops : ∀ j line, Writes lines j line → last < j →
    (∀ k other, last < k → k < j → ¬ Writes lines k other) → line.indent ≤ head.indent

structure OffsideScan (lines : List Line) (first : Nat) (head : Line) (best next : Nat) : Prop where
  first_le : first ≤ best
  lt_next : best < next
  next_le : next ≤ lines.length
  deeper : ∀ j line, Writes lines j line → first < j → j ≤ best → head.indent < line.indent
  written : best = first ∨ ∃ line, Writes lines best line
  blank : ∀ j line, Writes lines j line → best < j → next ≤ j

namespace OffsideScan

variable {first best next : Nat} {head line : Line}

theorem start (hhead : lines[first]? = some head) :
    OffsideScan lines first head first (first + 1) where
  first_le := Nat.le_refl first
  lt_next := Nat.lt_succ_self first
  next_le := (List.getElem?_eq_some_iff.mp hhead).1
  deeper j _ _ hfirst hbest := by omega
  written := .inl rfl
  blank j _ _ hbest := hbest

theorem skip (h : OffsideScan lines first head best next) (hline : lines[next]? = some line)
    (hblank : line.isBlank = true) : OffsideScan lines first head best (next + 1) where
  first_le := h.first_le
  lt_next := Nat.lt_succ_of_lt h.lt_next
  next_le := (List.getElem?_eq_some_iff.mp hline).1
  deeper := h.deeper
  written := h.written
  blank j other hj hbest := by
    rcases Nat.lt_or_eq_of_le (h.blank j other hj hbest) with hlt | rfl
    · exact hlt
    · obtain ⟨hother, hwritten⟩ := hj
      cases hline.symm.trans hother
      rw [hblank] at hwritten
      cases hwritten

theorem take (h : OffsideScan lines first head best next) (hline : Writes lines next line)
    (hdeeper : head.indent < line.indent) :
    OffsideScan lines first head next (next + 1) where
  first_le := Nat.le_of_lt (Nat.lt_of_le_of_lt h.first_le h.lt_next)
  lt_next := Nat.lt_succ_self next
  next_le := (List.getElem?_eq_some_iff.mp hline.1).1
  deeper j other hj hfirst hnext := by
    by_cases hbest : j ≤ best
    · exact h.deeper j other hj hfirst hbest
    · have hge := h.blank j other hj (by omega)
      obtain rfl : j = next := by omega
      cases hline.1.symm.trans hj.1
      exact hdeeper
  written := .inr ⟨line, hline⟩
  blank j _ _ hnext := hnext

theorem stop (h : OffsideScan lines first head best next)
    (hnext : ∀ line, Writes lines next line → line.indent ≤ head.indent)
    (hwritten : next = lines.length ∨ ∃ line, Writes lines next line) :
    OffsideBlock lines first head best where
  first_le := h.first_le
  lt_length := Nat.lt_of_lt_of_le h.lt_next h.next_le
  deeper := h.deeper
  written := h.written
  stops j line hj hbest hclear := by
    have hge := h.blank j line hj hbest
    have hlength := (List.getElem?_eq_some_iff.mp hj.1).1
    rcases hwritten with hend | ⟨other, hother⟩
    · omega
    · rcases Nat.lt_or_eq_of_le hge with hlt | rfl
      · exact absurd hother (hclear next other h.lt_next hlt)
      · exact hnext line hj

end OffsideScan

namespace Block

theorem drop_eq_cons {number : Nat} {head : Line} (h : lines[number]? = some head) :
    lines.drop number = head :: lines.drop (number + 1) := by
  obtain ⟨hnumber, rfl⟩ := List.getElem?_eq_some_iff.mp h
  exact List.drop_eq_getElem_cons hnumber

theorem getElem?_of_drop {number : Nat} {head : Line} {others : List Line}
    (h : lines.drop number = head :: others) :
    lines[number]? = some head ∧ lines.drop (number + 1) = others := by
  constructor
  · rw [← Nat.add_zero number, ← List.getElem?_drop, h, List.getElem?_cons_zero]
  · rw [← List.drop_drop, h, List.drop_one, List.tail_cons]

theorem offsideBlock_offsideEnd {first best next : Nat} {head : Line} {others : List Line}
    (hothers : lines.drop next = others) (h : OffsideScan lines first head best next) :
    OffsideBlock lines first head (offsideEnd head.indent best next others) := by
  induction others generalizing best next with
  | nil =>
    have hend : next = lines.length :=
      Nat.le_antisymm h.next_le (List.drop_eq_nil_iff.mp hothers)
    refine h.stop (fun line hline => ?_) (.inl hend)
    rw [Writes, List.getElem?_eq_none (Nat.le_of_eq hend.symm)] at hline
    exact absurd hline.1 (by simp)
  | cons line others ih =>
    obtain ⟨hline, hrest⟩ := getElem?_of_drop hothers
    rw [offsideEnd]
    by_cases hblank : line.isBlank = true
    · rw [if_pos hblank]
      exact ih hrest (h.skip hline hblank)
    · have hwrites : Writes lines next line := ⟨hline, Bool.eq_false_iff.mpr hblank⟩
      rw [if_neg hblank]
      by_cases hdeeper : head.indent < line.indent
      · rw [if_pos hdeeper]
        exact ih hrest (h.take hwrites hdeeper)
      · rw [if_neg hdeeper]
        refine h.stop (fun other hother => ?_) (.inr ⟨line, hwrites⟩)
        cases hline.symm.trans hother.1
        exact Nat.not_lt.mp hdeeper

end Block

theorem offsideBlock_blockEnd (hoffside : s.language.isOffside = true) {i : Nat} {head : Line}
    (hhead : s.lines[i]? = some head) : OffsideBlock s.lines i head (s.blockEnd i) := by
  rw [blockEnd, Block.last, Block.drop_eq_cons hhead]
  simp only [hoffside, if_true]
  exact Block.offsideBlock_offsideEnd rfl (OffsideScan.start hhead)

namespace OffsideBlock

variable {first last : Nat} {head : Line}

theorem le_last (h : OffsideBlock lines first head last) {j : Nat} {line : Line}
    (hj : Writes lines j line)
    (hdeeper : ∀ k other, Writes lines k other → last < k → k ≤ j → head.indent < other.indent) :
    j ≤ last := by
  -- The first written line behind the block would be indented both more and no more than the head.
  induction j using Nat.strongRecOn generalizing line with
  | _ j ih =>
  by_contra hlast
  refine absurd (hdeeper j line hj (by omega) (Nat.le_refl j)) (Nat.not_lt.mpr ?_)
  refine h.stops j line hj (by omega) fun k other hk hkj hother => ?_
  have hle := ih k hkj hother fun m found hm hlastm hmk => hdeeper m found hm hlastm (by omega)
  omega

theorem unique (h : OffsideBlock lines first head last) {last' : Nat}
    (h' : OffsideBlock lines first head last') : last' = last := by
  have hle {m n : Nat} (hm : OffsideBlock lines first head m)
      (hn : OffsideBlock lines first head n) : n ≤ m := by
    have hfirst := hm.first_le
    rcases hn.written with rfl | ⟨line, hline⟩
    · exact hfirst
    · exact hm.le_last hline fun k other hk hmk hkn => hn.deeper k other hk (by omega) hkn
  exact Nat.le_antisymm (hle h h') (hle h' h)

theorem nested (h : OffsideBlock lines first head last) {j last' : Nat} {line : Line}
    (hj : Writes lines j line) (hfirst : first < j) (hlast : j ≤ last)
    (h' : OffsideBlock lines j line last') : last' ≤ last := by
  have hindent := h.deeper j line hj hfirst hlast
  rcases h'.written with rfl | ⟨other, hother⟩
  · exact hlast
  · refine h.le_last hother fun k found hk hlastk hklast => ?_
    exact Nat.lt_trans hindent (h'.deeper k found hk (by omega) hklast)

end OffsideBlock

/-- The block that a line opens in an off-side language ends on the one line at which it can end by
indentation, and holds the blocks of all written lines in it. -/
theorem blockEnd_exact_and_nested (hlanguage : s.language = .python ∨ s.language = .ruby) {i : Nat}
    {head : Line} (hhead : s.lines[i]? = some head) :
    OffsideBlock s.lines i head (s.blockEnd i) ∧
      (∀ last, OffsideBlock s.lines i head last → last = s.blockEnd i) ∧
      ∀ j line, Writes s.lines j line → i < j → j ≤ s.blockEnd i →
        s.blockEnd j ≤ s.blockEnd i := by
  have hoffside : s.language.isOffside = true := by
    rcases hlanguage with hlanguage | hlanguage <;> rw [hlanguage] <;> rfl
  have hblock := offsideBlock_blockEnd hoffside hhead
  refine ⟨hblock, fun last hlast => hblock.unique hlast, ?_⟩
  intro j line hj hfirst hlast
  exact hblock.nested hj hfirst hlast (offsideBlock_blockEnd hoffside hj.1)

theorem blockEnd_exact_and_nested_loop :
    let s := ofCode .python
      "def f(a):\n    for x in a:\n        print(x)\n\n\t\ty = 1\n    return 0\n".toList
    let head : Line := ⟨"def f(a):".toList, 0, 0⟩
    s.language = .python ∧ s.lines[0]? = some head ∧ OffsideBlock s.lines 0 head (s.blockEnd 0) ∧
      (∀ last, OffsideBlock s.lines 0 head last → last = s.blockEnd 0) ∧
      ∀ j line, Writes s.lines j line → 0 < j → j ≤ s.blockEnd 0 →
        s.blockEnd j ≤ s.blockEnd 0 := by
  intro s head
  have hhead : s.lines[0]? = some head := by decide
  exact ⟨rfl, hhead, blockEnd_exact_and_nested (.inl rfl) hhead⟩

/-! ## Braces -/

namespace Line

/-- Somewhere along the line as many braces are open as the depth says. -/
def Reaches (depth : Nat) (line : Line) : Prop :=
  ∃ past, past <+: line.text ∧ depthBehind line.depth past = depth

theorem le_braceStep (depth : Nat) (c : Char) : depth - 1 ≤ braceStep depth c := by
  rw [braceStep]
  split_ifs <;> omega

theorem exists_depthBehind_eq {depth start : Nat} {t : Text} (hstart : depth ≤ start)
    (hbehind : depthBehind start t ≤ depth) :
    ∃ past, past <+: t ∧ depthBehind start past = depth := by
  induction t generalizing start with
  | nil => exact ⟨[], List.prefix_rfl, Nat.le_antisymm hbehind hstart⟩
  | cons c t ih =>
    by_cases heq : start = depth
    · exact ⟨[], List.nil_prefix, heq⟩
    · have hstep := le_braceStep start c
      obtain ⟨past, hpast, hdepth⟩ := @ih (braceStep start c) (by omega) hbehind
      exact ⟨c :: past, (List.prefix_cons_inj c).mpr hpast, hdepth⟩

structure Linked (lines : List Line) : Prop where
  depthAfter_eq : ∀ line ∈ lines, line.depthAfter = depthBehind line.depth line.text
  next_depth : ∀ j a b, lines[j]? = some a → lines[j + 1]? = some b → b.depth = a.depthAfter

theorem linked_table (depth : Nat) (raws : List Text) : Linked (table depth raws) := by
  induction raws generalizing depth with
  | nil => exact ⟨by simp [table], by simp [table]⟩
  | cons raw raws ih =>
    rw [table]
    refine ⟨List.forall_mem_cons.mpr ⟨rfl, (ih _).depthAfter_eq⟩, ?_⟩
    intro j a b ha hb
    cases j with
    | zero =>
      cases ha
      cases raws with
      | nil => cases hb
      | cons next raws =>
        cases hb
        rfl
    | succ j => exact (ih _).next_depth j a b ha hb

end Line

/-- The block of a head on line `first` that begins at `depth` ends on line `last`: the first line
behind it that ends no deeper, or the last of all. -/
structure BraceBlock (lines : List Line) (first depth last : Nat) : Prop where
  first_le : first ≤ last
  lt_length : last < lines.length
  deeper : ∀ j line, lines[j]? = some line → first ≤ j → j < last → depth < line.depthAfter
  ends : last + 1 = lines.length ∨ ∃ line, lines[last]? = some line ∧ line.depthAfter ≤ depth

/-- Line `last` is the first behind line `first` along which the depth comes back to `depth`, or the
last of all if there is none. -/
structure MatchingLine (lines : List Line) (first depth last : Nat) : Prop where
  first_le : first ≤ last
  lt_length : last < lines.length
  open_before : ∀ j line, lines[j]? = some line → first < j → j < last → ¬ line.Reaches depth
  closes : last + 1 = lines.length ∨
    first < last ∧ ∃ line, lines[last]? = some line ∧ line.Reaches depth

namespace Block

theorem braceBlock_braceEnd (hlinked : Line.Linked lines) {first depth best : Nat}
    {others : List Line} (hothers : lines.drop (best + 1) = others) (hfirst : first ≤ best)
    (hbest : best < lines.length)
    (hdeeper : ∀ j line, lines[j]? = some line → first ≤ j → j < best → depth < line.depthAfter) :
    BraceBlock lines first depth (braceEnd depth best (best + 1) others) := by
  induction others generalizing best with
  | nil =>
    have hend := List.drop_eq_nil_iff.mp hothers
    exact ⟨hfirst, hbest, hdeeper, .inl (Nat.le_antisymm hbest hend)⟩
  | cons line others ih =>
    obtain ⟨hline, hrest⟩ := getElem?_of_drop hothers
    have hlast : lines[best]? = some lines[best] := List.getElem?_eq_getElem hbest
    have hlink := hlinked.next_depth best _ _ hlast hline
    rw [braceEnd]
    by_cases hopen : depth < line.depth
    · rw [if_pos hopen]
      refine ih hrest (by omega) (List.getElem?_eq_some_iff.mp hline).1 fun j other hj hfj hjb => ?_
      by_cases hj' : j < best
      · exact hdeeper j other hj hfj hj'
      · obtain rfl : j = best := by omega
        cases hlast.symm.trans hj
        omega
    · rw [if_neg hopen]
      exact ⟨hfirst, hbest, hdeeper, .inr ⟨_, hlast, by omega⟩⟩

end Block

theorem linked_ofCode (l : Language) (code : Text) : Line.Linked (ofCode l code).lines :=
  Line.linked_table 0 _

theorem braceBlock_blockEnd (hlinked : Line.Linked s.lines)
    (hbraces : s.language.isOffside = false) {i : Nat} {head : Line}
    (hhead : s.lines[i]? = some head) (hopen : head.depth < head.depthAfter) :
    BraceBlock s.lines i head.depth (s.blockEnd i) := by
  rw [blockEnd, Block.last, Block.drop_eq_cons hhead]
  simp only [hbraces, if_pos hopen, Bool.false_eq_true, if_false]
  exact Block.braceBlock_braceEnd hlinked rfl (Nat.le_refl i) (List.getElem?_eq_some_iff.mp hhead).1
    fun j _ _ hij hji => absurd hij (Nat.not_le.mpr hji)

namespace BraceBlock

variable {first depth last : Nat}

theorem depth_lt (h : BraceBlock lines first depth last) (hlinked : Line.Linked lines) {j : Nat}
    {line : Line} (hline : lines[j]? = some line) (hfirst : first < j) (hlast : j ≤ last) :
    depth < line.depth := by
  cases j with
  | zero => omega
  | succ j =>
    have hlength := (List.getElem?_eq_some_iff.mp hline).1
    have hbefore : lines[j]? = some lines[j] := List.getElem?_eq_getElem (by omega)
    rw [hlinked.next_depth j _ _ hbefore hline]
    exact h.deeper j _ hbefore (by omega) (by omega)

theorem reaches (h : BraceBlock lines first depth last) (hlinked : Line.Linked lines)
    (hfirst : first < last) {line : Line} (hline : lines[last]? = some line)
    (hends : line.depthAfter ≤ depth) : line.Reaches depth := by
  have hstart := h.depth_lt hlinked hline hfirst (Nat.le_refl last)
  rw [hlinked.depthAfter_eq line (List.mem_of_getElem? hline)] at hends
  exact Line.exists_depthBehind_eq (Nat.le_of_lt hstart) hends

theorem exists_matchingLine (h : BraceBlock lines first depth last) :
    ∃ m, MatchingLine lines first depth m := by
  classical
  by_cases hreaches : ∃ j, first < j ∧ ∃ line, lines[j]? = some line ∧ line.Reaches depth
  · obtain ⟨hfirst, line, hline, hdepth⟩ := Nat.find_spec hreaches
    refine ⟨Nat.find hreaches, Nat.le_of_lt hfirst, (List.getElem?_eq_some_iff.mp hline).1, ?_,
      .inr ⟨hfirst, line, hline, hdepth⟩⟩
    intro j other hj hfj hjm hother
    exact Nat.find_min hreaches hjm ⟨hfj, other, hj, hother⟩
  · have hlength := h.lt_length
    have hfirst := h.first_le
    refine ⟨lines.length - 1, by omega, by omega, ?_, .inl (by omega)⟩
    intro j line hj hfj _ hline
    exact hreaches ⟨j, hfj, line, hj, hline⟩

theorem matchingLine_le (h : BraceBlock lines first depth last) (hlinked : Line.Linked lines)
    {head : Line} (hhead : lines[first]? = some head) (hopen : depth < head.depthAfter) {m : Nat}
    (hm : MatchingLine lines first depth m) : m ≤ last := by
  by_contra hlast
  have hlength := hm.lt_length
  rcases h.ends with hend | ⟨line, hline, hends⟩
  · omega
  · rcases Nat.lt_or_eq_of_le h.first_le with hfirst | rfl
    · exact hm.open_before last line hline hfirst (by omega) (h.reaches hlinked hfirst hline hends)
    · cases hhead.symm.trans hline
      omega

theorem eq_matchingLine_iff (h : BraceBlock lines first depth last) {m : Nat}
    (hm : MatchingLine lines first depth m) (hle : m ≤ last) :
    last = m ↔ m + 1 = lines.length ∨ ∃ line, lines[m]? = some line ∧ line.depthAfter ≤ depth := by
  constructor
  · rintro rfl
    exact h.ends
  · intro hends
    by_contra hne
    have hlength := h.lt_length
    rcases hends with hend | ⟨line, hline, hdepth⟩
    · omega
    · have hdeeper := h.deeper m line hline hm.first_le (by omega)
      omega

end BraceBlock

/-- The block that a line opens by a brace ends on the first line behind it that ends no deeper than
the line begins. This is the line of the matching brace, or a later one exactly if lines follow that
one and it leaves more open than the head found. -/
theorem blockEnd_eq_matchingLine_iff (l : Language) (code : Text) {i : Nat} {head : Line}
    (hbraces : (ofCode l code).language.isOffside = false)
    (hhead : (ofCode l code).lines[i]? = some head) (hopen : head.depth < head.depthAfter) :
    let s := ofCode l code
    BraceBlock s.lines i head.depth (s.blockEnd i) ∧
      ∃ m, MatchingLine s.lines i head.depth m ∧ m ≤ s.blockEnd i ∧
        (s.blockEnd i = m ↔ m + 1 = s.lines.length ∨
          ∃ line, s.lines[m]? = some line ∧ line.depthAfter ≤ head.depth) := by
  intro s
  have hlinked := linked_ofCode l code
  have hblock := braceBlock_blockEnd hlinked hbraces hhead hopen
  obtain ⟨m, hm⟩ := hblock.exists_matchingLine
  have hle := hblock.matchingLine_le hlinked hhead hopen hm
  exact ⟨hblock, m, hm, hle, hblock.eq_matchingLine_iff hm hle⟩

def chainedCalls : Text :=
  "xs.filter((x) => \x7b\n  return x > 0;\n\x7d).map((x) => \x7b\n  return 2 * x;\n\x7d);".toList

theorem blockEnd_eq_matchingLine_iff_chained :
    let s := ofCode .javaScript chainedCalls
    let head : Line := ⟨"xs.filter((x) => \x7b".toList, 0, 1⟩
    s.language.isOffside = false ∧ s.lines[0]? = some head ∧ head.depth < head.depthAfter ∧
      BraceBlock s.lines 0 head.depth (s.blockEnd 0) ∧
      ∃ m, MatchingLine s.lines 0 head.depth m ∧ m ≤ s.blockEnd 0 ∧
        (s.blockEnd 0 = m ↔ m + 1 = s.lines.length ∨
          ∃ line, s.lines[m]? = some line ∧ line.depthAfter ≤ head.depth) := by
  intro s head
  have hhead : s.lines[0]? = some head := by decide
  have hopen : head.depth < head.depthAfter := by decide
  exact ⟨rfl, hhead, hopen, blockEnd_eq_matchingLine_iff .javaScript chainedCalls rfl hhead hopen⟩

theorem not_forall_matchingLine_blockEnd :
    ¬ ∀ (l : Language) (code : Text) (i : Nat) (head : Line),
      (ofCode l code).language.isOffside = false → (ofCode l code).lines[i]? = some head →
        head.depth < head.depthAfter →
          MatchingLine (ofCode l code).lines i head.depth ((ofCode l code).blockEnd i) := by
  intro h
  have hmatching := h .javaScript chainedCalls 0 ⟨"xs.filter((x) => \x7b".toList, 0, 1⟩ rfl
    (by decide) (by decide)
  have hend : (ofCode .javaScript chainedCalls).blockEnd 0 = 4 := by decide
  rw [hend] at hmatching
  refine hmatching.open_before 2 ⟨"\x7d).map((x) => \x7b".toList, 1, 1⟩ (by decide)
    (by decide) (by decide) ⟨"\x7d".toList, ?_, ?_⟩ <;> decide

end Asymptote.Snippet
