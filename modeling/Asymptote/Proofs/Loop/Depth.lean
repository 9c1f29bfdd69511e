import Asymptote.Proofs.Loop.Forest
import Asymptote.Proofs.Snippet.Block
import Mathlib.Data.List.Induction

/-! # Lines and depths of loops
Where loops begin, and how many of them stand around a loop. -/
namespace Asymptote

/-! ## The loops of one line
A snippet has exactly the loops that its lines show. A line shows a loop by keyword at its start,
comprehensions, or else iteration calls, which alone share the block that the line opens. -/

namespace Loop

variable {s : Snippet} {a l : Loop} {number : Nat} {line : Snippet.Line}

theorem mem_detect_iff : l ∈ detect s ↔
    ∃ line, s.lines[l.line]? = some line ∧ l ∈ ofLine s l.line line := by
  simp only [detect, List.mem_flatMap, Prod.exists, List.mem_zipIdx_iff_getElem?]
  constructor
  · rintro ⟨line, number, hline, hl⟩
    cases line_of_mem_ofLine hl
    exact ⟨line, hline, hl⟩
  · rintro ⟨line, hline, hl⟩
    exact ⟨line, l.line, hline, hl⟩

theorem isBlank_of_mem_ofLine (h : l ∈ ofLine s number line) : line.isBlank = false := by
  rw [ofLine] at h
  split at h
  · cases h
  next hblank => exact Bool.eq_false_iff.mpr hblank

theorem filter_line_ofLine (i number : Nat) (line : Snippet.Line) :
    (ofLine s i line).filter (·.line = number) = if i = number then ofLine s i line else [] := by
  split
  next heq => exact List.filter_eq_self.mpr fun l hl => by simp [line_of_mem_ofLine hl, heq]
  next hne => exact List.filter_eq_nil_iff.mpr fun l hl => by simp [line_of_mem_ofLine hl, hne]

theorem filter_line_flatMap (lines : List Snippet.Line) (start : Nat) :
    ((lines.zipIdx start).flatMap fun (line, i) => ofLine s i line).filter (·.line = number) =
      if start ≤ number then (lines[number - start]?.map (ofLine s number)).getD [] else [] := by
  induction lines generalizing start with
  | nil => simp
  | cons line lines ih =>
    rw [List.zipIdx_cons, List.flatMap_cons, List.filter_append, filter_line_ofLine, ih]
    rcases Nat.lt_trichotomy start number with hlt | rfl | hlt
    · obtain ⟨k, rfl⟩ := Nat.exists_eq_add_of_lt hlt
      have hbefore : start + k + 1 - (start + 1) = k := by omega
      have hfrom : start + k + 1 - start = k + 1 := by omega
      have hle : start + 1 ≤ start + k + 1 := by omega
      rw [hbefore, hfrom, if_neg (Nat.ne_of_lt hlt), if_pos hle, if_pos (Nat.le_of_lt hlt)]
      simp
    · simp
    · rw [if_neg (Nat.ne_of_gt hlt), if_neg (by omega), if_neg (by omega), List.nil_append]

theorem filter_line_detect (hline : s.lines[number]? = some line) :
    (detect s).filter (·.line = number) = ofLine s number line := by
  simp [detect, filter_line_flatMap, hline]

inductive Shown (s : Snippet) (number : Nat) (line : Snippet.Line) (l : Loop) : Prop
  | keyword (kind : LoopKind) (column : l.column = 0)
      (last : l.last = if kind = .comprehension then number else s.blockEnd number)
  | comprehension (kind : l.kind = .comprehension) (last : l.last = number)
  | call (kinds : ∀ a ∈ ofLine s number line, a.kind = .iteration)
      (last : l.last = number ∨ l.last = s.blockEnd number)

theorem shown_of_mem_ofLine (h : l ∈ ofLine s number line) : Shown s number line l := by
  simp only [ofLine] at h
  split at h
  · cases h
  next hblank =>
    split at h
    next hnone =>
      refine .call ?_ ?_
      · intro a ha
        simp only [ofLine, hblank, hnone] at ha
        obtain ⟨c, -, rfl⟩ := List.mem_map.mp ha
        rfl
      · obtain ⟨c, -, rfl⟩ := List.mem_map.mp h
        dsimp only [make]
        split
        · exact .inr rfl
        · exact .inl rfl
    · rcases List.mem_append.mp h with hl | hl
      · rw [keywordLoops] at hl
        split at hl
        · cases hl
        next kind _ =>
          cases List.mem_singleton.mp hl
          exact .keyword kind rfl rfl
      · rw [comprehensions] at hl
        split at hl
        · obtain ⟨c, -, rfl⟩ := List.mem_map.mp hl
          exact .comprehension rfl rfl
        · cases hl

theorem last_of_mem_ofLine (h : l ∈ ofLine s number line) :
    l.last = number ∨ l.last = s.blockEnd number := by
  rcases shown_of_mem_ofLine h with ⟨kind, -, hlast⟩ | ⟨-, hlast⟩ | ⟨-, hlast⟩
  · split at hlast
    · exact .inl hlast
    · exact .inr hlast
  · exact .inl hlast
  · exact hlast

end Loop

/-! ## Depth by indentation
The depth of a loop is counted along its parents, each the last loop in front of it that holds it.
Where the loops that hold another hold each other, as blocks by indentation do, this is the number
of all loops around it. -/

namespace Loop

variable {s : Snippet} {outer inner : Loop}

/-- The inner loop begins in the body of the outer one, or both are comprehensions of one line and
the outer one comes first. -/
def Encloses (outer inner : Loop) : Prop :=
  inner.line ∈ outer.body ∨ outer.line = inner.line ∧ outer.kind = .comprehension ∧
    inner.kind = .comprehension ∧ outer.column < inner.column

instance (outer inner : Loop) : Decidable (outer.Encloses inner) :=
  inferInstanceAs (Decidable (_ ∨ _))

theorem holdsLine_iff {number : Nat} :
    outer.holdsLine number = true ↔ outer.line < number ∧ number ≤ outer.last := by
  simp [holdsLine]

theorem holds_iff : outer.holds inner = true ↔ outer.Encloses inner := by
  rw [Encloses, mem_body, holds]
  split
  next heq => simp [holdsLine, heq, and_assoc]
  next hne => simp [hne]

theorem place_lt_of_holds (h : outer.holds inner = true) : outer.place < inner.place := by
  rw [place, place, Prod.Lex.toLex_lt_toLex]
  rcases holds_iff.mp h with hbody | ⟨hline, -, -, hcolumn⟩
  · exact .inl (holdsLine_iff.mp (mem_body.mp hbody)).1
  · exact .inr ⟨hline, hcolumn⟩

/-- A loop in front of one that holds another holds both or neither. -/
def Laminar (ls : List Loop) : Prop :=
  ∀ a ∈ ls, ∀ b ∈ ls, ∀ c, a.place < b.place → b.holds c = true → a.holds b = a.holds c

theorem last_of_holdsLine (hl : outer ∈ detect s) {number : Nat}
    (h : outer.holdsLine number = true) : outer.last = s.blockEnd outer.line := by
  obtain ⟨line, -, hl⟩ := mem_detect_iff.mp hl
  obtain ⟨hlt, hle⟩ := holdsLine_iff.mp h
  rcases last_of_mem_ofLine hl with hlast | hlast
  · omega
  · exact hlast

theorem blockEnd_le_last (hoffside : s.language.isOffside = true) (houter : outer ∈ detect s)
    (hinner : inner ∈ detect s) (h : outer.holdsLine inner.line = true) :
    s.blockEnd inner.line ≤ outer.last := by
  have hextent := last_of_holdsLine houter h
  obtain ⟨hlt, hle⟩ := holdsLine_iff.mp h
  obtain ⟨head, hhead, -⟩ := mem_detect_iff.mp houter
  obtain ⟨line, hline, hshown⟩ := mem_detect_iff.mp hinner
  rw [hextent] at hle ⊢
  exact (Snippet.offsideBlock_blockEnd hoffside hhead).nested
    ⟨hline, isBlank_of_mem_ofLine hshown⟩ hlt hle (Snippet.offsideBlock_blockEnd hoffside hline)

theorem iteration_of_holdsLine (ha : outer ∈ detect s) (hb : inner ∈ detect s)
    (hline : outer.line = inner.line) (hcolumn : outer.column < inner.column) {number : Nat}
    (h : inner.holdsLine number = true) : outer.kind = .iteration ∧ inner.kind = .iteration := by
  obtain ⟨line, hget, hinner⟩ := mem_detect_iff.mp hb
  obtain ⟨line', hget', houter⟩ := mem_detect_iff.mp ha
  rw [hline] at hget' houter
  cases hget.symm.trans hget'
  obtain ⟨hlt, hle⟩ := holdsLine_iff.mp h
  cases shown_of_mem_ofLine hinner with
  | keyword _ column => omega
  | comprehension _ last => omega
  | call kinds => exact ⟨kinds outer houter, kinds inner hinner⟩

theorem laminar_detect (hoffside : s.language.isOffside = true)
    (hcalls : ∀ a ∈ detect s, ∀ b ∈ detect s, a.kind = .iteration → b.kind = .iteration →
      a.line = b.line → a = b) : Laminar (detect s) := by
  intro a ha b hb c hab hbc
  rw [place, place, Prod.Lex.toLex_lt_toLex] at hab
  rcases holds_iff.mp hbc with hbody | ⟨hline, hkind, hkind', hcolumn⟩
  · have hinside := mem_body.mp hbody
    obtain ⟨hlt, hle⟩ := holdsLine_iff.mp hinside
    rcases hab with hab | ⟨hab, hcolumn⟩
    · rw [holds, holds, if_neg (Nat.ne_of_lt hab), if_neg (by omega), Bool.eq_iff_iff]
      constructor
      · intro hholds
        have hreach := blockEnd_le_last hoffside ha hb hholds
        rw [← last_of_holdsLine hb hinside] at hreach
        exact holdsLine_iff.mpr ⟨by omega, by omega⟩
      · intro hholds
        have hreach := (holdsLine_iff.mp hholds).2
        exact holdsLine_iff.mpr ⟨hab, by omega⟩
    · obtain ⟨hcall, hcall'⟩ := iteration_of_holdsLine ha hb hab hcolumn hinside
      obtain rfl := hcalls a ha b hb hcall hcall' hab
      omega
  · rw [Bool.eq_iff_iff, holds_iff, holds_iff, Encloses, Encloses, ← hline]
    have hcolumns : a.line = b.line → a.column < b.column := by omega
    simp only [hkind, hkind', true_and]
    refine or_congr_right (and_congr_right fun heq => ?_)
    have hfirst := hcolumns heq
    simp [hfirst, hfirst.trans hcolumn]

theorem holds_eq_false_of_place_le (h : inner.place ≤ outer.place) : outer.holds inner = false :=
  Bool.eq_false_iff.mpr fun hholds => not_lt_of_ge h (place_lt_of_holds hholds)

theorem countP_holds_of_last {front back : List Loop}
    (hordered : (front ++ outer :: back).Pairwise fun a b => a.place < b.place)
    (hlaminar : ∀ a ∈ front, a.holds outer = a.holds inner) (hholds : outer.holds inner = true)
    (hfree : ∀ other ∈ back, other.holds inner = false) :
    (front ++ outer :: back).countP (·.holds inner) =
      (front ++ outer :: back).countP (·.holds outer) + 1 := by
  have hbehind := (List.pairwise_cons.mp (List.pairwise_append.mp hordered).2.1).1
  have hfront : front.countP (·.holds outer) = front.countP (·.holds inner) :=
    List.countP_congr fun a ha => by rw [hlaminar a ha]
  have hback : back.countP (·.holds inner) = 0 :=
    List.countP_eq_zero.mpr fun other hother => by simp [hfree other hother]
  have hback' : back.countP (·.holds outer) = 0 :=
    List.countP_eq_zero.mpr fun other hother => by
      simp [holds_eq_false_of_place_le (hbehind other hother).le]
  have hself : outer.holds outer = false := holds_eq_false_of_place_le le_rfl
  simp [hfront, hback, hback', hholds, hself]

end Loop

namespace LoopForest

variable {s : Snippet}

theorem grow_concat (s : Snippet) (ls : List Loop) (l : Loop) :
    grow s (ls ++ [l]) = grow s ls ++ [nest s (grow s ls) l] := by
  rw [grow, List.foldl_append, List.foldl_cons, List.foldl_nil, ← grow]

theorem parentAmong?_concat (earlier : LoopForest) (last : NestedLoop) (l : Loop) :
    parentAmong? (earlier ++ [last]) l =
      if last.holds l then some earlier.length else parentAmong? earlier l := by
  rw [parentAmong?, parentAmong?, List.zipIdx_append, List.reverse_append]
  simp only [List.zipIdx_cons, List.zipIdx_nil, List.reverse_singleton, List.singleton_append,
    List.find?_cons, Nat.zero_add]
  cases last.holds l <;> rfl

inductive Surrounded (earlier : LoopForest) (l : Loop) : Prop
  | outside (parent : parentAmong? earlier l = none)
      (free : ∀ other ∈ earlier, other.holds l = false)
  | inside (front : LoopForest) (outer : NestedLoop) (back : LoopForest)
      (split : earlier = front ++ outer :: back)
      (parent : parentAmong? earlier l = some front.length) (holds : outer.holds l = true)
      (free : ∀ other ∈ back, other.holds l = false)

theorem surrounded (earlier : LoopForest) (l : Loop) : Surrounded earlier l := by
  induction earlier using List.reverseRecOn with
  | nil => exact .outside rfl (by simp)
  | append_singleton earlier last ih =>
    have hparent := parentAmong?_concat earlier last l
    cases hlast : last.holds l with
    | true =>
      rw [if_pos hlast] at hparent
      exact .inside earlier last [] rfl hparent hlast (by simp)
    | false =>
      rw [if_neg (by simp [hlast])] at hparent
      cases ih with
      | outside parent free =>
        exact .outside (hparent.trans parent) (by simpa [or_imp, forall_and] using ⟨free, hlast⟩)
      | inside front outer back split parent holds free =>
        exact .inside front outer (back ++ [last]) (by simp [split]) (hparent.trans parent) holds
          (by simpa [or_imp, forall_and] using ⟨free, hlast⟩)

open Loop in
/-- Among loops in order of which the earlier hold all or nothing of the later, depth counts the
loops that hold. -/
theorem depth_grow {ls : List Loop} (hordered : ls.Pairwise fun a b => a.place < b.place)
    (hlaminar : Laminar ls) :
    ∀ l ∈ grow s ls, l.depth = 1 + ls.countP (·.holds l.toLoop) := by
  induction ls using List.reverseRecOn with
  | nil => simp [grow]
  | append_singleton ls new ih =>
    obtain ⟨hls, -, hnew⟩ := List.pairwise_append.mp hordered
    have hdepths := ih hls fun a ha b hb =>
      hlaminar a (List.mem_append_left _ ha) b (List.mem_append_left _ hb)
    have hloops : (grow s ls).map (·.toLoop) = ls := loops_grow s ls
    have hcount (l : Loop) (hl : l.place ≤ new.place) :
        (ls ++ [new]).countP (·.holds l) = ls.countP (·.holds l) := by
      simp [holds_eq_false_of_place_le hl]
    rw [grow_concat, List.forall_mem_append, List.forall_mem_singleton, toLoop_nest,
      hcount new le_rfl]
    constructor
    · intro l hl
      have hmem : l.toLoop ∈ ls := hloops ▸ List.mem_map_of_mem hl
      rw [hcount l.toLoop (hnew _ hmem new (List.mem_singleton_self new)).le]
      exact hdepths l hl
    · cases surrounded (grow s ls) new with
      | outside parent free =>
        have hzero : ls.countP (·.holds new) = 0 := by
          rw [← hloops, List.countP_map, List.countP_eq_zero]
          simpa using free
        simp [nest, parent, hzero]
      | inside front outer back split parent holds free =>
        have hget : (grow s ls)[front.length]? = some outer := by simp [split]
        have houter := hdepths outer (List.mem_of_getElem? hget)
        have hdepth : (nest s (grow s ls) new).depth = outer.depth + 1 := by
          simp [nest, parent, hget]
        have hsplit : ls = front.map (·.toLoop) ++ outer.toLoop :: back.map (·.toLoop) := by
          rw [← hloops, split, List.map_append, List.map_cons]
        have hcounts : ls.countP (·.holds new) = ls.countP (·.holds outer.toLoop) + 1 := by
          have hbefore := (List.pairwise_append.mp (hsplit ▸ hls)).2.2
          rw [hsplit] at hls hlaminar ⊢
          refine countP_holds_of_last hls (fun a ha => ?_) holds (by simpa using free)
          exact hlaminar a (by simp [ha]) outer.toLoop (by simp) new
            (hbefore a ha _ List.mem_cons_self) holds
        omega

/-- In an off-side language, where no line has two iteration calls, the depth of a loop is one more
than the number of loops that enclose it. -/
theorem depth_eq_enclosing (s : Snippet) (hlanguage : s.language = .python ∨ s.language = .ruby)
    (hcalls : ∀ a ∈ ofSnippet s, ∀ b ∈ ofSnippet s, a.kind = .iteration → b.kind = .iteration →
      a.line = b.line → a = b) :
    ∀ l ∈ ofSnippet s,
      l.depth = 1 + (ofSnippet s).countP fun outer => outer.Encloses l.toLoop := by
  have hoffside : s.language.isOffside = true := by
    rcases hlanguage with hlanguage | hlanguage <;> rw [hlanguage] <;> rfl
  have hloops : (ofSnippet s).map (·.toLoop) = Loop.detect s := loops_grow s _
  have hlaminar : Loop.Laminar (Loop.detect s) := by
    refine Loop.laminar_detect hoffside ?_
    rw [← hloops, List.forall_mem_map]
    intro a ha
    rw [List.forall_mem_map]
    exact fun b hb hkind hkind' hline => congrArg _ (hcalls a ha b hb hkind hkind' hline)
  intro l hl
  rw [depth_grow (Loop.pairwise_place_detect s) hlaminar l hl, ← hloops, List.countP_map]
  congr 1
  exact List.countP_congr fun outer _ => by simp [Loop.holds_iff]

theorem depth_eq_enclosing_comprehension :
    let s := Snippet.ofCode .python
      "for x in xs:\n    ys = [y for y in x for z in y]\n    ys.map(print)\nprint(ys)\n".toList
    s.language = .python ∧
      (∀ a ∈ ofSnippet s, ∀ b ∈ ofSnippet s, a.kind = .iteration → b.kind = .iteration →
        a.line = b.line → a = b) ∧
      ∀ l ∈ ofSnippet s,
        l.depth = 1 + (ofSnippet s).countP fun outer => outer.Encloses l.toLoop := by
  intro s
  have hcalls : ∀ a ∈ ofSnippet s, ∀ b ∈ ofSnippet s, a.kind = .iteration → b.kind = .iteration →
      a.line = b.line → a = b := by
    decide
  exact ⟨rfl, hcalls, depth_eq_enclosing s (.inl rfl) hcalls⟩

end LoopForest

end Asymptote
