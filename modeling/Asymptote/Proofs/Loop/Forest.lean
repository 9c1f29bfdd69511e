import Asymptote.Proofs.Order
import Mathlib.Data.List.Basic
import Mathlib.Data.Prod.Lex

/-! # The shape of the loop forest
A loop stands outside of the loops in front of it, or inside one of them. So the loop around another
is a different one, only loops inside others are amortized, and no depth is zero. -/
namespace Asymptote
namespace Loop

variable {s : Snippet} {l : Loop}

def MadeOn (s : Snippet) (number : Nat) (l : Loop) : Prop :=
  ∃ kind last column text, l = make s kind number last column text

variable {number : Nat} {line : Snippet.Line}

theorem eq_make_of_mem_ofLine (h : l ∈ ofLine s number line) :
    ∃ kind last column, l = make s kind number last column (Text.trim line.text) := by
  simp only [ofLine] at h
  split at h
  · cases h
  · split at h
    · obtain ⟨column, -, rfl⟩ := List.mem_map.mp h
      exact ⟨_, _, _, rfl⟩
    · rcases List.mem_append.mp h with hl | hl
      · rw [keywordLoops] at hl
        split at hl
        · cases hl
        · exact ⟨_, _, _, List.mem_singleton.mp hl⟩
      · rw [comprehensions] at hl
        split at hl
        · obtain ⟨column, -, rfl⟩ := List.mem_map.mp hl
          exact ⟨_, _, _, rfl⟩
        · cases hl

theorem madeOn_of_mem_ofLine (h : l ∈ ofLine s number line) : MadeOn s number l := by
  obtain ⟨kind, last, column, heq⟩ := eq_make_of_mem_ofLine h
  exact ⟨kind, last, column, _, heq⟩

theorem kind_of_exitsEarly (h : l ∈ detect s) (hexit : l.exitsEarly = true) :
    l.kind = .forLoop ∨ l.kind = .whileLoop := by
  obtain ⟨⟨line, number⟩, _, hl⟩ := List.mem_flatMap.mp h
  obtain ⟨kind, last, column, text, rfl⟩ := madeOn_of_mem_ofLine hl
  have hkind : (kind = .forLoop || kind = .whileLoop : Bool) = true :=
    (Bool.and_eq_true_iff.mp hexit).1
  simpa [make] using hkind

end Loop

namespace LoopForest

variable {s : Snippet} {f : LoopForest} {index : Nat} {l : NestedLoop}

/-- A loop stands outside of the loops in front of it, or inside one of them and one deeper. -/
inductive Placed (earlier : LoopForest) (l : NestedLoop) : Prop
  | outside (parent : l.parent? = none) (amortization : l.amortization? = none)
      (depth : l.depth = 1) (credited : l.creditedDepth = 1)
  | inside (outer : NestedLoop) (mem : outer ∈ earlier) (parent : l.parent?.isSome = true)
      (depth : l.depth = outer.depth + 1)
      (credited : l.creditedDepth =
        outer.creditedDepth + if l.amortization?.isNone then 1 else 0)

inductive Stands (s : Snippet) (f : LoopForest) (index : Nat) (l : NestedLoop) : Prop
  | outside (parent : l.parent? = none) (amortization : l.amortization? = none)
      (depth : l.depth = 1) (credited : l.creditedDepth = 1)
  | inside (p : Nat) (outer : NestedLoop) (parent : l.parent? = some p) (lt : p < index)
      (get : f[p]? = some outer) (holds : outer.holds l.toLoop = true)
      (amortization : l.amortization? = Loop.amortization? s l.toLoop outer.toLoop)
      (depth : l.depth = outer.depth + 1)
      (credited : l.creditedDepth =
        outer.creditedDepth + if l.amortization?.isNone then 1 else 0)

theorem parentAmong?_eq_some {earlier : LoopForest} {inner : Loop} {p : Nat} {outer : NestedLoop}
    (hparent : parentAmong? earlier inner = some p) (hget : earlier[p]? = some outer) :
    outer.holds inner = true := by
  obtain ⟨⟨found, place⟩, hfound, rfl⟩ := Option.map_eq_some_iff.mp hparent
  have hmem := List.mem_reverse.mp (List.mem_of_find?_eq_some hfound)
  rw [List.mem_zipIdx_iff_getElem?] at hmem
  cases hmem.symm.trans hget
  simpa using List.find?_some hfound

theorem stands_nest (s : Snippet) (earlier : LoopForest) (inner : Loop) :
    Stands s earlier earlier.length (nest s earlier inner) := by
  rw [nest]
  cases houter : (parentAmong? earlier inner).bind (earlier[·]?) with
  | none => exact .outside rfl rfl rfl rfl
  | some outer =>
    obtain ⟨p, hparent, hget⟩ := Option.bind_eq_some_iff.mp houter
    exact .inside p outer hparent (List.getElem?_eq_some_iff.mp hget).1 hget
      (parentAmong?_eq_some hparent hget) rfl rfl rfl

theorem placed_nest (s : Snippet) (earlier : LoopForest) (l : Loop) :
    Placed earlier (nest s earlier l) := by
  cases stands_nest s earlier l with
  | outside parent amortization depth credited =>
    exact .outside parent amortization depth credited
  | inside p outer parent lt get holds amortization depth credited =>
    exact .inside outer (List.mem_of_getElem? get) (by simp [parent]) depth credited

inductive Nested : LoopForest → Prop
  | nil : Nested []
  | concat {f : LoopForest} {l : NestedLoop} (h : Nested f) (hl : Placed f l) : Nested (f ++ [l])

theorem nested_grow (s : Snippet) (loops : List Loop) : Nested (grow s loops) :=
  List.foldlRecOn loops _ .nil fun earlier h l _ => h.concat (placed_nest s earlier l)

theorem nested_ofSnippet (s : Snippet) : Nested (ofSnippet s) :=
  nested_grow s (Loop.detect s)

theorem toLoop_nest (s : Snippet) (earlier : LoopForest) (l : Loop) :
    (nest s earlier l).toLoop = l := by
  rw [nest]
  split <;> rfl

theorem loops_grow (s : Snippet) (detected : List Loop) : loops (grow s detected) = detected := by
  have hfold (earlier : LoopForest) :
      loops (detected.foldl (fun earlier l => earlier ++ [nest s earlier l]) earlier) =
        loops earlier ++ detected := by
    induction detected generalizing earlier with
    | nil => simp
    | cons l detected ih =>
      rw [List.foldl_cons, ih]
      simp [loops, toLoop_nest]
  exact hfold []

theorem toLoop_mem_detect (h : l ∈ ofSnippet s) : l.toLoop ∈ Loop.detect s := by
  rw [← loops_grow s (Loop.detect s)]
  exact List.mem_map_of_mem h

theorem kind_of_exitsEarly (h : l ∈ ofSnippet s) (hexit : l.exitsEarly = true) :
    l.kind = .forLoop ∨ l.kind = .whileLoop :=
  Loop.kind_of_exitsEarly (toLoop_mem_detect h) hexit

theorem exitsEarly_of_summary (h : (ofSnippet s).summary.exitsEarly = true) :
    ∀ l ∈ ofSnippet s, (l.kind = .forLoop ∨ l.kind = .whileLoop) ∧ l.exitsEarly = true := by
  intro l hl
  have hall := List.all_eq_true.mp (Bool.and_eq_true_iff.mp h).2 l hl
  have hexit := (Bool.and_eq_true_iff.mp hall).2
  exact ⟨kind_of_exitsEarly hl hexit, hexit⟩

namespace Nested

theorem creditedDepth_pos (h : Nested f) : ∀ l ∈ f, 1 ≤ l.creditedDepth := by
  induction h with
  | nil => simp
  | @concat f last _ hlast ih =>
    refine List.forall_mem_append.mpr ⟨ih, List.forall_mem_singleton.mpr ?_⟩
    cases hlast with
    | outside _ _ _ credited => omega
    | inside outer mem _ _ credited =>
      have houter := ih outer mem
      omega

theorem two_le_length (h : Nested f) (hl : l ∈ f) (hparent : l.parent?.isSome = true) :
    2 ≤ f.length := by
  induction h with
  | nil => cases hl
  | @concat f last _ hlast ih =>
    rw [List.length_append, List.length_singleton]
    rcases List.mem_append.mp hl with hmem | hmem
    · exact Nat.le_succ_of_le (ih hmem)
    · cases List.mem_singleton.mp hmem
      cases hlast with
      | outside parent => simp [parent] at hparent
      | inside outer mem =>
        have hpos := List.length_pos_of_mem mem
        omega

theorem exists_placed (h : Nested f) (hl : l ∈ f) : ∃ earlier, Placed earlier l := by
  induction h with
  | nil => cases hl
  | @concat f last _ hlast ih =>
    rcases List.mem_append.mp hl with hmem | hmem
    · exact ih hmem
    · cases List.mem_singleton.mp hmem
      exact ⟨f, hlast⟩

theorem parent_of_amortized (h : Nested f) (hl : l ∈ f) (hamortized : l.amortization? ≠ none) :
    l.parent?.isSome = true := by
  obtain ⟨earlier, hplaced⟩ := h.exists_placed hl
  cases hplaced with
  | outside _ amortization => exact absurd amortization hamortized
  | inside _ _ parent => exact parent

theorem parent_of_depth (h : Nested f) (hl : l ∈ f) (hdepth : 1 < l.depth) :
    l.parent?.isSome = true := by
  obtain ⟨earlier, hplaced⟩ := h.exists_placed hl
  cases hplaced with
  | outside _ _ depth => omega
  | inside _ _ parent => exact parent

end Nested

theorem le_maxCreditedDepth (hl : l ∈ f) : l.creditedDepth ≤ maxCreditedDepth f := by
  rw [maxCreditedDepth, List.foldl_max]
  exact Nat.le_trans (List.le_max?_getD_of_mem (List.mem_map_of_mem hl)) (Nat.le_max_right _ _)

theorem exists_mem_of_lt_maxDepth {n : Nat} (h : n < maxDepth f) : ∃ l ∈ f, n < l.depth := by
  obtain ⟨l, hl, hdepth⟩ := exists_mem_eq_foldl_max (Nat.zero_lt_of_lt h)
  exact ⟨l, hl, hdepth ▸ h⟩

theorem maxCreditedDepth_eq_zero_iff (h : Nested f) : maxCreditedDepth f = 0 ↔ f = [] := by
  constructor
  · intro hzero
    refine List.eq_nil_iff_forall_not_mem.mpr fun l hl => ?_
    have hpos := h.creditedDepth_pos l hl
    have hle := le_maxCreditedDepth hl
    omega
  · rintro rfl
    rfl

end LoopForest

/-! ## Chains of loops
Loops are found in the order of the text, and each names a loop in front of it that holds it, or
none. So the chain from a loop outwards ends, and the two depths of a loop are the lengths of its
chain, with amortized loops and without. -/

namespace Loop

variable {s : Snippet} {l : Loop} {number column : Nat} {line : Snippet.Line} {text : Text}

/-! ### The order of the text -/

def place (l : Loop) : Nat ×ₗ Nat := toLex (l.line, l.column)

theorem columns_keywordLoops :
    (keywordLoops s number text).map (·.column) =
      List.range (keywordLoops s number text).length := by
  rw [keywordLoops]
  split <;> rfl

theorem columns_comprehensions :
    (comprehensions s number column text).map (·.column) =
      List.range' column (comprehensions s number column text).length := by
  rw [comprehensions]
  split
  · simp [make, Function.comp_def]
  · rfl

theorem columns_iterations :
    (iterations s number line text).map (·.column) =
      List.range (iterations s number line text).length := by
  simp [iterations, make, Function.comp_def]

theorem columns_ofLine :
    (ofLine s number line).map (·.column) = List.range (ofLine s number line).length := by
  simp only [ofLine]
  split
  · rfl
  · split
    · exact columns_iterations
    · rw [List.map_append, columns_keywordLoops, columns_comprehensions, List.length_append,
        List.range_eq_range', List.range_eq_range', ← List.range'_append_1, Nat.zero_add]

theorem line_of_mem_ofLine (h : l ∈ ofLine s number line) : l.line = number := by
  obtain ⟨kind, last, column, text, rfl⟩ := madeOn_of_mem_ofLine h
  rfl

theorem pairwise_place_ofLine : (ofLine s number line).Pairwise fun a b => a.place < b.place := by
  have hcolumns : (ofLine s number line).Pairwise fun a b => a.column < b.column := by
    rw [← List.pairwise_map, columns_ofLine]
    exact List.pairwise_lt_range
  refine hcolumns.imp_of_mem fun ha hb hlt => Prod.Lex.toLex_lt_toLex.mpr (.inr ⟨?_, hlt⟩)
  exact (line_of_mem_ofLine ha).trans (line_of_mem_ofLine hb).symm

theorem pairwise_place_detect (s : Snippet) :
    (detect s).Pairwise fun a b => a.place < b.place := by
  rw [detect, List.pairwise_flatMap]
  refine ⟨fun _ _ => pairwise_place_ofLine, ?_⟩
  have hnumbers : s.lines.zipIdx.Pairwise fun a b => a.2 < b.2 := by
    rw [← List.pairwise_map, List.zipIdx_map_snd]
    exact List.pairwise_lt_range'
  refine hnumbers.imp fun hlt a ha b hb => Prod.Lex.toLex_lt_toLex.mpr (.inl ?_)
  rw [line_of_mem_ofLine ha, line_of_mem_ofLine hb]
  exact hlt

/-! ### Amortized loops -/

theorem kind_of_amortization {inner outer : Loop} (h : amortization? s inner outer ≠ none) :
    inner.kind = .whileLoop := by
  by_contra hkind
  rw [amortization?, if_pos hkind] at h
  exact h rfl

end Loop

namespace LoopForest

variable {s : Snippet} {f : LoopForest} {index : Nat} {l : NestedLoop}

/-! ### Parents -/

theorem Stands.append (h : Stands s f index l) (others : LoopForest) :
    Stands s (f ++ others) index l := by
  cases h with
  | outside parent amortization depth credited =>
    exact .outside parent amortization depth credited
  | inside p outer parent lt get holds amortization depth credited =>
    have hget : (f ++ others)[p]? = some outer := by
      rw [List.getElem?_append_left (List.getElem?_eq_some_iff.mp get).1, get]
    exact .inside p outer parent lt hget holds amortization depth credited

def Rooted (s : Snippet) (f : LoopForest) : Prop :=
  ∀ index l, f[index]? = some l → Stands s f index l

theorem Rooted.concat (h : Rooted s f) (inner : Loop) : Rooted s (f ++ [nest s f inner]) := by
  intro index l hl
  by_cases hindex : index < f.length
  · rw [List.getElem?_append_left hindex] at hl
    exact (h index l hl).append _
  · rw [List.getElem?_append_right (Nat.not_lt.mp hindex), List.getElem?_singleton] at hl
    obtain ⟨hzero, hnest⟩ := Option.ite_none_right_eq_some.mp hl
    obtain rfl : index = f.length := by omega
    cases hnest
    exact (stands_nest s f inner).append _

theorem rooted_ofSnippet (s : Snippet) : Rooted s (ofSnippet s) :=
  List.foldlRecOn (motive := Rooted s) (Loop.detect s) _ (by simp [Rooted])
    fun _ h inner _ => h.concat inner

namespace Rooted

theorem holds_of_parent (h : Rooted s f) {p : Nat} (hl : f[index]? = some l)
    (hparent : l.parent? = some p) :
    p < index ∧ ∃ outer : NestedLoop, f[p]? = some outer ∧ outer.holds l.toLoop = true := by
  cases h index l hl with
  | outside parent => simp [parent] at hparent
  | inside q outer parent lt get holds =>
    cases parent.symm.trans hparent
    exact ⟨lt, outer, get, holds⟩

theorem induction (h : Rooted s f) {motive : Nat → NestedLoop → Prop}
    (step : ∀ index l, f[index]? = some l → Stands s f index l →
      (∀ p, p < index → ∀ outer, f[p]? = some outer → motive p outer) → motive index l) :
    ∀ index l, f[index]? = some l → motive index l := by
  intro index
  induction index using Nat.strongRecOn with
  | _ index ih => exact fun l hl => step index l hl (h index l hl) ih

end Rooted

/-! ### The chain outwards -/

theorem chainFrom_eq_chain (h : Rooted s f) {fuel : Nat} (hfuel : index < fuel) :
    chainFrom f fuel index = chain f index := by
  induction index using Nat.strongRecOn generalizing fuel with
  | _ index ih =>
  cases fuel with
  | zero => omega
  | succ fuel =>
    rw [chain, chainFrom, chainFrom]
    cases hl : f[index]? with
    | none => rfl
    | some l =>
      cases hparent : l.parent? with
      | none => simp only [hparent]
      | some p =>
        have hlt := (h.holds_of_parent hl hparent).1
        have hfuel : p < fuel := by omega
        simp only [hparent, ih p hlt hfuel, ih p hlt hlt]

theorem chain_of_parent_eq_none (hl : f[index]? = some l) (hparent : l.parent? = none) :
    chain f index = [l] := by
  simp only [chain, chainFrom, hl, hparent]

theorem chain_of_parent (h : Rooted s f) {p : Nat} (hl : f[index]? = some l)
    (hparent : l.parent? = some p) : chain f index = l :: chain f p := by
  have hlt := (h.holds_of_parent hl hparent).1
  rw [chain, chainFrom]
  simp only [hl, hparent, chainFrom_eq_chain h hlt]

inductive Path (f : LoopForest) : Nat → List NestedLoop → Prop
  | outermost {index : Nat} {l : NestedLoop} (hl : f[index]? = some l)
      (hparent : l.parent? = none) : Path f index [l]
  | inside {index p : Nat} {l : NestedLoop} {path : List NestedLoop} (hl : f[index]? = some l)
      (hparent : l.parent? = some p) (rest : Path f p path) : Path f index (l :: path)

def credits (ls : List NestedLoop) : Nat :=
  (ls.filter (·.amortization?.isNone)).length

theorem credits_cons (l : NestedLoop) (ls : List NestedLoop) :
    credits (l :: ls) = credits ls + if l.amortization?.isNone then 1 else 0 := by
  rw [credits, credits, List.filter_cons]
  split <;> simp

theorem length_chainGrowths : (chainGrowths f index).length = credits (chain f index) :=
  List.length_map _

/-- The chain of a loop is its path outwards, and its lengths are the depths of the loop. -/
structure Measures (f : LoopForest) (index : Nat) (l : NestedLoop) : Prop where
  path : Path f index (chain f index)
  depth : l.depth = (chain f index).length
  credited : l.creditedDepth = credits (chain f index)

theorem Rooted.measures (h : Rooted s f) :
    ∀ index l, f[index]? = some l → Measures f index l := by
  refine h.induction fun index l hl hstands ih => ?_
  cases hstands with
  | outside parent amortization depth credited =>
    have hchain := chain_of_parent_eq_none hl parent
    refine ⟨?_, ?_, ?_⟩ <;> rw [hchain]
    · exact .outermost hl parent
    · exact depth
    · simp [credits, amortization, credited]
  | inside p outer parent lt get holds amortization depth credited =>
    obtain ⟨hpath, hdepth, hcredited⟩ := ih p lt outer get
    have hchain := chain_of_parent h hl parent
    refine ⟨?_, ?_, ?_⟩ <;> rw [hchain]
    · exact .inside hl parent hpath
    · rw [depth, hdepth, List.length_cons]
    · rw [credited, hcredited, credits_cons]

theorem Rooted.exists_credited (h : Rooted s f) :
    ∀ (index : Nat) (l : NestedLoop), f[index]? = some l → ∃ (j : Nat) (base : NestedLoop),
      f[j]? = some base ∧ base.amortization? = none ∧ base.creditedDepth = l.creditedDepth := by
  refine h.induction fun index l hl hstands ih => ?_
  cases hstands with
  | outside _ amortization => exact ⟨index, l, hl, amortization, rfl⟩
  | inside p outer parent lt get holds amortization depth credited =>
    cases hamortized : l.amortization? with
    | none => exact ⟨index, l, hl, hamortized, rfl⟩
    | some reason =>
      obtain ⟨j, base, hbase, hnone, hcredit⟩ := ih p lt outer get
      exact ⟨j, base, hbase, hnone, by simp [hcredit, credited, hamortized]⟩

/-! ### Lines along the chain -/

def Within (inner outer : Loop) : Prop :=
  outer.line < inner.line ∨
    outer.line = inner.line ∧ outer.kind = .comprehension ∧ inner.kind = .comprehension

theorem Within.trans {a b c : Loop} (hab : Within a b) (hbc : Within b c) : Within a c := by
  rcases hab with hab | ⟨hab, hb, ha⟩ <;> rcases hbc with hbc | ⟨hbc, hc, _⟩
  · exact .inl (hbc.trans hab)
  · exact .inl (hbc ▸ hab)
  · exact .inl (hab ▸ hbc)
  · exact .inr ⟨hbc.trans hab, hc, ha⟩

theorem within_of_holds {outer inner : Loop} (h : outer.holds inner = true) :
    Within inner outer := by
  rw [Loop.holds] at h
  split at h
  · next heq => exact .inr ⟨heq, by simp_all⟩
  · exact .inl (by simp_all [Loop.holdsLine])

theorem chain_eq_cons (hl : f[index]? = some l) : chain f index = l :: (chain f index).tail := by
  cases hparent : l.parent? with
  | none => rw [chain_of_parent_eq_none hl hparent, List.tail_cons]
  | some p => simp only [chain, chainFrom, hl, hparent, List.tail_cons]

theorem Rooted.within (h : Rooted s f) : ∀ (index : Nat) (l : NestedLoop), f[index]? = some l →
    ∀ outer ∈ (chain f index).tail, Within l.toLoop outer.toLoop := by
  refine h.induction fun index l hl hstands ih => ?_
  cases hstands with
  | outside parent => simp [chain_of_parent_eq_none hl parent]
  | inside p outer parent lt get holds =>
    have hwithin := within_of_holds holds
    rw [chain_of_parent h hl parent, List.tail_cons, chain_eq_cons get]
    exact List.forall_mem_cons.mpr
      ⟨hwithin, fun farther hfarther => hwithin.trans (ih p lt outer get farther hfarther)⟩

/-- The loop at the index has its depths from its chain, starts below the loops of the chain or is a
comprehension in one of them, and is amortized only as a `while` loop inside another. -/
structure Standing (f : LoopForest) (index : Nat) (l : NestedLoop) : Prop
    extends Measures f index l where
  parent : ∀ p, l.parent? = some p →
    p < index ∧ ∃ outer : NestedLoop, f[p]? = some outer ∧ Within l.toLoop outer.toLoop
  around : ∀ outer ∈ (chain f index).tail, Within l.toLoop outer.toLoop
  amortized : l.amortization? ≠ none → l.kind = .whileLoop ∧ l.parent? ≠ none

theorem Rooted.standing (h : Rooted s f) (hl : f[index]? = some l) : Standing f index l where
  toMeasures := h.measures index l hl
  around := h.within index l hl
  parent p hparent := by
    obtain ⟨hlt, outer, hget, hholds⟩ := h.holds_of_parent hl hparent
    exact ⟨hlt, outer, hget, within_of_holds hholds⟩
  amortized hamortized := by
    cases h index l hl with
    | outside _ amortization => exact absurd amortization hamortized
    | inside q outer parent _ _ _ amortization =>
      rw [amortization] at hamortized
      exact ⟨Loop.kind_of_amortization hamortized, by simp [parent]⟩

theorem pairwise_place_ofSnippet (s : Snippet) :
    (ofSnippet s).Pairwise fun a b => a.place < b.place := by
  have hdetect := Loop.pairwise_place_detect s
  rw [← loops_grow s (Loop.detect s), loops, List.pairwise_map] at hdetect
  exact hdetect

end LoopForest
end Asymptote
