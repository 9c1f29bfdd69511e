import Asymptote.Loop.Forest
import Asymptote.Proofs.Snippet.EmptyLine

/-! # Loops around an empty line
An empty line begins no loop, moves no variable and leaves no loop. So the loops of a snippet with
an empty line more are the same loops at their new places. -/
namespace Asymptote
open Snippet

def Loop.pushed (k : Nat) (l : Loop) : Loop :=
  { l with line := Snippet.pushed k l.line, last := Snippet.pushed k l.last }

def NestedLoop.pushed (k : Nat) (l : NestedLoop) : NestedLoop :=
  { l with toLoop := l.toLoop.pushed k }

namespace Loop

/-! ## Nothing on an empty line -/

theorem not_rescales_nil (tracked : List Text) : rescales tracked [] = false := rfl

theorem not_pins_nil (h : Header) : pins h [] = false := by
  have hcopy : plainCopy.find? [] = none := rfl
  rw [pins, hcopy]
  cases h.counter? <;> rfl

theorem not_assignsFresh_nil (name : Text) (loopVariables : List Text) :
    Motion.assignsFresh [] name loopVariables = false := rfl

theorem advanced_nil : Motion.advanced [] = [] := rfl

theorem not_isMidpoint_nil : Motion.isMidpoint [] = false := rfl

theorem not_removal_nil : removal.occursIn [] = false := rfl

theorem growth_padded {texts texts' : List Text} (h : Padded texts texts') (header : Header) :
    header.growth texts' = header.growth texts := by
  rw [Header.growth, Header.growth, (h.cons header.update).any_eq (not_rescales_nil _)]

theorem firstStatement?_padded {texts texts' : List Text} (h : Padded texts texts') :
    firstStatement? texts' = firstStatement? texts :=
  h.find?_map_eq rfl

/-! ## Detection -/

variable {k : Nat} {s s' : Snippet}

theorem exitsFirst_pushed (h : Widened k s s') (first last : Nat) (header : Header) :
    exitsFirst s' (Snippet.pushed k first) (Snippet.pushed k last) header =
      exitsFirst s first last header := by
  have hbody := h.padded (renumbers_behind k first last)
  simp only [exitsFirst, pushed_inj, h.line_pushed, firstStatement?_padded hbody,
    hbody.any_eq (not_pins_nil header)]

theorem make_pushed (h : Widened k s s') (kind : LoopKind) (first last column : Nat)
    (text : Text) :
    make s' kind (Snippet.pushed k first) (Snippet.pushed k last) column text =
      (make s kind first last column text).pushed k := by
  have hupdates : Padded (if last = first then [s.line first] else
        (List.range' (first + 1) (last - first)).map s.line)
      (if Snippet.pushed k last = Snippet.pushed k first then
          [s'.line (Snippet.pushed k first)]
        else
        (List.range' (Snippet.pushed k first + 1)
          (Snippet.pushed k last - Snippet.pushed k first)).map s'.line) := by
    simp only [pushed_inj, h.line_pushed]
    split_ifs
    · exact .same _
    · exact h.padded (renumbers_behind k first last)
  simp only [make, Loop.pushed, exitsFirst_pushed h, growth_padded hupdates]

theorem keywordLoops_pushed (h : Widened k s s') (number : Nat) (text : Text) :
    keywordLoops s' (Snippet.pushed k number) text =
      (keywordLoops s number text).map (Loop.pushed k) := by
  rw [keywordLoops, keywordLoops, h.language]
  cases keywordKind? s.language text with
  | none => rfl
  | some kind =>
    simp only [h.blockEnd_pushed, ← apply_ite (Snippet.pushed k), make_pushed h, List.map_cons,
      List.map_nil]

theorem comprehensions_pushed (h : Widened k s s') (number column : Nat) (text : Text) :
    comprehensions s' (Snippet.pushed k number) column text =
      (comprehensions s number column text).map (Loop.pushed k) := by
  rw [comprehensions, comprehensions, h.language]
  split
  · simp only [make_pushed h, List.map_map, Function.comp_def]
  · rfl

theorem iterations_pushed (h : Widened k s s') (number : Nat) (line : Snippet.Line)
    (text : Text) :
    iterations s' (Snippet.pushed k number) line text =
      (iterations s number line text).map (Loop.pushed k) := by
  simp only [iterations, h.blockEnd_pushed, ← apply_ite (Snippet.pushed k), make_pushed h,
    List.map_map, Function.comp_def]

theorem ofLine_pushed (h : Widened k s s') (number : Nat) (line : Snippet.Line) :
    ofLine s' (Snippet.pushed k number) line = (ofLine s number line).map (Loop.pushed k) := by
  simp only [ofLine, keywordLoops_pushed h, comprehensions_pushed h, iterations_pushed h,
    List.length_map, ← List.map_append, List.isEmpty_map]
  split_ifs <;> rfl

theorem detect_widened (h : Widened k s s') :
    detect s' = (detect s).map (Loop.pushed k) := by
  obtain ⟨front, back, depth, hlines, hlines'⟩ := h.lines.zipIdx
  have hempty : ofLine s' k ⟨[], depth, depth⟩ = [] := rfl
  simp only [detect, hlines', List.flatMap_append, List.flatMap_cons, hempty, List.nil_append]
  rw [← List.flatMap_append, ← hlines, List.flatMap_map, List.map_flatMap]
  congr 1
  funext ⟨line, number⟩
  exact ofLine_pushed h number line

/-! ## Nesting -/

theorem holdsLine_pushed (l : Loop) (number : Nat) :
    (l.pushed k).holdsLine (Snippet.pushed k number) = l.holdsLine number := by
  simp [holdsLine, Loop.pushed]

theorem holds_pushed (l other : Loop) : (l.pushed k).holds (other.pushed k) = l.holds other := by
  have hline : (l.pushed k).holdsLine (other.pushed k).line = l.holdsLine other.line :=
    holdsLine_pushed l other.line
  have hsame : (l.pushed k).line = (other.pushed k).line ↔ l.line = other.line := pushed_inj
  simp only [holds, hsame, hline]
  rfl

theorem renumbers_body (k : Nat) (l : Loop) : Renumbers k l.body (l.pushed k).body :=
  renumbers_behind k l.line l.last

theorem wholeLines_pushed (h : Widened k s s') (l : Loop) :
    Padded (wholeLines s l) (wholeLines s' (l.pushed k)) :=
  h.padded ((renumbers_body k l).cons l.line)

theorem isStackDrain_pushed (h : Widened k s s') (l : Loop) :
    isStackDrain s' (l.pushed k) = isStackDrain s l := by
  rw [isStackDrain, (wholeLines_pushed h l).any_eq not_removal_nil]
  rfl

theorem resets_pushed (h : Widened k s s') (outer inner : Loop) (name : Text) :
    resets s' (outer.pushed k) (inner.pushed k) name = resets s outer inner name := by
  apply (renumbers_body k outer).any_eq
  · intro n
    simp [h.line_pushed, Loop.pushed]
  · simp only [h.line_self, not_assignsFresh_nil, Bool.and_false]

theorem isWindowShrink_pushed (h : Widened k s s') (inner outer : Loop) :
    isWindowShrink s' (inner.pushed k) (outer.pushed k) = isWindowShrink s inner outer := by
  rw [isWindowShrink, (wholeLines_pushed h inner).flatMap_eq advanced_nil]
  simp only [resets_pushed h]
  rfl

theorem amortization?_pushed (h : Widened k s s') (inner outer : Loop) :
    amortization? s' (inner.pushed k) (outer.pushed k) = amortization? s inner outer := by
  rw [amortization?, isStackDrain_pushed h, isWindowShrink_pushed h]
  rfl

theorem isConverging_pushed (h : Widened k s s') (l : Loop) :
    isConverging s' (l.pushed k) = isConverging s l := by
  have hbody := h.padded (renumbers_body k l)
  have hcondition : (l.pushed k).condition = l.condition := rfl
  rw [isConverging, isConverging, hcondition]
  cases meeting.find? l.condition with
  | none => rfl
  | some m =>
    have hadvanced : (Motion.advanced []).contains (m.group 1) = false := rfl
    have hretreated : (Motion.retreated []).contains (m.group 2) = false := rfl
    simp only [hbody.any_eq (p := fun t => (Motion.advanced t).contains (m.group 1)) hadvanced,
      hbody.any_eq (p := fun t => (Motion.retreated t).contains (m.group 2)) hretreated,
      hbody.any_eq not_isMidpoint_nil]
    rfl

theorem pointerResets_pushed (h : Widened k s s') (loops : List Loop) (names : List Text) :
    pointerResets s' (loops.map (Loop.pushed k)) names = pointerResets s loops names := by
  have hcounters (n : Nat) :
      ((loops.map (Loop.pushed k)).filter (·.holdsLine (Snippet.pushed k n))).filterMap
          (·.counter?) = (loops.filter (·.holdsLine n)).filterMap (·.counter?) := by
    rw [List.filter_map, List.filterMap_map]
    simp only [Function.comp_def, holdsLine_pushed]
    rfl
  rw [pointerResets, pointerResets, List.any_map]
  refine congrArg _ (funext fun l => ?_)
  apply (renumbers_body k l).any_eq
  · intro n
    simp only [hcounters, h.line_pushed]
  · simp only [h.line_self, not_assignsFresh_nil, List.any_eq_false]
    simp

end Loop

namespace LoopForest

variable {k : Nat} {s s' : Snippet}

theorem parentAmong?_pushed (earlier : LoopForest) (l : Loop) :
    parentAmong? (earlier.map (NestedLoop.pushed k)) (l.pushed k) = parentAmong? earlier l := by
  have hholds (outer : NestedLoop) : (outer.pushed k).holds (l.pushed k) = outer.holds l :=
    Loop.holds_pushed outer.toLoop l
  simp only [parentAmong?, List.zipIdx_map, ← List.map_reverse, List.find?_map, Option.map_map,
    Function.comp_def, Prod.map_fst, Prod.map_snd, hholds, id]

theorem nest_pushed (h : Widened k s s') (earlier : LoopForest) (l : Loop) :
    nest s' (earlier.map (NestedLoop.pushed k)) (l.pushed k) =
      (nest s earlier l).pushed k := by
  have hparent : (parentAmong? earlier l).bind ((earlier.map (NestedLoop.pushed k))[·]?) =
      ((parentAmong? earlier l).bind (earlier[·]?)).map (NestedLoop.pushed k) := by
    cases parentAmong? earlier l <;> simp
  rw [nest, nest, parentAmong?_pushed, hparent]
  cases (parentAmong? earlier l).bind (earlier[·]?) with
  | none => rfl
  | some outer =>
    simp only [Option.map_some, NestedLoop.pushed, Loop.amortization?_pushed h]

theorem ofSnippet_widened (h : Widened k s s') :
    ofSnippet s' = (ofSnippet s).map (NestedLoop.pushed k) := by
  -- For any forest so far, since each loop looks for its parent in that.
  have hgrow (loops : List Loop) (earlier : LoopForest) :
      (loops.map (Loop.pushed k)).foldl (fun earlier l => earlier ++ [nest s' earlier l])
          (earlier.map (NestedLoop.pushed k)) =
        (loops.foldl (fun earlier l => earlier ++ [nest s earlier l]) earlier).map
          (NestedLoop.pushed k) := by
    induction loops generalizing earlier with
    | nil => rfl
    | cons l loops ih =>
      rw [List.map_cons, List.foldl_cons, List.foldl_cons, ← ih, nest_pushed h, List.map_append]
      rfl
  rw [ofSnippet, ofSnippet, Loop.detect_widened h]
  exact hgrow (Loop.detect s) []

/-! ## Figures -/

variable (k) (f : LoopForest)

theorem maxDepth_pushed : maxDepth (f.map (NestedLoop.pushed k)) = maxDepth f := by
  rw [maxDepth, List.map_map]
  rfl

theorem maxCreditedDepth_pushed :
    maxCreditedDepth (f.map (NestedLoop.pushed k)) = maxCreditedDepth f := by
  rw [maxCreditedDepth, List.map_map]
  rfl

variable {k} in
theorem any_pushed {test test' : NestedLoop → Bool} (htest : ∀ l, test' (l.pushed k) = test l) :
    (f.map (NestedLoop.pushed k)).any test' = f.any test := by
  rw [List.any_map]
  exact congrArg _ (funext htest)

theorem inLoop_pushed (number : Nat) :
    inLoop (f.map (NestedLoop.pushed k)) (Snippet.pushed k number) = inLoop f number :=
  any_pushed f fun l => Loop.holdsLine_pushed l.toLoop number

theorem chain_pushed (index : Nat) :
    chain (f.map (NestedLoop.pushed k)) index = (chain f index).map (NestedLoop.pushed k) := by
  have hchain (fuel index : Nat) : chainFrom (f.map (NestedLoop.pushed k)) fuel index =
      (chainFrom f fuel index).map (NestedLoop.pushed k) := by
    induction fuel generalizing index with
    | zero => rfl
    | succ fuel ih =>
      rw [chainFrom, chainFrom, List.getElem?_map]
      cases f[index]? with
      | none => rfl
      | some l =>
        have hparent : (l.pushed k).parent? = l.parent? := rfl
        simp only [Option.map_some, hparent]
        cases l.parent? with
        | none => rfl
        | some parent => simp only [ih, List.map_cons]
  exact hchain (index + 1) index

theorem dominantGrowth_pushed :
    dominantGrowth (f.map (NestedLoop.pushed k)) = dominantGrowth f := by
  have hgrowths (index : Nat) : chainGrowths (f.map (NestedLoop.pushed k)) index =
      chainGrowths f index := by
    rw [chainGrowths, chain_pushed, List.filter_map, List.map_map]
    rfl
  rw [dominantGrowth, dominantGrowth, maxCreditedDepth_pushed, List.zipIdx_map, List.filter_map,
    List.map_map]
  simp only [hgrowths, Function.comp_def]
  rfl

theorem summary_pushed : summary (f.map (NestedLoop.pushed k)) = summary f := by
  simp only [summary, maxCreditedDepth_pushed, dominantGrowth_pushed, List.filter_map,
    List.flatMap_map, List.all_map, List.length_map, List.isEmpty_map]
  rfl

end LoopForest
end Asymptote
