import Asymptote.Proofs.Feature.Structures

/-! # Algorithms around a blank line
All features of a snippet are the same when a blank line is added, but one. The line in front of a
loop may take the square of the outer variable, and it is no longer the line before when the added
line comes in between. -/
namespace Asymptote
open Snippet Pattern

/-! ## Amortized patterns and pointers -/

section

variable {k : Nat} {s s' : Snippet} (h : Interlined k s s') (f : LoopForest)
include h

namespace AmortizedVerdict

theorem hasConvergingLoop_eq :
    hasConvergingLoop s' (f.map (NestedLoop.pushed k)) = hasConvergingLoop s f := by
  have hchild (index : Nat) : LoopForest.hasChild (f.map (NestedLoop.pushed k)) index =
      LoopForest.hasChild f index := LoopForest.any_pushed f fun _ => rfl
  rw [hasConvergingLoop, List.zipIdx_map, List.any_map]
  refine congrArg _ (funext fun ⟨l, index⟩ => ?_)
  have hconverging : Loop.isConverging s' (l.pushed k).toLoop = Loop.isConverging s l.toLoop :=
    Loop.isConverging_pushed h.toWidened l.toLoop
  simp only [Function.comp, Prod.map_apply, id, hchild, hconverging]
  rfl

theorem detect?_interlined : detect? s' (f.map (NestedLoop.pushed k)) = detect? s f := by
  have hdrain : (f.map (NestedLoop.pushed k)).find? (fun l => l.amortization? = some .stackDrain) =
      (f.find? fun l => l.amortization? = some .stackDrain).map (NestedLoop.pushed k) := by
    rw [List.find?_map]
    rfl
  rw [detect?, detect?, hdrain]
  cases f.find? fun l => l.amortization? = some .stackDrain with
  | some l =>
    simp (disch := exact keeps_of_isSafe rfl) only [Option.map_some, h.shows_eq]
    rfl
  | none =>
    simp (disch := exact keeps_of_isSafe rfl) only [Option.map_none, h.shows_eq,
      hasConvergingLoop_eq h, List.any_map]
    rfl

end AmortizedVerdict

namespace PointerFeatures

theorem jumpsToMidpoint_eq : jumpsToMidpoint s' = jumpsToMidpoint s := by
  rw [jumpsToMidpoint, jumpsToMidpoint, h.shows_eq (keeps_of_isSafe rfl),
    h.any_lines_eq Loop.not_isMidpoint_nil]

theorem detect_interlined : detect s' (f.map (NestedLoop.pushed k)) = detect s f := by
  have hup (name : String) :
      (s'.lines.any fun line => (Motion.advanced line.text).contains name.toList) =
        s.lines.any fun line => (Motion.advanced line.text).contains name.toList :=
    h.any_lines_eq (p := fun t => (Motion.advanced t).contains name.toList) rfl
  have hdown (name : String) :
      (s'.lines.any fun line => (Motion.retreated line.text).contains name.toList) =
        s.lines.any fun line => (Motion.retreated line.text).contains name.toList :=
    h.any_lines_eq (p := fun t => (Motion.retreated t).contains name.toList) rfl
  have hconverging : ((f.map (NestedLoop.pushed k)).any fun l =>
      l.parent?.isNone && Loop.isConverging s' l.toLoop) =
        f.any fun l => l.parent?.isNone && Loop.isConverging s l.toLoop :=
    LoopForest.any_pushed f fun l => congrArg _ (Loop.isConverging_pushed h.toWidened l.toLoop)
  have hresets (names : List Text) :
      Loop.pointerResets s' (LoopForest.loops (f.map (NestedLoop.pushed k))) names =
        Loop.pointerResets s (LoopForest.loops f) names := by
    rw [← Loop.pointerResets_pushed h.toWidened, LoopForest.loops, LoopForest.loops, List.map_map,
      List.map_map]
    rfl
  have hshrinking : ((f.map (NestedLoop.pushed k)).any fun l =>
      l.amortization? = some .windowShrink) = f.any fun l => l.amortization? = some .windowShrink :=
    LoopForest.any_pushed f fun _ => rfl
  simp (disch := exact keeps_of_isSafe rfl) only [detect, jumpsToMidpoint_eq h, hup, hdown,
    hconverging, hresets, hshrinking, h.mentions_eq, h.shows_eq, LoopForest.maxDepth_pushed]

end PointerFeatures

end

/-! ## Algorithms -/

namespace AlgorithmFeatures

section

variable {k : Nat} {s s' : Snippet}

theorem runs_pushed (l : NestedLoop) (number : Nat) :
    runs (l.pushed k) (Snippet.pushed k number) = runs l number := by
  have hholds : (l.pushed k).holdsLine (Snippet.pushed k number) = l.holdsLine number :=
    Loop.holdsLine_pushed l.toLoop number
  have hline : (l.pushed k).line = Snippet.pushed k number ↔ l.line = number := pushed_inj
  have hlast : (l.pushed k).last = Snippet.pushed k number ↔ l.last = number := pushed_inj
  simp only [runs, hholds, hline, hlast]
  rfl

theorem isLooped_pushed (f : LoopForest) (number : Nat) :
    isLooped (f.map (NestedLoop.pushed k)) (Snippet.pushed k number) = isLooped f number :=
  LoopForest.any_pushed f fun l => runs_pushed l number

theorem isLoopedWithin_pushed (f : LoopForest) (g : Snippet.Function) (number : Nat) :
    isLoopedWithin (f.map (NestedLoop.pushed k)) (g.pushed k) (Snippet.pushed k number) =
      isLoopedWithin f g number := by
  apply LoopForest.any_pushed
  intro l
  have hline : (l.pushed k).line = Snippet.pushed k l.line := rfl
  simp only [hline, Snippet.Function.pushed_line, Snippet.Function.pushed_last, pushed_le_pushed,
    runs_pushed]

theorem isCalledInLoop_pushed (h : Widened k s s') (f : LoopForest) (g : Snippet.Function) :
    isCalledInLoop s' (f.map (NestedLoop.pushed k)) (g.pushed k) = isCalledInLoop s f g := by
  apply h.any_zipIdx_eq
  · intro line n
    simp only [Snippet.Function.pushed_name, Snippet.Function.pushed_line,
      Snippet.Function.pushed_last, pushed_le_pushed, isLooped_pushed]
  · intro depth
    simp [callArguments_nil]

theorem sortLines_pushed (h : Widened k s s') :
    sortLines s' = (sortLines s).map (Snippet.pushed k) := by
  rw [sortLines, sortLines, h.linesWith_pushed rfl, h.linesWith_pushed rfl,
    h.any_functions_eq (p := fun g => g.key = "sort".toList) fun _ => rfl, List.map_append]
  congr 1
  split <;> rfl

theorem isSearchLoop_pushed (h : Widened k s s') (l : NestedLoop) :
    isSearchLoop s' (l.pushed k) = isSearchLoop s l := by
  have hlines := (h.padded (Loop.renumbers_body k l.toLoop)).any_eq
    (p := fun t => Motion.isMidpoint t || endToMiddle.occursIn t) rfl
  rw [isSearchLoop, isSearchLoop]
  exact congrArg _ hlines

theorem binarySearching_pushed (h : Widened k s s') (f : LoopForest)
    (recursive : Option RecursiveFunction) :
    binarySearching s' (f.map (NestedLoop.pushed k)) (recursive.map (RecursiveFunction.pushed k)) =
      binarySearching s f recursive := by
  have hfound : (f.map (NestedLoop.pushed k)).find? (isSearchLoop s') =
      (f.find? (isSearchLoop s)).map (NestedLoop.pushed k) := by
    rw [List.find?_map]
    congr 2
    exact funext (isSearchLoop_pushed h)
  unfold binarySearching
  rw [hfound, h.linesWith_pushed rfl]
  cases f.find? (isSearchLoop s) with
  | some l =>
    have hline : (l.pushed k).line = Snippet.pushed k l.line := rfl
    have hlast : (l.pushed k).last = Snippet.pushed k l.last := rfl
    have hparent : (l.pushed k).parent? = l.parent? := rfl
    simp only [Option.map_some, h.functions, List.filter_map, List.any_map, Function.comp_def,
      hline, hlast, hparent, Snippet.Function.pushed_line, Snippet.Function.pushed_last,
      pushed_le_pushed, isCalledInLoop_pushed h]
  | none =>
    simp only [Option.map_none, List.isEmpty_map, List.any_map, Function.comp_def, isLooped_pushed]
    cases recursive with
    | none => rfl
    | some r =>
      have hmid := (RecursiveFunction.padded_lines h r).any_eq Loop.not_isMidpoint_nil
      have hbranching : (r.pushed k).branching = r.branching := rfl
      have hfunction : (r.pushed k).function = r.function.pushed k := rfl
      simp only [List.any_map, Function.comp_def] at hmid
      simp only [Option.map_some, hmid, hbranching, hfunction, isCalledInLoop_pushed h]

theorem takesPair_pushed (h : Widened k s s') (g : Snippet.Function) :
    takesPair s' (g.pushed k) = takesPair s g := by
  rw [takesPair, takesPair, Snippet.Function.pushed_line, Snippet.Function.pushed_name,
    h.line_pushed]

theorem drainsQueue_pushed (h : Widened k s s') (f : LoopForest) :
    drainsQueue s' (f.map (NestedLoop.pushed k)) = drainsQueue s f :=
  LoopForest.any_pushed f fun l => congrArg _ ((Loop.wholeLines_pushed h l.toLoop).any_eq rfl)

theorem drainsStack_pushed (h : Widened k s s') (f : LoopForest) :
    drainsStack s' (f.map (NestedLoop.pushed k)) = drainsStack s f :=
  LoopForest.any_pushed f fun l => congrArg _ ((Loop.wholeLines_pushed h l.toLoop).any_eq rfl)

end

/-- The line before the loop squares the variable of the outer one, and its header does not. -/
def squaredBefore (s : Snippet) (f : LoopForest) (l : NestedLoop) : Bool :=
  ((l.parent?.bind (f[·]?)).bind (·.counter?)).any fun name =>
    squares name (s.line (l.line - 1)) && !squares name (s.line l.line)

section

variable {k : Nat} {s s' : Snippet} (h : Interlined k s s')
include h

theorem isTwoDimensional_eq (htables : s'.shows pairTable = s.shows pairTable) :
    isTwoDimensional s' = isTwoDimensional s := by
  have hpair (number : Nat) : (s'.functions.find? fun g => Snippet.pushed k number < g.line).any
      (takesPair s') = (s.functions.find? fun g => number < g.line).any (takesPair s) := by
    rw [h.functions, List.find?_map]
    simp only [Function.comp_def, Snippet.Function.pushed_line, pushed_lt_pushed]
    cases s.functions.find? fun g => number < g.line with
    | none => rfl
    | some g => exact takesPair_pushed h.toWidened g
  rw [isTwoDimensional, isTwoDimensional, htables, h.linesWith_pushed rfl, List.any_map]
  exact congrArg _ (congrArg _ (funext hpair))

theorem swaps_eq : swaps s' = swaps s := by
  rw [swaps, swaps, h.shows_eq (keeps_of_isSafe rfl), h.any_findAll_eq (keeps_of_isSafe rfl)]
  intro w m m' hsame
  simp only [isSwap, hsame.group_eq]

theorem namesBacktracking_eq : namesBacktracking s' = namesBacktracking s := by
  rw [namesBacktracking, namesBacktracking, h.defines_eq, h.mentions_eq,
    h.shows_eq (keeps_of_isSafe rfl)]

theorem isEuclid_eq (recursive : Option RecursiveFunction) :
    isEuclid s' (recursive.map (RecursiveFunction.pushed k)) = isEuclid s recursive := by
  rw [isEuclid, isEuclid, h.defines_eq, h.elem_eq rfl]
  cases recursive with
  | none => rfl
  | some r =>
    simp only [Option.map_some, RecursiveFunction.pushed, Option.any_some, List.any_map]
    rfl

/-! ## Sieves -/

/-- A loop starts at the square as before, unless it stands behind the added line, which took the
place of the line before it, and has no square in its header. -/
theorem startsAtSquare_pushed (f : LoopForest) {l : NestedLoop}
    (hsquare : l.line = k → squaredBefore s f l = false) :
    startsAtSquare s' (f.map (NestedLoop.pushed k)) (l.pushed k) = startsAtSquare s f l := by
  have hparent : (l.pushed k).parent? = l.parent? := rfl
  have hline : (l.pushed k).line = Snippet.pushed k l.line := rfl
  have houter : (l.parent?.bind ((f.map (NestedLoop.pushed k))[·]?)).bind (·.counter?) =
      (l.parent?.bind (f[·]?)).bind (·.counter?) := by
    cases l.parent? with
    | none => rfl
    | some index =>
      simp only [Option.bind_some, List.getElem?_map]
      cases f[index]? <;> rfl
  unfold squaredBefore at hsquare
  unfold startsAtSquare
  rw [hparent, houter, hline, h.line_pushed]
  cases hname : (l.parent?.bind (f[·]?)).bind (·.counter?) with
  | none => rfl
  | some name =>
    simp only [hname, Option.any_some] at hsquare ⊢
    have hnil : squares name [] = false := rfl
    by_cases hk : l.line = k
    · have hprevious : s'.line (Snippet.pushed k l.line - 1) = [] := by
        rw [pushed_of_le (Nat.le_of_eq hk.symm), Nat.add_sub_cancel, hk, h.line_self]
      rw [hprevious, ite_self, hnil, Bool.or_false]
      cases hheader : squares name (s.line l.line) with
      | true => rw [Bool.true_or]
      | false =>
        have hbefore : squares name (s.line (l.line - 1)) = false := by
          simpa [hheader] using hsquare hk
        rw [Bool.false_or]
        split
        · rfl
        · exact hbefore.symm
    · have hfirst : Snippet.pushed k l.line = 0 ↔ l.line = 0 := by
        unfold Snippet.pushed
        split <;> omega
      have hprevious : l.line ≠ 0 →
          s'.line (Snippet.pushed k l.line - 1) = s.line (l.line - 1) := by
        intro hzero
        have hbefore : Snippet.pushed k l.line - 1 = Snippet.pushed k (l.line - 1) := by
          unfold Snippet.pushed
          split <;> split <;> omega
        rw [hbefore, h.line_pushed]
      simp only [hfirst]
      split
      · rfl
      next hzero => rw [hprevious hzero]

theorem isSieve_interlined {f : LoopForest}
    (hsquare : ∀ l ∈ f, l.line = k → squaredBefore s f l = false) :
    isSieve s' (f.map (NestedLoop.pushed k)) = isSieve s f := by
  have hmap : (f.map (NestedLoop.pushed k)).map (startsAtSquare s' (f.map (NestedLoop.pushed k))) =
      f.map (startsAtSquare s f) := by
    rw [List.map_map]
    exact List.map_congr_left fun l hl => startsAtSquare_pushed h f (hsquare l hl)
  have hany : (f.map (NestedLoop.pushed k)).any (startsAtSquare s' (f.map (NestedLoop.pushed k))) =
      f.any (startsAtSquare s f) := by
    simpa only [List.any_map, Function.id_comp] using congrArg (·.any id) hmap
  rw [isSieve, isSieve, hany, h.shows_eq (keeps_of_isSafe rfl), LoopForest.maxDepth_pushed]

theorem detect_interlined {f : LoopForest} (structures : StructureFeatures)
    (htables : s'.shows pairTable = s.shows pairTable)
    (hsieve : isSieve s' (f.map (NestedLoop.pushed k)) = isSieve s f) :
    detect s' (f.map (NestedLoop.pushed k)) structures = detect s f structures := by
  have hdrains : ((f.map (NestedLoop.pushed k)).any fun l => l.amortization? = some .stackDrain) =
      f.any fun l => l.amortization? = some .stackDrain := LoopForest.any_pushed f fun _ => rfl
  have hbranching (recursive : Option RecursiveFunction) :
      (recursive.map (RecursiveFunction.pushed k)).map (·.branching) =
        recursive.map (·.branching) := by
    cases recursive <;> rfl
  have harguments (recursive : Option RecursiveFunction) :
      (recursive.map (RecursiveFunction.pushed k)).map (RecursiveFunction.arguments s') =
        recursive.map (RecursiveFunction.arguments s) := by
    cases recursive with
    | none => rfl
    | some r => exact congrArg some (RecursiveFunction.arguments_pushed h.toWidened r)
  have hlooped (recursive : Option RecursiveFunction) :
      ((recursive.map (RecursiveFunction.pushed k)).any fun r => r.sites.any fun site =>
          isLoopedWithin (f.map (NestedLoop.pushed k)) r.function site.line) =
        recursive.any fun r => r.sites.any fun site => isLoopedWithin f r.function site.line := by
    cases recursive with
    | none => rfl
    | some r =>
      simp only [Option.map_some, Option.any_some, RecursiveFunction.pushed, List.any_map]
      exact congrArg _ (funext fun site => isLoopedWithin_pushed f r.function site.line)
  simp (disch := exact keeps_of_isSafe rfl) only [detect,
    RecursiveFunction.find?_pushed h.toWidened, hbranching, harguments, hlooped,
    sortLines_pushed h.toWidened, List.isEmpty_map, List.any_map, Function.comp_def,
    isLooped_pushed, binarySearching_pushed h.toWidened, h.shows_eq, h.mentions_eq,
    swaps_eq h, namesBacktracking_eq h, drainsQueue_pushed h.toWidened,
    drainsStack_pushed h.toWidened, hdrains, hsieve, isEuclid_eq h,
    isTwoDimensional_eq h htables]

end

end AlgorithmFeatures

/-! ## All features -/

/-- The two recognizers that may stop within an indentation find the same buffers. -/
structure SameBuffers (s s' : Snippet) : Prop where
  tables : s'.shows AlgorithmFeatures.pairTable = s.shows AlgorithmFeatures.pairTable
  allocations : SpaceUsage.sizedAllocations s' = SpaceUsage.sizedAllocations s

theorem sameBuffers_of_break {s s' : Snippet} {front back : Text}
    (hclean : s.clean = front ++ '\n' :: back)
    (hclean' : s'.clean = front ++ '\n' :: '\n' :: back) : SameBuffers s s' where
  tables := by
    have hkeeps : AlgorithmFeatures.pairTable.Keeps false := keeps_of_isSafe rfl
    rw [shows, shows, hclean, hclean']
    exact hkeeps.occursIn_eq .close front back
  allocations := SpaceUsage.sizedAllocations_interlined hclean hclean'

/-- An indented line takes a blank for the initial value and parts it from the keyword. -/
example : AlgorithmFeatures.pairTable.occursIn "[[0] *\nfor i in a]".toList = false ∧
    AlgorithmFeatures.pairTable.occursIn "[[0] *\n  \nfor i in a]".toList = true := by
  decide

namespace FeatureSet

theorem ofForest_interlined {k : Nat} {s s' : Snippet} (h : Interlined k s s')
    (hbuffers : SameBuffers s s') {f : LoopForest}
    (hsieve : AlgorithmFeatures.isSieve s' (f.map (NestedLoop.pushed k)) =
      AlgorithmFeatures.isSieve s f) :
    ofForest s' (f.map (NestedLoop.pushed k)) = ofForest s f := by
  have hamortized : ((f.map (NestedLoop.pushed k)).any fun l => l.amortization?.isSome) =
      f.any fun l => l.amortization?.isSome := LoopForest.any_pushed f fun _ => rfl
  simp only [ofForest, LiteralContainers.detect_interlined h, StructureFeatures.detect_interlined h,
    AlgorithmFeatures.detect_interlined h _ hbuffers.tables hsieve,
    AmortizedVerdict.detect?_interlined h, LoopForest.summary_pushed,
    PointerFeatures.detect_interlined h, SpaceUsage.detect_interlined h hbuffers.allocations,
    hamortized]

end FeatureSet
end Asymptote
