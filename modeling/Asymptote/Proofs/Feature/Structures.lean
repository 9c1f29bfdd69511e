import Asymptote.Proofs.Loop.EmptyLine
import Asymptote.Proofs.Snippet.CommentLine

/-! # Features around a blank line
Recursion, data structures and memory are found as before when a blank line is added. -/
namespace Asymptote

open Snippet Pattern

/-! ## Recursion around an empty line
The recursive functions of a snippet with an empty line more are the same at their new places, and
they call themselves with the same arguments. -/

def RecursiveFunction.pushed (k : Nat) (r : RecursiveFunction) : RecursiveFunction :=
  { r with function := r.function.pushed k, sites := r.sites.map (CallSite.pushed k) }

namespace RecursiveFunction

theorem eraseReps_pushed (k : Nat) (numbers : List Nat) :
    (numbers.map (Snippet.pushed k)).eraseReps = numbers.eraseReps.map (Snippet.pushed k) := by
  have hloop (a : Nat) (numbers kept : List Nat) :
      List.eraseRepsBy.loop (· == ·) (Snippet.pushed k a) (numbers.map (Snippet.pushed k))
          (kept.map (Snippet.pushed k)) =
        (List.eraseRepsBy.loop (· == ·) a numbers kept).map (Snippet.pushed k) := by
    induction numbers generalizing a kept with
    | nil => simp [List.eraseRepsBy.loop]
    | cons b numbers ih =>
      have hsame : (Snippet.pushed k a == Snippet.pushed k b) = (a == b) := by
        rw [Bool.eq_iff_iff, beq_iff_eq, beq_iff_eq, pushed_inj]
      rw [List.map_cons, List.eraseRepsBy.loop, List.eraseRepsBy.loop, hsame]
      cases a == b with
      | true => exact ih a kept
      | false => exact ih b (a :: kept)
  cases numbers with
  | nil => rfl
  | cons a numbers => exact hloop a numbers []

theorem midpointName?_nil : Motion.midpointName? [] = none := rfl

variable {k : Nat} {s s' : Snippet} (h : Widened k s s')
include h

theorem returnsExclusively_pushed (f : Function) (sites : List CallSite) :
    returnsExclusively s' (f.pushed k) (sites.map (CallSite.pushed k)) =
      returnsExclusively s f sites := by
  have hlines : (sites.map (CallSite.pushed k)).map (·.line) =
      (sites.map (·.line)).map (Snippet.pushed k) := by
    rw [List.map_map, List.map_map]
    rfl
  simp only [returnsExclusively, hlines, eraseReps_pushed, List.length_map, List.all_map,
    Function.comp_def, h.line_pushed, Snippet.Function.pushed_name]

theorem of?_pushed (f : Function) : of? s' (f.pushed k) = (of? s f).map (pushed k) := by
  rw [of?, of?, h.selfCalls_pushed, List.isEmpty_map]
  split
  · rfl
  · simp only [returnsExclusively_pushed h, List.length_map]
    rfl

omit h in
theorem mostCalls_pushed (rs : List RecursiveFunction) :
    mostCalls (rs.map (pushed k)) = (mostCalls rs).map (pushed k) := by
  cases rs with
  | nil => rfl
  | cons first others =>
    rw [List.map_cons, mostCalls, mostCalls, Option.map_some, List.foldl_map]
    congr 1
    induction others generalizing first with
    | nil => rfl
    | cons r others ih =>
      have hlength (r : RecursiveFunction) : (r.pushed k).sites.length = r.sites.length :=
        List.length_map _
      simp only [List.foldl_cons, hlength, ← apply_ite (pushed k)]
      simp only [hlength] at ih
      exact ih _

theorem find?_pushed : find? s' = (find? s).map (pushed k) := by
  rw [find?, find?, h.functions, List.filterMap_map, ← mostCalls_pushed, List.map_filterMap]
  congr 2
  exact funext (of?_pushed h)

theorem padded_lines (r : RecursiveFunction) :
    Padded (r.lines.map s.line) ((r.pushed k).lines.map s'.line) :=
  h.padded (renumbers_from k r.function.line r.function.last)

theorem midpoints_pushed (r : RecursiveFunction) : midpoints s' (r.pushed k) = midpoints s r := by
  rw [midpoints, midpoints, (padded_lines h r).filterMap_eq midpointName?_nil]

theorem arguments_pushed (r : RecursiveFunction) : arguments s' (r.pushed k) = arguments s r := by
  simp only [arguments, midpoints_pushed h]
  simp only [pushed, List.any_map]
  rfl

end RecursiveFunction

/-! ## Structures and memory
The signs of data structures and of memory are patterns in the text. A name that is found there is
looked up with what stands behind it, across blanks. -/

namespace Text

theorem after?_append_break {part : Text} (hpart : '\n' ∉ part) (front back : Text) :
    after? part (front ++ '\n' :: back) = (after? part front).map (· ++ '\n' :: back) := by
  rw [after?, after?, startsWith_append_break hpart]
  split
  next h =>
    have hlength : part.length ≤ front.length := (List.isPrefixOf_iff_prefix.mp h).length_le
    rw [List.drop_append_of_le_length hlength]
    rfl
  next => rfl

theorem head?_trimStart_interlined {indented : Bool} {w : Text} (hw : BlankLine indented w)
    (front back : Text) :
    (trimStart (front ++ '\n' :: (w ++ back))).head? =
      (trimStart (front ++ '\n' :: back)).head? := by
  have hbreak : isBlank '\n' = true := rfl
  have hline : (w ++ back).dropWhile isBlank = back.dropWhile isBlank :=
    trimStart_append hw.isBlank_of_mem back
  induction front with
  | nil => simp [trimStart, hbreak, hline]
  | cons c front ih =>
    rw [trimStart, trimStart] at ih
    rw [trimStart, trimStart, List.cons_append, List.cons_append, List.dropWhile_cons,
      List.dropWhile_cons]
    split
    · exact ih
    · rfl

theorem mem_lowercase_of_break {t : Text} (h : '\n' ∈ t) : '\n' ∈ lowercase t := by
  have hgo (before : Text) : '\n' ∈ lowercase.go before t := by
    induction t generalizing before with
    | nil => cases h
    | cons c rest ih =>
      rw [lowercase.go]
      rcases List.mem_cons.mp h with rfl | h
      · have hlower : '\n' ∈ lowerChar '\n' := by decide
        exact List.mem_append_left _ hlower
      · exact List.mem_append_right _ (ih h _)
  exact hgo []

end Text

/-! ### Literals -/

namespace LiteralContainers

variable {indented : Bool} {name : Text} (hname : '\n' ∉ name)
include hname

theorem after?_bracket_blankLine {w : Text} (hw : Text.BlankLine indented w) (rest : Text) :
    Text.after? (name ++ ['[']) (w ++ rest) = none := by
  obtain ⟨indent, rfl, hindent⟩ := hw.exists_eq_append
  have hpart : '\n' ∉ name ++ ['['] := by simp [hname]
  have hnone : Text.after? (name ++ ['[']) indent = none := by
    rw [Text.after?, if_neg]
    intro hstarts
    have hbracket : '[' ∈ indent := (List.isPrefixOf_iff_prefix.mp hstarts).subset (by simp)
    simpa using hindent _ hbracket
  rw [List.append_assoc, List.singleton_append, Text.after?_append_break hpart, hnone,
    Option.map_none]

theorem isIndexed_interlined {w : Text} (hw : Text.BlankLine indented w) (front back : Text) :
    isIndexed name (front ++ '\n' :: (w ++ back)) = isIndexed name (front ++ '\n' :: back) := by
  have hpart : '\n' ∉ name ++ ['['] := by simp [hname]
  have hline {w : Text} (hw : Text.BlankLine indented w) (previous : Option Char) (rest : Text) :
      isIndexed.go name previous 0 (w ++ rest) = isIndexed.go name (some '\n') 0 rest := by
    have hnone := after?_bracket_blankLine hname hw rest
    induction hw generalizing previous with
    | close =>
      rw [List.singleton_append] at hnone ⊢
      rw [isIndexed.go, hnone]
    | @indent c w _ hc hw ih =>
      rw [List.cons_append] at hnone ⊢
      rw [isIndexed.go, hnone]
      exact ih _ (after?_bracket_blankLine hname hw rest)
  -- The characters that are skipped belong to a match, which ends in front of the break.
  have hgo (previous : Option Char) (skip : Nat) (hskip : skip ≤ front.length) :
      isIndexed.go name previous skip (front ++ '\n' :: (w ++ back)) =
        isIndexed.go name previous skip (front ++ '\n' :: back) := by
    induction front generalizing previous skip with
    | nil =>
      cases Nat.le_zero.mp hskip
      have hbreak (rest : Text) : isIndexed.go name previous 0 ('\n' :: rest) =
          isIndexed.go name (some '\n') 0 rest := hline .close previous rest
      rw [List.nil_append, List.nil_append, hbreak, hbreak, hline hw]
    | cons c front ih =>
      cases skip with
      | succ skip => exact ih _ _ (Nat.le_of_succ_le_succ hskip)
      | zero =>
        have hafter (rest : Text) := Text.after?_append_break hpart (c :: front) rest
        simp only [List.cons_append] at hafter ⊢
        rw [isIndexed.go, isIndexed.go, hafter, hafter]
        cases hfound : Text.after? (name ++ ['[']) (c :: front) with
        | none => exact ih _ _ (Nat.zero_le _)
        | some index =>
          have hlength : name.length ≤ front.length := by
            rw [Text.after?] at hfound
            split at hfound
            next h =>
              have hle := (List.isPrefixOf_iff_prefix.mp h).length_le
              simpa using hle
            next => cases hfound
          simp only [Option.map_some, Text.head?_trimStart_interlined hw, ih _ _ hlength]
  exact hgo none 0 (Nat.zero_le _)

variable {k : Nat} {s s' : Snippet} (h : Interlined k s s')
include h

theorem isIndexed_eq : isIndexed name s'.clean = isIndexed name s.clean := by
  obtain ⟨w, front, back, hw, hclean, hclean'⟩ := h.clean
  rw [hclean, hclean', isIndexed_interlined hname hw]

theorem grows_eq : grows name s'.clean = grows name s.clean := by
  have hsome {part : Text} {c : Char} (hc : c ∈ part) (hblank : ¬ Text.isBlank c = true) :
      ¬ Text.IsIndent part := fun h => hblank (h.isBlank_of_mem c hc)
  have hways : ∀ way ∈ growth, '\n' ∉ way ∧ way.all Text.isBlank = false := by decide
  have hmap : (growth.map fun way => Text.contains s'.clean (name ++ way)) =
      growth.map fun way => Text.contains s.clean (name ++ way) := by
    refine List.map_congr_left fun way hway => ?_
    obtain ⟨hbreak, hshown⟩ := hways way hway
    obtain ⟨c, hc, hblank⟩ := List.all_eq_false.mp hshown
    exact h.contains_eq (by simp [hname, hbreak]) (hsome (List.mem_append_right _ hc) hblank)
  have hany := congrArg (·.any id) hmap
  simp only [List.any_map, Function.id_comp] at hany
  have hother : '\n' ∉ name ++ " = append(".toList ++ name := by simp [hname]
  have hparenthesis : '(' ∈ name ++ " = append(".toList ++ name := by simp
  rw [grows, grows, hany, h.contains_eq hother (hsome hparenthesis (by decide))]

omit hname in
theorem detect_interlined : detect s' = detect s := by
  rw [detect, detect, h.length_filter_findAll_eq (keeps_of_isSafe rfl),
    h.length_filter_findAll_eq (keeps_of_isSafe rfl)]
  · intro w m m' hsame
    rw [hsame.group_eq, grows_eq (hsame.not_mem_group 1) h]
  · intro w m m' hsame
    rw [hsame.group_eq, isIndexed_eq (hsame.not_mem_group 1) h]

end LiteralContainers

/-! ### Structures -/

namespace StructureFeatures

theorem keeps_hashSetUse : hashSetUse.Keeps true :=
  .either (keeps_of_isSafe rfl)
    (.either (keeps_of_notMember (q := call "set") (fun _ => rfl) rfl rfl (by decide))
      (keeps_of_isSafe rfl))

variable {k : Nat} {s s' : Snippet} (h : Interlined k s s')
include h

theorem showsQueue_eq : showsQueue s' = showsQueue s := by
  apply h.any_findAll_eq (keeps_of_isSafe rfl)
  intro w m m' hsame
  obtain htext | ⟨hbreak, hbreak'⟩ := hsame.text
  · rw [htext]
  · -- The name of a priority queue holds no line break.
    have hname {t name : Text} (ht : '\n' ∈ t) (hname : '\n' ∉ name) : Text.lowercase t ≠ name := by
      rintro rfl
      exact hname (Text.mem_lowercase_of_break ht)
    simp [hname hbreak, hname hbreak']

theorem detect_interlined (literals : LiteralContainers) :
    detect s' literals = detect s literals := by
  simp (disch := exact keeps_of_isSafe rfl) only [detect, showsUnionFind, h.shows_eq,
    h.shows_eq keeps_hashSetUse, showsQueue_eq h]

end StructureFeatures

/-! ### Memory -/

namespace SpaceUsage

theorem keeps_builtMap : builtMap.Keeps true :=
  .either (keeps_of_isSafe rfl) (.either (keeps_of_isSafe rfl)
    (.either (keeps_of_notMember (q := call _) (fun _ => rfl) rfl rfl (by decide))
      (keeps_of_isSafe rfl)))

theorem keeps_copy : copy.Keeps true := by
  iterate 9 refine .either (keeps_of_isSafe rfl) ?_
  refine .either ?_ (keeps_of_isSafe rfl)
  exact keeps_of_notMember (q := "list" ++ (spaced "(" ++ one .inWord)) (fun _ => rfl) rfl rfl
    (by decide)

theorem sizedAllocations_interlined {s s' : Snippet} {front back : Text}
    (hclean : s.clean = front ++ '\n' :: back)
    (hclean' : s'.clean = front ++ '\n' :: '\n' :: back) :
    sizedAllocations s' = sizedAllocations s := by
  have hsafe : ∀ p ∈ sizedBuffers, p.isSafe false = true := List.all_eq_true.mp rfl
  rw [sizedAllocations, sizedAllocations, hclean, hclean', List.filter_flatMap,
    List.filter_flatMap, List.length_flatMap, List.length_flatMap]
  congr 1
  refine List.map_congr_left fun p hp => ?_
  apply (keeps_of_isSafe (hsafe p hp)).length_filter_eq .close
  intro m m' hsame
  rw [hasVariableSize, hasVariableSize, hsame.groups]

variable {k : Nat} {s s' : Snippet} (h : Interlined k s s')
include h

theorem growsString_eq (f : LoopForest) :
    growsString s' (f.map (NestedLoop.pushed k)) = growsString s f := by
  have hnames : (emptyString.findAll s'.clean).map (·.group 1) =
      (emptyString.findAll s.clean).map (·.group 1) :=
    h.map_findAll_eq (keeps_of_isSafe rfl) fun hsame => hsame.group_eq 1
  have hempty (names : List Text) : appendsTo names [] = false := rfl
  rw [growsString, growsString, hnames]
  congr 1
  apply h.any_zipIdx_eq
  · intro line n
    simp only [LoopForest.inLoop_pushed]
  · intro depth
    simp only [hempty, Bool.and_false]

theorem detect_interlined (hsized : sizedAllocations s' = sizedAllocations s) (f : LoopForest)
    (structures : StructureFeatures) (literals : LiteralContainers) :
    detect s' (f.map (NestedLoop.pushed k)) structures literals =
      detect s f structures literals := by
  simp (disch := exact keeps_of_isSafe rfl) only [detect, copiesSilently, h.shows_eq, h.count_eq,
    h.shows_eq keeps_copy, h.count_eq keeps_builtMap, h.language, hsized, growsString_eq h]

end SpaceUsage

end Asymptote
