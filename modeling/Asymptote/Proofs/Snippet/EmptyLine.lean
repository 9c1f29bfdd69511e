import Asymptote.Proofs.Snippet.Block
import Asymptote.Proofs.Snippet.LineBreak
import Asymptote.Proofs.Text.Trim

/-! # Blank lines in the table
A blank line added to a text adds an empty line to its table. The other lines are pushed behind it
unchanged, and so are the blocks and functions that they make up. -/
namespace Asymptote.Snippet

def pushed (k n : Nat) : Nat :=
  if n < k then n else n + 1

section

variable {k : Nat}

theorem pushed_of_lt {n : Nat} (h : n < k) : pushed k n = n :=
  if_pos h

theorem pushed_of_le {n : Nat} (h : k ≤ n) : pushed k n = n + 1 :=
  if_neg (Nat.not_lt.mpr h)

@[simp] theorem pushed_lt_pushed {m n : Nat} : pushed k m < pushed k n ↔ m < n := by
  unfold pushed
  split <;> split <;> omega

@[simp] theorem pushed_le_pushed {m n : Nat} : pushed k m ≤ pushed k n ↔ m ≤ n := by
  unfold pushed
  split <;> split <;> omega

@[simp] theorem pushed_inj {m n : Nat} : pushed k m = pushed k n ↔ m = n := by
  unfold pushed
  split <;> split <;> omega

@[simp] theorem pushed_ne (n : Nat) : pushed k n ≠ k := by
  unfold pushed
  split <;> omega

theorem pushed_min (m n : Nat) : pushed k (min m n) = min (pushed k m) (pushed k n) := by
  unfold pushed
  split <;> split <;> split <;> omega

end

inductive Widens (k : Nat) : List Line → List Line → Prop
  | intro {before after : List Line} {head : Line} (hlength : before.length = k) :
      Widens k (before ++ head :: after) (before ++ ⟨[], head.depth, head.depth⟩ :: head :: after)

namespace Line

theorem table_append (depth : Nat) (raws : List Text) :
    ∃ behind, ∀ others,
      table depth (raws ++ others) = table depth raws ++ table behind others := by
  induction raws generalizing depth with
  | nil => exact ⟨depth, fun _ => rfl⟩
  | cons raw raws ih =>
    obtain ⟨behind, h⟩ := ih (depthBehind depth (Text.trimEnd raw))
    exact ⟨behind, fun others => by simp [table, h]⟩

theorem widens_ofText {indented : Bool} {w : Text} (hw : Text.BlankLine indented w)
    (front back : Text) :
    Widens (front.count '\n' + 1) (ofText (front ++ '\n' :: back))
      (ofText (front ++ '\n' :: (w ++ back))) := by
  obtain ⟨indent, rfl, hindent⟩ := hw.exists_eq_append
  obtain ⟨depth, htable⟩ := table_append 0 (Text.pieces '\n' front)
  have hlength : (table 0 (Text.pieces '\n' front)).length = front.count '\n' + 1 := by
    rw [length_table, Text.length_pieces]
  rw [ofText, ofText, Text.pieces_append, Text.pieces_append, List.append_assoc,
    List.singleton_append, Text.pieces_append, Text.pieces_of_notMem hindent.break_notMem, htable,
    htable]
  cases hback : Text.pieces '\n' back with
  | nil => exact absurd (Text.length_pieces_pos '\n' back) (by simp [hback])
  | cons raw others =>
    have hline (behind : Nat) : table behind ([indent] ++ raw :: others) =
        ⟨[], behind, behind⟩ :: table behind (raw :: others) := by
      rw [List.singleton_append, table, hindent.trimEnd_eq_nil]
      rfl
    rw [hline]
    exact Widens.intro hlength

end Line

namespace Widens

variable {k : Nat} {lines lines' : List Line}

theorem length_eq (h : Widens k lines lines') : lines'.length = lines.length + 1 := by
  cases h
  simp only [List.length_append, List.length_cons]
  omega

theorem lt_length (h : Widens k lines lines') : k < lines.length := by
  cases h with
  | intro hlength => simp [← hlength]

theorem getElem?_pushed (h : Widens k lines lines') (n : Nat) :
    lines'[pushed k n]? = lines[n]? := by
  cases h with
  | @intro before after head hlength =>
    rcases Nat.lt_or_ge n k with hn | hn
    · rw [pushed_of_lt hn, List.getElem?_append_left (by omega),
        List.getElem?_append_left (by omega)]
    · obtain ⟨m, rfl⟩ := Nat.exists_eq_add_of_le hn
      rw [pushed_of_le hn, ← hlength, List.getElem?_append_right (by omega),
        List.getElem?_append_right (by omega), Nat.add_assoc, Nat.add_sub_cancel_left,
        Nat.add_sub_cancel_left, List.getElem?_cons_succ]

theorem getElem?_self (h : Widens k lines lines') :
    ∃ depth, lines'[k]? = some ⟨[], depth, depth⟩ := by
  cases h with
  | @intro before after head hlength => exact ⟨head.depth, by simp [← hlength]⟩

end Widens

/-- What lies ahead in a scan of two tables, the second of which has an empty line more: that line
is still to come, or it has been passed. -/
inductive Pushes (k : Nat) : (next : Nat) → List Line → (next' : Nat) → List Line → Prop
  | ahead {next : Nat} {before after : List Line} {head : Line} (hk : next + before.length = k) :
      Pushes k next (before ++ head :: after) next
        (before ++ ⟨[], head.depth, head.depth⟩ :: head :: after)
  | passed {next : Nat} {lines : List Line} (hk : k ≤ next) :
      Pushes k next lines (next + 1) lines

namespace Pushes

variable {k next next' : Nat} {line : Line} {lines' others : List Line}

theorem nil (h : Pushes k next [] next' lines') : lines' = [] := by
  generalize hlines : ([] : List Line) = lines at h
  cases h with
  | ahead => simp at hlines
  | passed => rfl

theorem cons (h : Pushes k next (line :: others) next' lines') :
    ∃ others', Pushes k (next + 1) others (pushed k next + 1) others' ∧
      (next' = pushed k next ∧ lines' = line :: others' ∨
        next' + 1 = pushed k next ∧
          lines' = ⟨[], line.depth, line.depth⟩ :: line :: others') := by
  generalize hlines : line :: others = lines at h
  cases h with
  | @ahead before after head hk =>
    cases before with
    | nil =>
      cases hlines
      rw [List.length_nil] at hk
      rw [pushed_of_le (show k ≤ next by omega)]
      exact ⟨others, .passed (by omega), .inr ⟨rfl, rfl⟩⟩
    | cons first before =>
      cases hlines
      rw [List.length_cons] at hk
      rw [pushed_of_lt (show next < k by omega)]
      exact ⟨_, .ahead (by omega), .inl ⟨rfl, rfl⟩⟩
  | passed hk =>
    cases hlines
    rw [pushed_of_le hk]
    exact ⟨others, .passed (by omega), .inl ⟨rfl, rfl⟩⟩

end Pushes

theorem Widens.drop {k : Nat} {lines lines' : List Line} (h : Widens k lines lines') (n : Nat) :
    Pushes k (n + 1) (lines.drop (n + 1)) (pushed k n + 1) (lines'.drop (pushed k n + 1)) := by
  cases h with
  | @intro before after head hlength =>
    rcases Nat.lt_or_ge n k with hn | hn
    · rw [pushed_of_lt hn, List.drop_append_of_le_length (by omega),
        List.drop_append_of_le_length (by omega)]
      exact .ahead (by simp; omega)
    · obtain ⟨m, rfl⟩ := Nat.exists_eq_add_of_le hn
      have hdrop : (before ++ ⟨[], head.depth, head.depth⟩ :: head :: after).drop (k + m + 1 + 1) =
          (before ++ head :: after).drop (k + m + 1) := by
        rw [← hlength]
        simp [List.drop_append, Nat.add_assoc]
      rw [pushed_of_le hn, hdrop]
      exact .passed (by omega)

namespace Block

variable {k next next' : Nat} {lines lines' : List Line}

theorem offsideEnd_pushes (indent best : Nat) (h : Pushes k next lines next' lines') :
    offsideEnd indent (pushed k best) next' lines' =
      pushed k (offsideEnd indent best next lines) := by
  induction lines generalizing best next next' lines' with
  | nil =>
    rw [h.nil]
    rfl
  | cons line others ih =>
    obtain ⟨others', hothers, ⟨rfl, rfl⟩ | ⟨hnext, rfl⟩⟩ := h.cons
    · simp only [offsideEnd, ih _ hothers]
      split_ifs <;> rfl
    · simp only [offsideEnd, hnext, ih _ hothers]
      split_ifs <;> first | rfl | contradiction

theorem braceEnd_pushes (depth best : Nat) (h : Pushes k next lines next' lines') :
    braceEnd depth (pushed k best) next' lines' = pushed k (braceEnd depth best next lines) := by
  induction lines generalizing best next next' lines' with
  | nil =>
    rw [h.nil]
    rfl
  | cons line others ih =>
    obtain ⟨others', hothers, ⟨rfl, rfl⟩ | ⟨hnext, rfl⟩⟩ := h.cons
    · simp only [braceEnd, ih _ hothers]
      split_ifs <;> rfl
    · simp only [braceEnd, hnext, ih _ hothers]
      split_ifs <;> rfl

theorem nextCode_pushes (h : Pushes k next lines next' lines') :
    nextCode next' lines' =
      (nextCode next lines).map fun (number, line) => (pushed k number, line) := by
  induction lines generalizing next next' lines' with
  | nil =>
    rw [h.nil]
    rfl
  | cons line others ih =>
    obtain ⟨others', hothers, ⟨rfl, rfl⟩ | ⟨hnext, rfl⟩⟩ := h.cons
    · simp only [nextCode, ih hothers]
      split_ifs <;> rfl
    · simp only [nextCode, hnext, ih hothers]
      split_ifs <;> first | rfl | contradiction

theorem last_pushed (l : Language) (h : Widens k lines lines') (number : Nat) :
    last l lines' (pushed k number) = pushed k (last l lines number) := by
  have hhead := h.getElem?_pushed number
  cases hline : lines[number]? with
  | none =>
    rw [hline] at hhead
    rw [last, last, List.drop_eq_nil_of_le (List.getElem?_eq_none_iff.mp hline),
      List.drop_eq_nil_of_le (List.getElem?_eq_none_iff.mp hhead)]
  | some head =>
    rw [hline] at hhead
    have hnext := nextCode_pushes (h.drop number)
    simp only [last, drop_eq_cons hline, drop_eq_cons hhead, hnext,
      offsideEnd_pushes _ _ (h.drop _), braceEnd_pushes _ _ (h.drop _)]
    split_ifs
    · rfl
    · rfl
    · rfl
    · cases nextCode (number + 1) (lines.drop (number + 1)) with
      | none => rfl
      | some found =>
        simp only [Option.map_some, braceEnd_pushes _ _ (h.drop _)]
        split_ifs <;> rfl

end Block

/-! ## Numbered lines -/

theorem Widens.zipIdx {k : Nat} {lines lines' : List Line} (h : Widens k lines lines') :
    ∃ front back depth,
      lines.zipIdx.map (Prod.map id (pushed k)) = front ++ back ∧
        lines'.zipIdx = front ++ (⟨[], depth, depth⟩, k) :: back := by
  cases h with
  | @intro before after head hlength =>
    have hfront : before.zipIdx.map (Prod.map id (pushed k)) = before.zipIdx := by
      refine (List.map_congr_left fun entry hentry => ?_).trans (List.map_id _)
      have hnumber : entry.2 < k := by
        have hbound := (List.mem_zipIdx hentry).2.1
        omega
      exact Prod.ext rfl (pushed_of_lt hnumber)
    have hback : ((head :: after).zipIdx k).map (Prod.map id (pushed k)) =
        (head :: after).zipIdx (k + 1) := by
      rw [List.zipIdx_succ]
      refine List.map_congr_left fun entry hentry => ?_
      exact Prod.ext rfl (pushed_of_le (List.mem_zipIdx hentry).1)
    refine ⟨before.zipIdx, (head :: after).zipIdx (k + 1), head.depth, ?_, ?_⟩
    · rw [List.zipIdx_append, List.map_append, hfront, Nat.zero_add, hlength, hback]
    · rw [List.zipIdx_append, Nat.zero_add, hlength, List.zipIdx_cons]

def Function.pushed (k : Nat) (f : Function) : Function :=
  { f with line := Snippet.pushed k f.line, last := Snippet.pushed k f.last }

@[simp] theorem Function.pushed_name (k : Nat) (f : Function) : (f.pushed k).name = f.name := rfl

@[simp] theorem Function.pushed_line (k : Nat) (f : Function) :
    (f.pushed k).line = Snippet.pushed k f.line := rfl

@[simp] theorem Function.pushed_last (k : Nat) (f : Function) :
    (f.pushed k).last = Snippet.pushed k f.last := rfl

def CallSite.pushed (k : Nat) (site : CallSite) : CallSite :=
  { site with line := Snippet.pushed k site.line }

@[simp] theorem CallSite.pushed_arguments (k : Nat) (site : CallSite) :
    (site.pushed k).arguments = site.arguments := rfl

theorem functionsOf_widens (l : Language) {k : Nat} {lines lines' : List Line}
    (h : Widens k lines lines') :
    functionsOf l lines' = (functionsOf l lines).map (Function.pushed k) := by
  obtain ⟨front, back, depth, hlines, hlines'⟩ := h.zipIdx
  have hempty : (⟨[], depth, depth⟩ : Line).isBlank = true := rfl
  rw [functionsOf, functionsOf, hlines', List.filterMap_append, List.filterMap_cons]
  simp only [hempty, if_true]
  rw [← List.filterMap_append, ← hlines, List.filterMap_map, List.map_filterMap]
  congr 1
  funext ⟨line, number⟩
  simp only [Function.comp, Prod.map_apply, id, Block.last_pushed l h]
  split_ifs
  · rfl
  · cases definedName? l line.text <;> rfl

/-- The second list has the numbers of the first at their new places, and it may have that of the
added line. -/
inductive Renumbers (k : Nat) : List Nat → List Nat → Prop
  | same (numbers : List Nat) : Renumbers k numbers (numbers.map (pushed k))
  | more (front back : List Nat) :
      Renumbers k (front ++ back) (front.map (pushed k) ++ k :: back.map (pushed k))

namespace Renumbers

variable {k : Nat} {numbers numbers' : List Nat} (h : Renumbers k numbers numbers')
include h

theorem cons (n : Nat) : Renumbers k (n :: numbers) (pushed k n :: numbers') := by
  cases h with
  | same => exact .same (n :: numbers)
  | more front back => exact .more (n :: front) back

theorem any_eq {p p' : Nat → Bool} (hp : ∀ n, p' (pushed k n) = p n) (hk : p' k = false) :
    numbers'.any p' = numbers.any p := by
  cases h <;> simp [List.any_map, Function.comp_def, hp, hk]

theorem flatMap_eq {α : Type} {f f' : Nat → List α} (hf : ∀ n, f' (pushed k n) = f n)
    (hk : f' k = []) : numbers'.flatMap f' = numbers.flatMap f := by
  cases h <;> simp [List.flatMap_map, hf, hk]

end Renumbers

theorem map_pushed_of_lt {k start count : Nat} (h : start + count ≤ k) :
    (List.range' start count).map (pushed k) = List.range' start count := by
  refine (List.map_congr_left fun n hn => ?_).trans (List.map_id _)
  have hbound := (List.mem_range'_1.mp hn).2
  exact pushed_of_lt (by omega)

theorem map_pushed_of_le {k start : Nat} (count : Nat) (h : k ≤ start) :
    (List.range' start count).map (pushed k) = List.range' (start + 1) count := by
  rw [Nat.add_comm start 1, ← List.map_add_range']
  refine List.map_congr_left fun n hn => ?_
  have hbound := (List.mem_range'_1.mp hn).1
  exact (pushed_of_le (by omega)).trans (Nat.add_comm n 1)

theorem renumbers_behind (k first last : Nat) :
    Renumbers k (List.range' (first + 1) (last - first))
      (List.range' (pushed k first + 1) (pushed k last - pushed k first)) := by
  rcases Nat.lt_or_ge first k with hfirst | hfirst
  · rw [pushed_of_lt hfirst]
    rcases Nat.lt_or_ge last k with hlast | hlast
    · have hsame := Renumbers.same (k := k) (List.range' (first + 1) (last - first))
      rw [map_pushed_of_lt (by omega)] at hsame
      rwa [pushed_of_lt hlast]
    · obtain ⟨m, rfl⟩ := Nat.exists_eq_add_of_le (Nat.succ_le_of_lt hfirst)
      obtain ⟨n, rfl⟩ := Nat.exists_eq_add_of_le hlast
      have hmore := Renumbers.more (k := first.succ + m) (List.range' (first + 1) m)
        (List.range' (first + 1 + m) (n + 1))
      rw [map_pushed_of_lt (Nat.le_refl _), map_pushed_of_le _ (Nat.le_refl _),
        List.range'_append_1] at hmore
      have hbehind : List.range' first.succ m ++ (first.succ + m) ::
          List.range' (first.succ + m + 1) (n + 1) = List.range' (first + 1) (m + (n + 1 + 1)) :=
        @List.range'_append_1 first.succ m (n + 1 + 1)
      rw [hbehind] at hmore
      rwa [pushed_of_le hlast, show first.succ + m + n - first = m + (n + 1) by omega,
        show first.succ + m + n + 1 - first = m + (n + 1 + 1) by omega]
  · have hsame := Renumbers.same (k := k) (List.range' (first + 1) (last - first))
    rw [map_pushed_of_le _ (by omega)] at hsame
    have hcount : pushed k last - pushed k first = last - first := by
      unfold pushed
      split <;> split <;> omega
    rwa [hcount, pushed_of_le hfirst]

theorem renumbers_from (k first last : Nat) :
    Renumbers k (List.range' first (last + 1 - first))
      (List.range' (pushed k first) (pushed k last + 1 - pushed k first)) := by
  rcases Nat.lt_or_ge last first with h | h
  · have hpushed : pushed k last < pushed k first := pushed_lt_pushed.mpr h
    rw [Nat.sub_eq_zero_of_le h, Nat.sub_eq_zero_of_le hpushed]
    exact .same []
  · have hpushed : pushed k first ≤ pushed k last := pushed_le_pushed.mpr h
    rw [Nat.succ_sub h, Nat.succ_sub hpushed, List.range'_succ, List.range'_succ]
    exact (renumbers_behind k first last).cons first

theorem callArguments_nil (name : Text) : callArguments name [] = [] := by
  cases name <;> rfl

structure Widened (k : Nat) (s s' : Snippet) : Prop where
  language : s'.language = s.language
  lines : Widens k s.lines s'.lines
  functions : s'.functions = s.functions.map (Function.pushed k)

inductive Padded : List Text → List Text → Prop
  | same (texts : List Text) : Padded texts texts
  | more (front back : List Text) : Padded (front ++ back) (front ++ [] :: back)

namespace Padded

variable {texts texts' : List Text} (h : Padded texts texts')
include h

theorem cons (t : Text) : Padded (t :: texts) (t :: texts') := by
  cases h with
  | same => exact .same _
  | more front back => exact .more (t :: front) back

theorem any_eq {p : Text → Bool} (hp : p [] = false) : texts'.any p = texts.any p := by
  cases h with
  | same => rfl
  | more front back => simp [hp]

theorem flatMap_eq {α : Type} {f : Text → List α} (hf : f [] = []) :
    texts'.flatMap f = texts.flatMap f := by
  cases h with
  | same => rfl
  | more front back => simp [hf]

theorem filterMap_eq {α : Type} {f : Text → Option α} (hf : f [] = none) :
    texts'.filterMap f = texts.filterMap f := by
  cases h with
  | same => rfl
  | more front back => simp [hf]

theorem find?_map_eq {f : Text → Text} {p : Text → Bool} (hp : p (f []) = false) :
    (texts'.map f).find? p = (texts.map f).find? p := by
  cases h with
  | same => rfl
  | more front back => simp [List.find?_append, hp]

end Padded

namespace Widened

variable {k : Nat} {s s' : Snippet} (h : Widened k s s')
include h

theorem line_pushed (number : Nat) : s'.line (Snippet.pushed k number) = s.line number := by
  rw [line, line, h.lines.getElem?_pushed]

theorem line_self : s'.line k = [] := by
  obtain ⟨depth, hline⟩ := h.lines.getElem?_self
  rw [line, hline]

theorem blockEnd_pushed (number : Nat) :
    s'.blockEnd (Snippet.pushed k number) = Snippet.pushed k (s.blockEnd number) := by
  rw [blockEnd, blockEnd, h.language, Block.last_pushed s.language h.lines]

theorem padded {numbers numbers' : List Nat} (hnumbers : Renumbers k numbers numbers') :
    Padded (numbers.map s.line) (numbers'.map s'.line) := by
  have hline : (fun n => s'.line (Snippet.pushed k n)) = s.line := funext h.line_pushed
  cases hnumbers with
  | same =>
    rw [List.map_map, Function.comp_def, hline]
    exact .same _
  | more front back =>
    rw [List.map_append, List.map_append, List.map_cons, List.map_map, List.map_map,
      Function.comp_def, hline, h.line_self]
    exact .more _ _

theorem any_zipIdx_eq {p p' : Line × Nat → Bool}
    (hp : ∀ line n, p' (line, Snippet.pushed k n) = p (line, n))
    (hk : ∀ depth, p' (⟨[], depth, depth⟩, k) = false) :
    s'.lines.zipIdx.any p' = s.lines.zipIdx.any p := by
  obtain ⟨front, back, depth, hlines, hlines'⟩ := h.lines.zipIdx
  have hpushed : (s.lines.zipIdx.map (Prod.map id (Snippet.pushed k))).any p' =
      s.lines.zipIdx.any p := by
    rw [List.any_map]
    exact congrArg _ (funext fun ⟨line, n⟩ => hp line n)
  rw [hlines', ← hpushed, hlines, List.any_append, List.any_append, List.any_cons, hk,
    Bool.false_or]

theorem any_lines_eq {p : Text → Bool} (hp : p [] = false) :
    (s'.lines.any fun line => p line.text) = s.lines.any fun line => p line.text := by
  have hfirst (lines : List Line) : (lines.any fun line => p line.text) =
      lines.zipIdx.any fun entry => p entry.1.text := by
    have hlines : (lines.zipIdx.map Prod.fst).any (fun line => p line.text) = _ := List.any_map
    rwa [List.zipIdx_map_fst] at hlines
  rw [hfirst, hfirst]
  exact h.any_zipIdx_eq (fun _ _ => rfl) fun _ => hp

theorem linesWith_pushed {p : Pattern} (hp : p.occursIn [] = false) :
    s'.linesWith p = (s.linesWith p).map (Snippet.pushed k) := by
  obtain ⟨front, back, depth, hlines, hlines'⟩ := h.lines.zipIdx
  have hpushed : ((s.lines.zipIdx.map (Prod.map id (Snippet.pushed k))).filter fun entry =>
      p.occursIn entry.1.text).map (·.2) = (s.linesWith p).map (Snippet.pushed k) := by
    rw [List.filter_map, List.map_map, linesWith, List.map_map]
    rfl
  rw [← hpushed, hlines, linesWith, hlines']
  simp [hp]

theorem any_functions_eq {p p' : Function → Bool} (hp : ∀ f, p' (f.pushed k) = p f) :
    s'.functions.any p' = s.functions.any p := by
  rw [h.functions, List.any_map]
  exact congrArg _ (funext hp)

theorem defines_eq (parts : List String) : s'.defines parts = s.defines parts :=
  h.any_functions_eq fun _ => rfl

/-! ## Calls -/

theorem callable?_pushed (f : Function) (number : Nat) :
    s'.callable? (f.pushed k) (Snippet.pushed k number) = s.callable? f number := by
  simp only [callable?, Function.pushed_name, Function.pushed_line, pushed_inj, h.line_pushed]

theorem callable?_self (f : Function) : s'.callable? (f.pushed k) k = some [] := by
  rw [callable?, f.pushed_line, if_neg (pushed_ne f.line).symm, h.line_self]

theorem selfCalls_pushed (f : Function) :
    s'.selfCalls (f.pushed k) = (s.selfCalls f).map (CallSite.pushed k) := by
  have hlast : min (Snippet.pushed k f.last) (s'.lines.length - 1) =
      Snippet.pushed k (min f.last (s.lines.length - 1)) := by
    have hlength : s'.lines.length - 1 = Snippet.pushed k (s.lines.length - 1) := by
      have hk := h.lines.lt_length
      rw [h.lines.length_eq, pushed_of_le (by omega)]
      omega
    rw [pushed_min, hlength]
  have hlines := renumbers_from k f.line (min f.last (s.lines.length - 1))
  rw [selfCalls, selfCalls, f.pushed_last, f.pushed_line, f.pushed_name, hlast, List.map_flatMap]
  apply hlines.flatMap_eq
  · intro n
    rw [h.callable?_pushed, List.map_map]
    rfl
  · simp [h.callable?_self, callArguments_nil]

end Widened

end Asymptote.Snippet
