import Asymptote.Proofs.Snippet.Bracket
import Asymptote.Proofs.Snippet.Call

/-! # Arguments of the calls in a text
The calls of a name are read from left to right, each of them once: one for each place where the
name stands as a whole word in front of an opening parenthesis. Calls may lie in the arguments of
one another. What is read for one ends at the first closing bracket by which more brackets are
closed than opened; without such a bracket all the text is read. -/
namespace Asymptote.Snippet

variable {name t front inner arguments : Text}

/-- The arguments are what stands in the text up to the bracket that closes one in front of it. -/
inductive Encloses : Text → Text → Prop
  | closed {arguments : Text} {c : Char} (rest : Text) (front : StaysOpen 0 arguments)
      (closer : isCloser c = true)
      (more : openers (arguments ++ [c]) < closers (arguments ++ [c])) :
      Encloses (arguments ++ c :: rest) arguments
  | unclosed {inner : Text} (front : StaysOpen 0 inner) : Encloses inner inner

theorem encloses_iff : Encloses inner arguments ↔ uptoClose 0 inner = arguments := by
  have hall {inner : Text} (hopen : StaysOpen 0 inner) : uptoClose 0 inner = inner := by
    simpa [uptoClose] using uptoClose_append hopen []
  have hfirst {front : Text} {c : Char} (rest : Text) (hfront : StaysOpen 0 front)
      (hmore : openers (front ++ [c]) < closers (front ++ [c])) :
      uptoClose 0 (front ++ c :: rest) = front := by
    obtain ⟨hcloser, hcount⟩ := hfront.isCloser_of_lt hmore
    rw [uptoClose_append hfront, hcount, Nat.zero_add, Nat.sub_self, uptoClose_zero_cons hcloser,
      List.append_nil]
  constructor
  · rintro (⟨rest, hfront, -, hmore⟩ | hopen)
    · exact hfirst rest hfront hmore
    · exact hall hopen
  · rintro rfl
    rcases staysOpen_or_exists_first inner with hopen | ⟨front, c, rest, rfl, hfront, hmore⟩
    · rw [hall hopen]
      exact .unclosed hopen
    · rw [hfirst rest hfront hmore]
      exact .closed rest hfront (hfront.isCloser_of_lt hmore).1 hmore

theorem Encloses.staysOpen (h : Encloses inner arguments) : StaysOpen 0 arguments := by
  cases h with
  | closed _ hfront => exact hfront
  | unclosed hopen => exact hopen

def ReadsCall (name t front arguments : Text) : Prop :=
  ∃ gap inner, Text.NameAt name t front (gap ++ '(' :: inner) ∧
    (∀ c ∈ gap, Text.isBlank c = true) ∧ Encloses inner arguments

theorem readsCall_of_arguments? {behind : Text} (h : Text.NameAt name t front behind)
    (hread : arguments? behind = some arguments) : ReadsCall name t front arguments := by
  obtain ⟨gap, inner, rfl, hgap, hupto⟩ := arguments?_eq_some_iff.mp hread
  exact ⟨gap, inner, h, hgap, encloses_iff.mpr hupto⟩

/-! ## The places of the calls -/

def callFronts (name t : Text) : List Text :=
  ((Text.afterWord name t).filter fun behind => (arguments? behind).isSome).map fun behind =>
    t.take (t.length - (name.length + behind.length))

section

variable (hname : name.IsName)
include hname

theorem mem_callFronts_iff : front ∈ callFronts name t ↔ CallAt name t front := by
  simp only [callFronts, List.mem_map, List.mem_filter, Text.mem_afterWord_iff hname,
    isSome_arguments?_iff, CallAt]
  constructor
  · rintro ⟨behind, ⟨⟨front', h⟩, hopens⟩, rfl⟩
    rw [h.take_eq]
    exact ⟨behind, h, hopens⟩
  · rintro ⟨behind, h, hopens⟩
    exact ⟨behind, ⟨⟨front, h⟩, hopens⟩, h.take_eq⟩

theorem pairwise_callFronts :
    (callFronts name t).Pairwise fun first later => first.length < later.length := by
  have hshorter := (Text.pairwise_afterWord hname t).filter fun behind => (arguments? behind).isSome
  refine List.pairwise_map.mpr (hshorter.imp_of_mem fun hfirst hlater hlt => ?_)
  obtain ⟨front, hfront⟩ := (Text.mem_afterWord_iff hname).mp (List.mem_of_mem_filter hfirst)
  obtain ⟨front', hfront'⟩ := (Text.mem_afterWord_iff hname).mp (List.mem_of_mem_filter hlater)
  rw [hfront.take_eq, hfront'.take_eq]
  have hlength := hfront.length_eq
  have hlength' := hfront'.length_eq
  omega

theorem forall₂_callArguments :
    List.Forall₂ (ReadsCall name t) (callFronts name t) (callArguments name t) := by
  have hplace : ∀ behind ∈ Text.afterWord name t, ∃ front, Text.NameAt name t front behind :=
    fun behind hmem => (Text.mem_afterWord_iff hname).mp hmem
  rw [callFronts, callArguments]
  generalize Text.afterWord name t = behinds at hplace
  induction behinds with
  | nil => exact .nil
  | cons behind others ih =>
    obtain ⟨⟨front, hfront⟩, hothers⟩ := List.forall_mem_cons.mp hplace
    cases hread : arguments? behind with
    | none => simpa [hread] using ih hothers
    | some arguments =>
      rw [List.filter_cons_of_pos (by simp [hread]), List.map_cons, hfront.take_eq,
        List.filterMap_cons_some hread]
      exact .cons (readsCall_of_arguments? hfront hread) (ih hothers)

/-- The calls are read in the order of their places, one for each place of the name as a whole word
in front of a parenthesis. Wherever the scan for the bracket that closes has come to, no more
brackets are closed than opened, and their difference is what it counts as open. -/
theorem callArguments_in_order (t : Text) :
    (∃ fronts : List Text, (∀ front, front ∈ fronts ↔ CallAt name t front) ∧
      fronts.Pairwise (fun first later => first.length < later.length) ∧
      List.Forall₂ (ReadsCall name t) fronts (callArguments name t)) ∧
    ∀ read rest, read <+: uptoClose 0 (read ++ rest) → closers read ≤ openers read ∧
      uptoClose 0 (read ++ rest) = read ++ uptoClose (openers read - closers read) rest := by
  refine ⟨⟨callFronts name t, fun front => mem_callFronts_iff hname, pairwise_callFronts hname,
    forall₂_callArguments hname⟩, fun read rest hread => ?_⟩
  have hopen : StaysOpen 0 read := (encloses_iff.mpr rfl).staysOpen.of_prefix hread
  have hscan := uptoClose_append hopen rest
  have hcount := hopen read List.prefix_rfl
  rw [Nat.zero_add] at hscan hcount
  exact ⟨hcount, hscan⟩

end

def nestedCalls : Text :=
  "f(a[:m], f(b, c)) + fé(q) + f (d] + f(e".toList

theorem callArguments_in_order_nested :
    Text.IsName ['f'] ∧ ∃ fronts : List Text,
      (∀ front, front ∈ fronts ↔ CallAt ['f'] nestedCalls front) ∧
      fronts.Pairwise (fun first later => first.length < later.length) ∧
      List.Forall₂ (ReadsCall ['f'] nestedCalls) fronts
        (["a[:m], f(b, c)", "b, c", "d", "e"].map String.toList) := by
  have hname : Text.IsName ['f'] := by decide
  have hcalls : callArguments ['f'] nestedCalls =
      ["a[:m], f(b, c)", "b, c", "d", "e"].map String.toList := by
    decide
  rw [← hcalls]
  exact ⟨hname, (callArguments_in_order hname nestedCalls).1⟩

end Asymptote.Snippet
