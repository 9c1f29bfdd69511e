import Asymptote.Engine
import Asymptote.Proofs.Pattern.Fit
import Mathlib.Data.List.Find
import Mathlib.Data.List.Pairwise

/-! # Families of hazards
Members of a family exclude each other, some of them since one pattern lies within another. -/
namespace Asymptote

/-! ## Patterns within patterns
One pattern contains another if all that it fits has a part that the other fits. A text that shows
the one then shows the other too. -/

namespace Pattern

variable {p p' q q' : Pattern} {t : Text}

/-- The second pattern fits all stretches that the first one fits. -/
structure Refines (p q : Pattern) : Prop where
  fits : ∀ {front text back kept}, p.Fits front text back kept →
    ∃ kept', q.Fits front text back kept'

/-- The second pattern fits a part of every stretch that the first one fits. -/
structure Contains (p q : Pattern) : Prop where
  exists_part : ∀ {front text back kept}, p.Fits front text back kept →
    ∃ before part behind kept', text = before ++ (part ++ behind) ∧
      q.Fits (front ++ before) part (behind ++ back) kept'

namespace Refines

theorem refl (p : Pattern) : p.Refines p :=
  ⟨fun h => ⟨_, h⟩⟩

theorem edge (p : Pattern) : (edge ++ p).Refines p :=
  ⟨fun h => ⟨_, (fits_edge_append.mp h).2⟩⟩

theorem append (hp : p.Refines p') (hq : q.Refines q') : (p ++ q).Refines (p' ++ q') where
  fits h := by
    obtain ⟨first, second, _, _, rfl, -, hfirst, hsecond⟩ := fits_append.mp h
    obtain ⟨keptFirst, hfirst⟩ := hp.fits hfirst
    obtain ⟨keptSecond, hsecond⟩ := hq.fits hsecond
    exact ⟨_, fits_append.mpr ⟨first, second, keptFirst, keptSecond, rfl, rfl, hfirst, hsecond⟩⟩

theorem contains (h : p.Refines q) : p.Contains q where
  exists_part {_ text _ _} hfits := by
    obtain ⟨kept', hfits⟩ := h.fits hfits
    exact ⟨[], text, [], kept', by simp, by simpa using hfits⟩

end Refines

namespace Contains

theorem append (h : p.Contains q) (p' : Pattern) : (p ++ p').Contains q where
  exists_part hfits := by
    obtain ⟨first, second, _, _, rfl, -, hfirst, -⟩ := fits_append.mp hfits
    obtain ⟨before, part, behind, kept', rfl, hpart⟩ := h.exists_part hfirst
    exact ⟨before, part, behind ++ second, kept', by simp, by simpa using hpart⟩

theorem either (hp : p.Contains q) (hp' : p'.Contains q) : (either p p').Contains q where
  exists_part hfits := hfits.elim hp.exists_part hp'.exists_part

theorem inl (h : p.Contains q) (q' : Pattern) : p.Contains (Pattern.either q q') where
  exists_part hfits := by
    obtain ⟨before, part, behind, kept', htext, hpart⟩ := h.exists_part hfits
    exact ⟨before, part, behind, kept', htext, .inl hpart⟩

theorem inr (h : p.Contains q) (q' : Pattern) : p.Contains (Pattern.either q' q) where
  exists_part hfits := by
    obtain ⟨before, part, behind, kept', htext, hpart⟩ := h.exists_part hfits
    exact ⟨before, part, behind, kept', htext, .inr hpart⟩

theorem occursIn (h : p.Contains q) (hp : p.occursIn t = true) : q.occursIn t = true := by
  obtain ⟨front, text, back, kept, rfl, hfits⟩ := occursIn_iff.mp hp
  obtain ⟨before, part, behind, kept', rfl, hpart⟩ := h.exists_part hfits
  exact occursIn_iff.mpr ⟨front ++ before, part, behind ++ back, kept', by simp, hpart⟩

end Contains

end Pattern

/-! ## Families of hazards
Some entries of the table are about one problem and tell apart how it is solved: by recursion or by
iteration, with a memo or without. Such a family agrees on at most one of its members, so its order
in the table decides nothing. -/

namespace HazardView
open Pattern

variable {v : HazardView}

def Exclusive (tests : List (HazardView → Bool)) : Prop :=
  tests.Pairwise fun p q => ∀ v, ¬ (p v = true ∧ q v = true)

theorem exclusive_pair {p q : HazardView → Bool} (h : ∀ v, p v = true → q v = true → False) :
    Exclusive [p, q] := by
  simpa [Exclusive] using h

theorem recursiveCalls?_ne_none {parts : List String} {test : List Snippet.CallSite → Bool}
    (h : (v.recursiveCalls? parts).any test = true) : v.recursiveCalls? parts ≠ none := by
  intro hnone
  rw [hnone] at h
  cases h

theorem exclusive_fibonacci :
    Exclusive [isFibonacciMemo, isFibonacciNaive, isFibonacciIterative] := by
  have hmemo {v : HazardView} (h : v.isFibonacciMemo = true) :
      v.recursiveCalls? ["fib"] ≠ none ∧ v.memoizes = true := by
    simp only [isFibonacciMemo, Bool.and_eq_true] at h
    exact ⟨Option.isSome_iff_ne_none.mp h.1, h.2⟩
  have hnaive {v : HazardView} (h : v.isFibonacciNaive = true) :
      v.recursiveCalls? ["fib"] ≠ none ∧ v.memoizes = false := by
    simp only [isFibonacciNaive, Bool.and_eq_true, Bool.not_eq_true'] at h
    exact ⟨recursiveCalls?_ne_none h.1, h.2⟩
  have hiterative {v : HazardView} (h : v.isFibonacciIterative = true) :
      v.recursiveCalls? ["fib"] = none := by
    simp only [isFibonacciIterative, Bool.and_eq_true] at h
    exact Option.isNone_iff_eq_none.mp h.1.1.2
  refine .cons (List.forall_mem_cons.mpr ⟨?_, List.forall_mem_singleton.mpr ?_⟩) (exclusive_pair ?_)
  · exact fun v h => Bool.false_ne_true ((hnaive h.2).2.symm.trans (hmemo h.1).2)
  · exact fun v h => (hmemo h.1).1 (hiterative h.2)
  · exact fun v h h' => (hnaive h).1 (hiterative h')

theorem exclusive_fastPower : Exclusive [isFastPowerRecursive, isFastPowerIterative] := by
  refine exclusive_pair fun v hrecursive hiterative => ?_
  simp only [isFastPowerRecursive, isFastPowerIterative, Bool.and_eq_true] at hrecursive hiterative
  exact recursiveCalls?_ne_none hrecursive.2 (Option.isNone_iff_eq_none.mp hiterative.1.2)

theorem exclusive_gcd : Exclusive [isGcdRecursive, isGcdIterative] := by
  refine exclusive_pair fun v hrecursive hiterative => ?_
  simp only [isGcdIterative, Bool.and_eq_true] at hiterative
  exact recursiveCalls?_ne_none hrecursive (Option.isNone_iff_eq_none.mp hiterative.1.1.2)

theorem recurses_of_searchesRecursively {f : Snippet.Function} (hf : f ∈ v.snippet.functions)
    (h : v.searchesRecursively f = true) : v.recurses = true := by
  simp only [searchesRecursively, Bool.and_eq_true] at h
  exact List.any_eq_true.mpr ⟨f, hf, h.1.1.1.1⟩

theorem exclusive_binarySearch : Exclusive [isBinarySearchRecursive, isBinarySearchIterative] := by
  refine exclusive_pair fun v hrecursive hiterative => ?_
  obtain ⟨f, hf, hsearches⟩ := List.any_eq_true.mp hrecursive
  have hrecurses := recurses_of_searchesRecursively hf hsearches
  rw [isBinarySearchIterative] at hiterative
  split at hiterative
  · simp only [Bool.and_eq_true, Bool.not_eq_true'] at hiterative
    exact Bool.false_ne_true (hiterative.1.1.2.symm.trans hrecurses)
  · cases hiterative

theorem fourName_contains_fourHint : fourName.Contains fourHint := by
  have hword : (caseless ("four" ++ opt "_" ++ "sum")).Contains (caseless "four") :=
    ((Refines.refl (caseless "four")).contains.append _).append _
  have hdigit : (caseless (edge ++ "4" ++ opt "_" ++ "sum")).Contains
      (caseless ("4" ++ opt "_" ++ "sum")) :=
    (((Refines.edge (caseless "4")).append (.refl _)).append (.refl _)).contains
  exact (hword.inl _).either ((hdigit.inl _).inr _)

theorem exclusive_sums : Exclusive [isFourSum, isThreeSum] := by
  refine exclusive_pair fun v hfour hthree => ?_
  simp only [isFourSum, isThreeSum, Bool.and_eq_true, Bool.not_eq_true'] at hfour hthree
  exact Bool.false_ne_true
    (hthree.1.1.1.2.symm.trans (fourName_contains_fourHint.occursIn hfour.1.2))

end HazardView

namespace Hazard
open HazardView

def families : List (List String) :=
  [["fibonacci_memo", "fibonacci_naive", "fibonacci_iterative"],
    ["fast_power_recursive", "fast_power_iterative"],
    ["gcd_recursive", "gcd_iterative"],
    ["four_sum", "three_sum"],
    ["binary_search_recursive", "binary_search_iterative"]]

def members (family : List String) : List Hazard :=
  table.filter fun h => family.contains h.name

def findAmong? (entries : List Hazard) (s : Snippet) (disabled : List String) : Option Hazard :=
  if s.isEmpty then none
  else entries.find? fun h => !disabled.contains h.name && h.recognizes (.ofSnippet s)

theorem findAmong?_table (s : Snippet) (disabled : List String) :
    findAmong? table s disabled = find? s disabled :=
  rfl

variable {family disabled : List String} {s : Snippet} {entries order before behind : List Hazard}

theorem map_name_members : ∀ family ∈ families, (members family).map (·.name) = family := by
  decide

theorem exists_table_eq (hfamily : family ∈ families) :
    ∃ before behind, table = before ++ members family ++ behind := by
  simp only [families, List.mem_cons, List.not_mem_nil, or_false] at hfamily
  obtain rfl | rfl | rfl | rfl | rfl := hfamily
  · exact ⟨table.take 5, table.drop 8, rfl⟩
  · exact ⟨table.take 9, table.drop 11, rfl⟩
  · exact ⟨table.take 11, table.drop 13, rfl⟩
  · exact ⟨table.take 25, table.drop 27, rfl⟩
  · exact ⟨table.take 28, table.drop 30, rfl⟩

theorem exclusive_members (hfamily : family ∈ families) :
    Exclusive ((members family).map (·.recognizes)) := by
  simp only [families, List.mem_cons, List.not_mem_nil, or_false] at hfamily
  obtain rfl | rfl | rfl | rfl | rfl := hfamily
  · exact exclusive_fibonacci
  · exact exclusive_fastPower
  · exact exclusive_gcd
  · exact exclusive_sums
  · exact exclusive_binarySearch

theorem subsingleton_of_exclusive (h : Exclusive (entries.map (·.recognizes)))
    (v : HazardView) : {h ∈ entries | h.recognizes v = true}.Subsingleton := by
  intro a ha b hb
  by_contra hne
  have hsymm : Std.Symm fun h h' : Hazard =>
      ∀ v, ¬ (h.recognizes v = true ∧ h'.recognizes v = true) :=
    ⟨fun _ _ hnot v hboth => hnot v hboth.symm⟩
  exact (List.pairwise_map.mp h).forall ha.1 hb.1 hne v ⟨ha.2, hb.2⟩

theorem findAmong?_of_perm (h : Exclusive (entries.map (·.recognizes)))
    (hperm : entries.Perm order) :
    findAmong? (before ++ order ++ behind) s disabled =
      findAmong? (before ++ entries ++ behind) s disabled := by
  have hfirst : entries.find? (fun h => !disabled.contains h.name && h.recognizes (.ofSnippet s)) =
      order.find? fun h => !disabled.contains h.name && h.recognizes (.ofSnippet s) := by
    refine List.find?_eq_find?_of_perm hperm ((subsingleton_of_exclusive h (.ofSnippet s)).anti ?_)
    exact fun a ha => ⟨ha.1, (Bool.and_eq_true_iff.mp ha.2).2⟩
  simp only [findAmong?, List.find?_append, hfirst]

/-- At most one member of a family recognizes a snippet. So in whatever order the members stand in
their place of the table, and whatever is disabled, the same entry is found. -/
theorem families_exclusive (s : Snippet) (hfamily : family ∈ families) :
    (members family).map (·.name) = family ∧
      {h ∈ members family | h.recognizes (.ofSnippet s) = true}.Subsingleton ∧
        ∃ before behind, table = before ++ members family ++ behind ∧
          ∀ order, (members family).Perm order → ∀ disabled,
            findAmong? (before ++ order ++ behind) s disabled = find? s disabled := by
  have hexclusive := exclusive_members hfamily
  obtain ⟨before, behind, htable⟩ := exists_table_eq hfamily
  refine ⟨map_name_members family hfamily, subsingleton_of_exclusive hexclusive _, before, behind,
    htable, fun order hperm disabled => ?_⟩
  rw [findAmong?_of_perm hexclusive hperm, ← htable, findAmong?_table]

def branchingFibonacci : Text :=
  "def fib(n):\n    return n if n < 2 else fib(n - 1) + fib(n - 2)\n".toList

theorem families_exclusive_fibonacci :
    let family := ["fibonacci_memo", "fibonacci_naive", "fibonacci_iterative"]
    let s := Snippet.ofCode .python branchingFibonacci
    family ∈ families ∧ (members family).Perm (members family).reverse ∧
      ∃ before behind, table = before ++ members family ++ behind ∧
        (findAmong? (before ++ (members family).reverse ++ behind) s []).map (·.name) =
          some "fibonacci_naive" := by
  intro family s
  have hfamily : family ∈ families := by decide
  have hperm : (members family).Perm (members family).reverse := (List.reverse_perm _).symm
  obtain ⟨-, -, before, behind, htable, hsame⟩ := families_exclusive s hfamily
  refine ⟨hfamily, hperm, before, behind, htable, ?_⟩
  rw [hsame _ hperm]
  decide

end Hazard

end Asymptote
