import Asymptote.Proofs.Loop.Forest
import Mathlib.Algebra.Group.Prod
import Mathlib.Algebra.GroupWithZero.Nat
import Mathlib.Algebra.Order.Group.Synonym

/-! # The summary of a loop forest
The counts of loops fit together, and the heaviest chain stands for the work of all. -/
namespace Asymptote

/-! ## What the summary counts
Every loop that is not amortized is single or nested, and around every amortized one stands a loop
that is not and has its credit. So there are single loops wherever there are loops, and nested ones
wherever the credited depth exceeds one. -/

namespace LoopForest

variable {s : Snippet} {f : LoopForest} {l : NestedLoop}

theorem Rooted.exists_deepest (h : Rooted s f) (hpos : 0 < maxCreditedDepth f) :
    ∃ (index : Nat) (l : NestedLoop), f[index]? = some l ∧ l.amortization? = none ∧
      l.creditedDepth = maxCreditedDepth f := by
  obtain ⟨deep, hmem, hdepth⟩ := exists_mem_eq_foldl_max hpos
  obtain ⟨index, hindex⟩ := List.mem_iff_getElem?.mp hmem
  obtain ⟨j, base, hbase, hnone, hcredit⟩ := h.exists_credited index deep hindex
  exact ⟨j, base, hbase, hnone, hcredit.trans hdepth⟩

theorem one_le_singleLoops_iff :
    1 ≤ f.summary.singleLoops ↔ ∃ l ∈ f, l.creditedDepth = 1 ∧ l.amortization? = none := by
  simp [summary, Nat.one_le_iff_ne_zero, List.length_eq_zero_iff]

theorem one_le_nestedLoops_iff :
    1 ≤ f.summary.nestedLoops ↔ ∃ l ∈ f, 2 ≤ l.creditedDepth ∧ l.amortization? = none := by
  simp [summary, Nat.one_le_iff_ne_zero, List.length_eq_zero_iff]

structure Tally (f : LoopForest) : Prop where
  total : f.summary.singleLoops + f.summary.nestedLoops +
    (f.filter (·.amortization?.isSome)).length = f.summary.totalLoops
  single : 1 ≤ f.summary.singleLoops ↔ 1 ≤ f.summary.totalLoops
  nested : 2 ≤ f.summary.maxNestingDepth ↔ 1 ≤ f.summary.nestedLoops

theorem total_summary (hpos : ∀ l ∈ f, 1 ≤ l.creditedDepth) :
    f.summary.singleLoops + f.summary.nestedLoops +
      (f.filter (·.amortization?.isSome)).length = f.summary.totalLoops := by
  have hamortized := List.length_eq_length_filter_add (l := f) (·.amortization?.isNone)
  have hdepths := List.length_eq_length_filter_add
    (l := f.filter (·.amortization?.isNone)) (·.creditedDepth = 1)
  have hnested : ∀ l ∈ f.filter (·.amortization?.isNone),
      (!decide (l.creditedDepth = 1)) = decide (2 ≤ l.creditedDepth) := by
    intro l hl
    have hone := hpos l (List.mem_of_mem_filter hl)
    rw [← decide_not, decide_eq_decide]
    omega
  rw [List.filter_congr hnested] at hdepths
  simp only [Option.not_isNone] at hamortized
  simp only [summary]
  omega

theorem Rooted.single_iff (h : Rooted s f) :
    1 ≤ f.summary.singleLoops ↔ 1 ≤ f.summary.totalLoops := by
  rw [one_le_singleLoops_iff]
  constructor
  · rintro ⟨l, hl, _⟩
    exact List.length_pos_of_mem hl
  · intro htotal
    have hfirst := List.getElem?_eq_getElem (l := f) (i := 0) htotal
    cases h 0 f[0] hfirst with
    | outside _ amortization _ credited =>
      exact ⟨f[0], List.getElem_mem htotal, credited, amortization⟩
    | inside _ _ _ lt => omega

theorem Rooted.nested_iff (h : Rooted s f) :
    2 ≤ f.summary.maxNestingDepth ↔ 1 ≤ f.summary.nestedLoops := by
  rw [one_le_nestedLoops_iff]
  constructor
  · intro hdepth
    have hpos : 0 < maxCreditedDepth f := Nat.lt_of_lt_of_le Nat.two_pos hdepth
    obtain ⟨index, l, hl, hnone, hcredit⟩ := h.exists_deepest hpos
    exact ⟨l, List.mem_of_getElem? hl, hcredit ▸ hdepth, hnone⟩
  · rintro ⟨l, hl, hdepth, _⟩
    exact hdepth.trans (le_maxCreditedDepth hl)

theorem tally_ofSnippet (s : Snippet) : Tally (ofSnippet s) where
  total := total_summary (nested_ofSnippet s).creditedDepth_pos
  single := (rooted_ofSnippet s).single_iff
  nested := (rooted_ofSnippet s).nested_iff

/-- The loops of a snippet come in the order of the text, stand in earlier ones from which they have
their depths, and are counted without a gap. -/
theorem ofSnippet_ordered_standing_tallied (s : Snippet) :
    ((ofSnippet s).Pairwise fun a b => a.place < b.place) ∧
      (∀ (index : Nat) (l : NestedLoop), (ofSnippet s)[index]? = some l →
        Standing (ofSnippet s) index l) ∧
      Tally (ofSnippet s) :=
  ⟨pairwise_place_ofSnippet s, fun _ _ => (rooted_ofSnippet s).standing, tally_ofSnippet s⟩

end LoopForest

/-! ## The work of a chain of loops
A chain of loops does the product of the work of its loops. The weight of a loop exceeds the
exponent of its work by one, so among chains of one length the heaviest has the greatest exponent,
and only in factors `log n` can another chain do more. -/

/-- A product of a power of `√n` and a power of `log n`, given by its exponents. -/
abbrev Work : Type :=
  Nat ×ₗ Nat

namespace LoopGrowth

def work : LoopGrowth → Work
  | linear => toLex (2, 0)
  | sqrt => toLex (1, 0)
  | logarithmic => toLex (0, 1)

def chainWork (gs : List LoopGrowth) : Work :=
  (gs.map work).sum

def chainWeight (gs : List LoopGrowth) : Nat :=
  (gs.map weight).sum

/-- The growth that the class of loops with these growths is chosen by. -/
def slowest (gs : List LoopGrowth) : LoopGrowth :=
  if gs.contains .logarithmic then .logarithmic
  else if gs.contains .sqrt then .sqrt
  else .linear

variable {gs best : List LoopGrowth}

theorem chainWork_eq (gs : List LoopGrowth) :
    chainWork gs = toLex (2 * gs.count .linear + gs.count .sqrt, gs.count .logarithmic) := by
  induction gs with
  | nil => rfl
  | cons g gs ih =>
    rw [chainWork, List.map_cons, List.sum_cons, ← chainWork, ih]
    cases g <;> simp [work, ← toLex_add] <;> omega

theorem chainWeight_eq (gs : List LoopGrowth) :
    chainWeight gs = 2 * gs.count .linear + gs.count .sqrt + gs.length := by
  induction gs with
  | nil => rfl
  | cons g gs ih =>
    rw [chainWeight, List.map_cons, List.sum_cons, ← chainWeight, ih]
    cases g <;> simp [weight] <;> omega

theorem length_eq_counts (gs : List LoopGrowth) :
    gs.length = gs.count .linear + gs.count .sqrt + gs.count .logarithmic := by
  induction gs with
  | nil => rfl
  | cons g gs ih => cases g <;> simp [ih] <;> omega

theorem chainWork_le_iff {p q : Nat} : chainWork gs ≤ toLex (p, q) ↔
    2 * gs.count .linear + gs.count .sqrt < p ∨
      2 * gs.count .linear + gs.count .sqrt = p ∧ gs.count .logarithmic ≤ q := by
  rw [chainWork_eq, Prod.Lex.toLex_le_toLex]

theorem chainWork_le_of_length_le {p q : Nat} (hlength : 2 * gs.length ≤ p) :
    chainWork gs ≤ toLex (p, q) := by
  have hcounts := length_eq_counts gs
  rw [chainWork_le_iff]
  omega

/-- Where the heaviest chain of a length has a logarithmic loop, each chain of this length does at
most the work of one logarithmic loop among linear ones. -/
theorem chainWork_le_of_logarithmic_mem (hlength : gs.length = best.length)
    (hweight : chainWeight gs ≤ chainWeight best) (hmem : .logarithmic ∈ best) :
    chainWork gs ≤ toLex (2 * (best.length - 1), 1) := by
  have hcount := List.count_pos_iff.mpr hmem
  have hcounts := length_eq_counts gs
  have hbest := length_eq_counts best
  rw [chainWeight_eq, chainWeight_eq] at hweight
  rw [chainWork_le_iff]
  omega

theorem chainWork_le_of_sqrt_mem (hlength : gs.length = 1) (hbest : best.length = 1)
    (hweight : chainWeight gs ≤ chainWeight best) (hmem : .sqrt ∈ best) :
    chainWork gs ≤ toLex (1, 0) := by
  have hcount := List.count_pos_iff.mpr hmem
  have hcounts := length_eq_counts gs
  have hcountsBest := length_eq_counts best
  rw [chainWeight_eq, chainWeight_eq] at hweight
  rw [chainWork_le_iff]
  omega

end LoopGrowth

namespace LoopForest
open LoopGrowth

variable {s : Snippet} {f : LoopForest} {index : Nat} {l : NestedLoop}
variable {gs : List LoopGrowth} {chains : List (List LoopGrowth)}

theorem foldl_weight (gs : List LoopGrowth) (n : Nat) :
    gs.foldl (fun n g => n + g.weight) n = n + chainWeight gs := by
  induction gs generalizing n with
  | nil => rfl
  | cons g gs ih =>
    rw [List.foldl_cons, ih, chainWeight, chainWeight, List.map_cons, List.sum_cons, Nat.add_assoc]

theorem leads_heaviest (h : chains ≠ []) :
    Leads (fun gs best => chainWeight best < chainWeight gs) chains (heaviest chains) := by
  cases chains with
  | nil => exact absurd rfl h
  | cons first others =>
    simp only [heaviest, foldl_weight, Nat.zero_add]
    exact leads_foldl (strictWeakOn_gt chainWeight (first :: others))

theorem heaviest_mem (h : chains ≠ []) : heaviest chains ∈ chains :=
  (leads_heaviest h).mem

theorem chainWeight_le_heaviest :
    ∀ gs ∈ chains, chainWeight gs ≤ chainWeight (heaviest chains) :=
  fun gs hgs => (leads_heaviest (List.ne_nil_of_mem hgs)).le_key gs hgs

def deepestChains (f : LoopForest) : List (List LoopGrowth) :=
  (f.zipIdx.filter fun (l, _) => l.creditedDepth = maxCreditedDepth f && l.amortization?.isNone).map
    fun (_, index) => chainGrowths f index

theorem mem_deepestChains : gs ∈ deepestChains f ↔ ∃ (index : Nat) (l : NestedLoop),
    f[index]? = some l ∧ l.amortization? = none ∧ l.creditedDepth = maxCreditedDepth f ∧
      chainGrowths f index = gs := by
  simp only [deepestChains, List.mem_map, List.mem_filter, List.mem_zipIdx_iff_getElem?,
    Prod.exists, Bool.and_eq_true, decide_eq_true_eq, Option.isNone_iff_eq_none]
  constructor
  · rintro ⟨l, index, ⟨hl, hdepth, hnone⟩, hgs⟩
    exact ⟨index, l, hl, hnone, hdepth, hgs⟩
  · rintro ⟨index, l, hl, hnone, hdepth, hgs⟩
    exact ⟨l, index, ⟨hl, hdepth, hnone⟩, hgs⟩

namespace Rooted

theorem length_chainGrowths (h : Rooted s f) (hl : f[index]? = some l) :
    (chainGrowths f index).length = l.creditedDepth :=
  LoopForest.length_chainGrowths.trans (h.measures index l hl).credited.symm

theorem length_heaviest (h : Rooted s f) (hpos : 0 < maxCreditedDepth f) :
    (heaviest (deepestChains f)).length = maxCreditedDepth f := by
  have hne : deepestChains f ≠ [] := by
    obtain ⟨index, l, hl, hnone, hdepth⟩ := h.exists_deepest hpos
    exact List.ne_nil_of_mem (mem_deepestChains.mpr ⟨index, l, hl, hnone, hdepth, rfl⟩)
  obtain ⟨index, l, hl, _, hdepth, hchain⟩ := mem_deepestChains.mp (heaviest_mem hne)
  rw [← hchain, h.length_chainGrowths hl, hdepth]

theorem chainWeight_le (h : Rooted s f) (hl : f[index]? = some l) (hnone : l.amortization? = none)
    (hlength : (chainGrowths f index).length = maxCreditedDepth f) :
    chainWeight (chainGrowths f index) ≤ chainWeight (heaviest (deepestChains f)) := by
  rw [h.length_chainGrowths hl] at hlength
  exact chainWeight_le_heaviest _ (mem_deepestChains.mpr ⟨index, l, hl, hnone, hlength, rfl⟩)

end Rooted
end LoopForest
end Asymptote
