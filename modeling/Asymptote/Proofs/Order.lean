import Asymptote.Consensus
import Mathlib.Algebra.Order.Ring.Int
import Mathlib.Data.List.Induction
import Mathlib.Data.List.Nodup
import Mathlib.Data.Prod.Lex
import Mathlib.Order.Compare
import Mathlib.Order.Lattice
import Mathlib.Order.MinMax

/-! # Choosing, sorting and comparing
What the choices of the program have in common: folds that keep the best of a list, sorts by a key,
and the orders of costs and of confidences. -/
namespace Asymptote

/-! ## Folds that choose
A fold in which each step keeps one of two gives a member of the list. Where a step takes the next
element only if it beats the best so far, the fold gives the first of the elements that none
beats. -/

section

variable {α β : Type} {step : α → α → α} (first : α) (others : List α)

theorem foldl_mem_of_choice (hstep : ∀ best next, step best next = best ∨ step best next = next) :
    others.foldl step first ∈ first :: others := by
  refine List.foldlRecOn (motive := (· ∈ first :: others)) others step List.mem_cons_self
    fun best hbest next hnext => ?_
  rcases hstep best next with hkept | htaken
  · rw [hkept]
    exact hbest
  · rw [htaken]
    exact List.mem_cons_of_mem _ hnext

theorem exists_mem_eq_foldl_max {key : α → Nat} {as : List α} (h : 0 < (as.map key).foldl max 0) :
    ∃ a ∈ as, key a = (as.map key).foldl max 0 := by
  rcases List.mem_cons.mp (foldl_mem_of_choice 0 (as.map key) max_choice) with hzero | hmem
  · omega
  · exact List.mem_map.mp hmem

/-! ### The first of the best -/

/-- Among the elements of a list, `beats` is a strict order in which elements that do not beat each
other are interchangeable. -/
structure StrictWeakOn (beats : α → α → Prop) (as : List α) : Prop where
  asymm : ∀ a b, beats a b → ¬ beats b a
  split : ∀ a ∈ as, ∀ b ∈ as, ∀ c ∈ as, beats a c → beats a b ∨ beats b c

theorem StrictWeakOn.mono {beats : α → α → Prop} {as bs : List α} (h : StrictWeakOn beats bs)
    (hsub : as ⊆ bs) : StrictWeakOn beats as where
  asymm := h.asymm
  split a ha b hb c hc := h.split a (hsub ha) b (hsub hb) c (hsub hc)

theorem strictWeakOn_lt [LinearOrder β] (key : α → β) (as : List α) :
    StrictWeakOn (fun a b => key a < key b) as where
  asymm _ _ := lt_asymm
  split a _ b _ _ _ h := (lt_or_ge (key a) (key b)).imp_right fun hle => hle.trans_lt h

theorem strictWeakOn_gt [LinearOrder β] (key : α → β) (as : List α) :
    StrictWeakOn (fun a b => key b < key a) as :=
  strictWeakOn_lt (β := βᵒᵈ) key as

/-- The element of a list that beats all in front of it and that none behind it beats. -/
def Leads (beats : α → α → Prop) (as : List α) (best : α) : Prop :=
  ∃ before behind, as = before ++ best :: behind ∧ (∀ a ∈ before, beats best a) ∧
    ∀ a ∈ behind, ¬ beats a best

variable {beats : α → α → Prop} {as : List α} {best a : α}

theorem Leads.mem (h : Leads beats as best) : best ∈ as := by
  obtain ⟨before, behind, rfl, -, -⟩ := h
  simp

theorem Leads.unbeaten (h : Leads beats as best) (hasymm : ∀ a b, beats a b → ¬ beats b a) :
    ∀ a ∈ as, ¬ beats a best := by
  obtain ⟨before, behind, rfl, hbefore, hbehind⟩ := h
  exact List.forall_mem_append.mpr ⟨fun a ha => hasymm best a (hbefore a ha),
    List.forall_mem_cons.mpr ⟨fun hself => hasymm best best hself hself, hbehind⟩⟩

theorem Leads.le_key [LinearOrder β] {key : α → β}
    (h : Leads (fun a best => key best < key a) as best) : ∀ a ∈ as, key a ≤ key best :=
  fun a ha => not_lt.mp (h.unbeaten (fun _ _ => lt_asymm) a ha)

theorem Leads.exists_getElem (h : Leads beats as best) :
    ∃ (i : ℕ) (hi : i < as.length), as[i] = best ∧ ∀ (j : ℕ) (hj : j < i), beats best as[j] := by
  obtain ⟨before, behind, rfl, hbefore, -⟩ := h
  refine ⟨before.length, by simp, by simp, fun j hj => ?_⟩
  rw [List.getElem_append_left hj]
  exact hbefore _ (List.getElem_mem hj)

theorem Leads.concat [Decidable (beats a best)] (h : Leads beats as best)
    (hbeats : StrictWeakOn beats (as ++ [a])) :
    Leads beats (as ++ [a]) (if beats a best then a else best) := by
  split
  next hlast =>
    refine ⟨as, [], rfl, fun b hb => ?_, by simp⟩
    have hbest : best ∈ as ++ [a] := List.mem_append_left _ h.mem
    exact (hbeats.split a (by simp) b (List.mem_append_left _ hb) best hbest hlast).resolve_right
      (h.unbeaten hbeats.asymm b hb)
  next hnot =>
    obtain ⟨before, behind, rfl, hbefore, hbehind⟩ := h
    refine ⟨before, behind ++ [a], by simp, hbefore, ?_⟩
    exact List.forall_mem_append.mpr ⟨hbehind, List.forall_mem_singleton.mpr hnot⟩

variable [DecidableRel beats]

theorem leads_foldl {first : α} {others : List α} (h : StrictWeakOn beats (first :: others)) :
    Leads beats (first :: others)
      (others.foldl (fun best a => if beats a best then a else best) first) := by
  -- A step asks the best so far, so the last element is taken off.
  induction others using List.reverseRecOn with
  | nil => exact ⟨[], [], rfl, by simp, by simp⟩
  | append_singleton others a ih =>
    rw [List.foldl_append]
    exact (ih (h.mono (by simp))).concat h

theorem Leads.find?_eq (h : Leads beats as best) (hasymm : ∀ a b, beats a b → ¬ beats b a) :
    as.find? (fun a => decide (∀ b ∈ as, ¬ beats b a)) = some best := by
  have hunbeaten := h.unbeaten hasymm
  have hmem := h.mem
  obtain ⟨before, behind, hsplit, hbefore, -⟩ := h
  refine List.find?_eq_some_iff_append.mpr
    ⟨decide_eq_true hunbeaten, before, behind, hsplit, fun a ha => ?_⟩
  rw [Bool.not_eq_true', decide_eq_false_iff_not]
  exact fun hnone => hnone best hmem (hbefore a ha)

end

/-! ## Sorting by a key
A list that is sorted by a key never falls in it. Elements that the key tells apart come out in one
order, whatever order they went in. -/

section

variable {α β : Type} [LinearOrder β] (key : α → β) {le : α → α → Bool} {as bs : List α}

theorem pairwise_mergeSort_key (hle : ∀ a b, le a b = true ↔ ¬ key b < key a) (as : List α) :
    (as.mergeSort le).Pairwise fun a b => ¬ key b < key a := by
  have htrans : ∀ a b c, le a b = true → le b c = true → le a c = true := by
    intro a b c hab hbc
    rw [hle, not_lt] at hab hbc ⊢
    exact le_trans hab hbc
  have htotal : ∀ a b, (le a b || le b a) = true := by
    intro a b
    rw [Bool.or_eq_true, hle, hle, not_lt, not_lt]
    exact le_total (key a) (key b)
  exact (List.pairwise_mergeSort htrans htotal as).imp fun h => (hle _ _).mp h

theorem mergeSort_eq_of_perm (hle : ∀ a b, le a b = true ↔ ¬ key b < key a) (hperm : as.Perm bs)
    (hkeys : ∀ a ∈ as, ∀ b ∈ as, key a = key b → a = b) : as.mergeSort le = bs.mergeSort le := by
  have hsame : (as.mergeSort le).Perm (bs.mergeSort le) :=
    (List.mergeSort_perm as le).trans (hperm.trans (List.mergeSort_perm bs le).symm)
  refine List.Perm.eq_of_pairwise ?_ (pairwise_mergeSort_key key hle as)
    (pairwise_mergeSort_key key hle bs) hsame
  intro a b ha hb hab hba
  exact hkeys a (List.mem_mergeSort.mp ha) b (hperm.mem_iff.mpr (List.mem_mergeSort.mp hb))
    (le_antisymm (not_lt.mp hab) (not_lt.mp hba))

end

/-! ## Costs
The classes form a linear order, and a cost is a time with a space, compared in this order. The
comparisons of solutions and of known approaches are comparisons of their costs. -/

instance : LinearOrder Complexity where
  le_refl a := Nat.le_refl a.rank
  le_trans _ _ _ := Nat.le_trans
  le_antisymm _ _ h₁ h₂ := Complexity.rank_injective (Nat.le_antisymm h₁ h₂)
  le_total a b := Nat.le_total a.rank b.rank
  lt_iff_le_not_ge _ _ := Nat.lt_iff_le_and_not_ge
  toMin := inferInstance
  toMax := inferInstance
  toDecidableLE := inferInstance
  toDecidableEq := inferInstance
  toDecidableLT := inferInstance

abbrev Cost := Complexity ×ₗ Complexity

def Solution.cost (a : Solution) : Cost := toLex (a.time, a.space)

def GroundTruth.Known.cost (a : GroundTruth.Known) : Cost := toLex (a.time, a.space)

theorem Solution.cheaper_iff {a b : Solution} : a.cheaper b ↔ a.cost < b.cost := by
  simp [cheaper, cost, Prod.Lex.toLex_lt_toLex]

theorem Solution.sameCost_iff {a b : Solution} : a.sameCost b ↔ a.cost = b.cost := by
  simp [sameCost, cost]

theorem GroundTruth.Known.cheaper_iff {a b : GroundTruth.Known} :
    a.cheaper b ↔ a.cost < b.cost := by
  simp [cheaper, cost, Prod.Lex.toLex_lt_toLex]

@[simp] theorem Solution.cost_ofKnown (k : GroundTruth.Known) (confidence : Float) :
    (ofKnown k confidence).cost = k.cost := rfl

/-! ## The order of floats
Floats that are numbers have a place in a linear order, which both zeros share, and are compared by
it. A float that is no number is neither below nor above any other. -/

namespace FloatOrder

open Float.Model (UnpackedFloat)

/-- The infinities lie outside all other numbers and the zeros between the signs. Among finite
numbers of one sign the exponent decides, then the mantissa. -/
def unpackedPlace? : UnpackedFloat → Option (ℤ ×ₗ ℤ ×ₗ ℤ)
  | .notANumber => none
  | .infinity .negative => some (toLex (-2, toLex (0, 0)))
  | .finite .negative m e _ => some (toLex (-1, toLex (-e, -m)))
  | .zero _ => some (toLex (0, toLex (0, 0)))
  | .finite .positive m e _ => some (toLex (1, toLex (e, m)))
  | .infinity .positive => some (toLex (2, toLex (0, 0)))

def place? (x : Float) : Option (ℤ ×ₗ ℤ ×ₗ ℤ) :=
  unpackedPlace? x.toModel.unpack

theorem compare_natCast (m n : ℕ) : compare (m : ℤ) (n : ℤ) = compare m n := by
  rw [← cmp_eq_compare, ← cmp_eq_compare]
  exact Int.natCast_strictMono.cmp_map_eq m n

theorem compare_neg_neg (m n : ℤ) : compare (-m) (-n) = (compare m n).swap := by
  rw [← cmp_eq_compare, ← cmp_eq_compare, cmp_swap]
  exact StrictAnti.cmp_map_eq (fun _ _ h => neg_lt_neg h) m n

theorem compare_unpacked (a b : UnpackedFloat) :
    a.compare b =
      (unpackedPlace? a).bind fun x => (unpackedPlace? b).map fun y => compare x y := by
  rcases a with (_ | _) | _ | _ | ⟨_ | _, m, e, hm⟩ <;>
    rcases b with (_ | _) | _ | _ | ⟨_ | _, n, d, hn⟩ <;> try rfl
  case finite.negative.finite.negative =>
    have hlex : compare (toLex ((-1 : ℤ), toLex (-e, -(m : ℤ))))
          (toLex (-1, toLex (-d, -(n : ℤ)))) =
        (compare (-e) (-d)).then (compare (-(m : ℤ)) (-(n : ℤ))) := rfl
    rw [compare_neg_neg, compare_neg_neg, compare_natCast, ← Ordering.swap_then] at hlex
    exact congrArg some hlex.symm
  case finite.positive.finite.positive =>
    have hlex : compare (toLex ((1 : ℤ), toLex (e, (m : ℤ)))) (toLex (1, toLex (d, (n : ℤ)))) =
        (compare e d).then (compare (m : ℤ) (n : ℤ)) := rfl
    rw [compare_natCast] at hlex
    exact congrArg some hlex.symm

variable {x y z : Float}

theorem lt_iff : x < y ↔ ∃ a ∈ place? x, ∃ b ∈ place? y, a < b := by
  have hlt : x < y ↔ (x.toModel.unpack.compare y.toModel.unpack == some .lt) = true := by
    change decide _ = true ↔ _
    rw [decide_eq_true_iff]
    rfl
  rw [hlt, beq_iff_eq, compare_unpacked]
  simp only [Option.bind_eq_some_iff, Option.map_eq_some_iff, compare_lt_iff_lt, Option.mem_def,
    place?]

theorem le_iff : x ≤ y ↔ ∃ a ∈ place? x, ∃ b ∈ place? y, a ≤ b := by
  have hle : x ≤ y ↔ ((x.toModel.unpack.compare y.toModel.unpack).any (·.isLE)) = true := by
    change decide _ = true ↔ _
    rw [decide_eq_true_iff]
    rfl
  rw [hle, compare_unpacked]
  cases hx : unpackedPlace? x.toModel.unpack <;> cases hy : unpackedPlace? y.toModel.unpack <;>
    simp [place?, hx, hy, Ordering.isLE_iff_ne_gt, compare_le_iff_le]

def IsNumber (x : Float) : Prop := (place? x).isSome

theorem isSome_unpackedPlace? (a : UnpackedFloat) : (unpackedPlace? a).isSome = !a.isNaN := by
  rcases a with (_ | _) | _ | _ | ⟨_ | _, m, e, hm⟩ <;> rfl

theorem isNumber_iff : IsNumber x ↔ x.isNaN = false := by
  have hnan : x.isNaN = x.toModel.unpack.isNaN := rfl
  rw [IsNumber, place?, hnan, isSome_unpackedPlace?, Bool.not_eq_true']

theorem isNumber_of_le (h : x ≤ y) : IsNumber y := by
  obtain ⟨_, _, b, hb, _⟩ := le_iff.mp h
  exact Option.isSome_of_mem hb

theorem isNumber_of_ge (h : x ≤ y) : IsNumber x := by
  obtain ⟨a, ha, _⟩ := le_iff.mp h
  exact Option.isSome_of_mem ha

theorem le_refl (hx : IsNumber x) : x ≤ x := by
  obtain ⟨a, ha⟩ := Option.isSome_iff_exists.mp hx
  exact le_iff.mpr ⟨a, ha, a, ha, le_rfl⟩

theorem le_of_lt (h : x < y) : x ≤ y := by
  obtain ⟨a, ha, b, hb, hab⟩ := lt_iff.mp h
  exact le_iff.mpr ⟨a, ha, b, hb, hab.le⟩

theorem le_trans (hxy : x ≤ y) (hyz : y ≤ z) : x ≤ z := by
  obtain ⟨a, ha, b, hb, hab⟩ := le_iff.mp hxy
  obtain ⟨b', hb', c, hc, hbc⟩ := le_iff.mp hyz
  cases Option.mem_unique hb hb'
  exact le_iff.mpr ⟨a, ha, c, hc, hab.trans hbc⟩

theorem not_lt_iff (hx : IsNumber x) (hy : IsNumber y) : ¬ x < y ↔ y ≤ x := by
  obtain ⟨a, ha⟩ := Option.isSome_iff_exists.mp hx
  obtain ⟨b, hb⟩ := Option.isSome_iff_exists.mp hy
  simp [lt_iff, le_iff, ha, hb]

theorem le_total (hx : IsNumber x) (hy : IsNumber y) : x ≤ y ∨ y ≤ x := by
  obtain ⟨a, ha⟩ := Option.isSome_iff_exists.mp hx
  obtain ⟨b, hb⟩ := Option.isSome_iff_exists.mp hy
  simpa [le_iff, ha, hb] using LinearOrder.le_total a b

theorem lt_trans (hxy : x < y) (hyz : y < z) : x < z := by
  obtain ⟨a, ha, b, hb, hab⟩ := lt_iff.mp hxy
  obtain ⟨b', hb', c, hc, hbc⟩ := lt_iff.mp hyz
  cases Option.mem_unique hb hb'
  exact lt_iff.mpr ⟨a, ha, c, hc, hab.trans hbc⟩

theorem lt_irrefl (x : Float) : ¬ x < x := by
  intro h
  obtain ⟨a, ha, b, hb, hab⟩ := lt_iff.mp h
  cases Option.mem_unique ha hb
  exact hab.false

/-- The float in the middle has to be a number: any other is below nothing and above nothing. -/
theorem not_lt_trans (hy : IsNumber y) (hxy : ¬ x < y) (hyz : ¬ y < z) : ¬ x < z := by
  intro hxz
  obtain ⟨a, ha, c, hc, hac⟩ := lt_iff.mp hxz
  obtain ⟨b, hb⟩ := Option.isSome_iff_exists.mp hy
  have hba : b ≤ a := not_lt.mp fun hab => hxy (lt_iff.mpr ⟨a, ha, b, hb, hab⟩)
  have hcb : c ≤ b := not_lt.mp fun hbc => hyz (lt_iff.mpr ⟨b, hb, c, hc, hbc⟩)
  exact (hcb.trans hba).not_gt hac

end FloatOrder

end Asymptote
