import Asymptote.Proofs.Complexity.Product
import Mathlib.Algebra.BigOperators.Group.List.Basic
import Mathlib.Algebra.Order.BigOperators.Group.List
import Mathlib.Algebra.Order.Field.Basic
import Mathlib.Algebra.Order.Field.Rat
import Mathlib.Data.Nat.Digits.Lemmas
import Mathlib.Data.Prod.Lex
import Mathlib.Order.WithBot
import Mathlib.Tactic.Linarith
import Mathlib.Tactic.MkIffOfInductiveProp
import Mathlib.Tactic.NormNum
import Mathlib.Tactic.Positivity

/-! # Growth of claimed products
A product grows like a power of `n` times a power of its logarithm, and products compare by the
former first. What the reader makes of a product may grow less: `Understated` names the four ways in
which it drops factors or digits. Apart from these it keeps the growth, up to the cubic ceiling. -/
namespace Asymptote.Complexity

namespace Numeral

def number (ds : List (Fin 10)) : ℕ :=
  Nat.ofDigits 10 (ds.reverse.map Fin.val)

def value (e : Numeral) : ℚ :=
  number (e.first :: e.rest) + number e.fraction / 10 ^ e.fraction.length

end Numeral

def Factor.degree : Factor → ℚ
  | size => 1
  | power e => e.value
  | log => 0
  | sqrt => 1 / 2

def degree (fs : List Factor) : ℚ :=
  (fs.map Factor.degree).sum

def logs (fs : List Factor) : ℕ :=
  fs.count .log

/-- An exponent of `n` and one of its logarithm, compared in this order. -/
abbrev Growth := ℚ ×ₗ ℕ

def productGrowth (fs : List Factor) : Growth :=
  toLex (degree fs, logs fs)

/-- The growth of a class, an exponential one above all powers. A double logarithm does not
count. -/
def growth : Complexity → WithTop Growth
  | constant | bounded | logLog => (toLex ((0 : ℚ), 0) : Growth)
  | log => (toLex ((0 : ℚ), 1) : Growth)
  | sqrt => (toLex ((1 / 2 : ℚ), 0) : Growth)
  | linear | graph | linearLogLog => (toLex ((1 : ℚ), 0) : Growth)
  | linearLog => (toLex ((1 : ℚ), 1) : Growth)
  | quadratic => (toLex ((2 : ℚ), 0) : Growth)
  | quadraticLog => (toLex ((2 : ℚ), 1) : Growth)
  | cubic => (toLex ((3 : ℚ), 0) : Growth)
  | exponential | linearExponential | baseExponential | factorial | linearFactorial => ⊤

/-- The class grows at least as fast as the product, or as fast as the cubic ceiling. -/
def Reaches (c : Complexity) (fs : List Factor) : Prop :=
  (min (productGrowth fs) (toLex (3, 0)) : Growth) ≤ c.growth

@[mk_iff]
inductive Understated (fs : List Factor) : Prop
  /-- An exponent that starts with a two stands for a square, whatever follows. -/
  | square (hlead : lead? fs = some 2) (h : ¬ (degree fs = 2 ∧ logs fs ≤ 1))
  /-- A leading logarithm stands for itself alone. -/
  | log (hlead : lead? fs ≠ some 2 ∧ lead? fs ≠ some 3) (hhead : fs.head? = some .log)
    (h : fs ≠ [.log])
  /-- What stands in front of a logarithm counts as one `n`. -/
  | linearLog (hlead : lead? fs ≠ some 2 ∧ lead? fs ≠ some 3) (hlog : .log ∈ fs)
    (hhead : fs.head? ≠ some .log) (h : toLex (1, 1) < productGrowth fs)
  /-- A root stands for itself alone. -/
  | sqrt (hlead : lead? fs ≠ some 2 ∧ lead? fs ≠ some 3) (hlog : .log ∉ fs) (hsqrt : .sqrt ∈ fs)
    (h : fs ≠ [.sqrt])

variable {fs : List Factor} {t : Text} {c : Complexity}

/-! ## Numerals -/

namespace Numeral

variable {ds : List (Fin 10)} {e : Numeral}

theorem number_lt (ds : List (Fin 10)) : number ds < 10 ^ ds.length := by
  have hlt := Nat.ofDigits_lt_base_pow_length (b := 10) (l := ds.reverse.map Fin.val) (by decide)
    (by simp)
  simpa [number] using hlt

theorem number_cons (d : Fin 10) (ds : List (Fin 10)) :
    number (d :: ds) = number ds + 10 ^ ds.length * d := by
  simp [number, Nat.ofDigits_append]

theorem le_number_cons (d : Fin 10) (ds : List (Fin 10)) : (d : ℕ) ≤ number (d :: ds) := by
  rw [number_cons]
  exact (Nat.le_mul_of_pos_left _ (by positivity)).trans (Nat.le_add_left _ _)

theorem number_eq_zero (h : ∀ d ∈ ds, d = 0) : number ds = 0 := by
  induction ds with
  | nil => rfl
  | cons d ds ih =>
    obtain ⟨hd, hds⟩ := List.forall_mem_cons.mp h
    simp [number_cons, ih hds, hd]

theorem first_le_value (e : Numeral) : (e.first : ℚ) ≤ e.value := by
  have hwhole : ((e.first : ℕ) : ℚ) ≤ number (e.first :: e.rest) := by
    exact_mod_cast le_number_cons e.first e.rest
  have hfraction : (0 : ℚ) ≤ number e.fraction / 10 ^ e.fraction.length := by positivity
  rw [value]
  linarith

theorem isWhole_of_one_le (h : 1 ≤ e.value) : e.IsWhole := by
  by_contra hzero
  have hdigits : ∀ d ∈ e.first :: e.rest, d = 0 := by simpa [IsWhole] using hzero
  have hfraction : (number e.fraction / 10 ^ e.fraction.length : ℚ) < 1 := by
    rw [div_lt_one (by positivity)]
    exact_mod_cast number_lt e.fraction
  rw [value, number_eq_zero hdigits] at h
  norm_num at h
  linarith

end Numeral

/-! ## Degrees -/

theorem Factor.degree_nonneg {f : Factor} (h : ∀ e, f = .power e → 1 ≤ e.value) :
    0 ≤ f.degree := by
  cases f with
  | size => simp [degree]
  | power e => exact zero_le_one.trans (h e rfl)
  | log => simp [degree]
  | sqrt => simp [degree]

theorem degree_le_of_mem {f : Factor} (hexponents : ∀ e, .power e ∈ fs → 1 ≤ e.value)
    (hf : f ∈ fs) : f.degree ≤ degree fs := by
  apply List.single_le_sum
  · rw [List.forall_mem_map]
    exact fun g hg => Factor.degree_nonneg fun e he => hexponents e (he ▸ hg)
  · exact List.mem_map_of_mem hf

theorem lead_le_degree {d : Fin 10} (hexponents : ∀ e, .power e ∈ fs → 1 ≤ e.value)
    (hlead : lead? fs = some d) : (d : ℚ) ≤ degree fs := by
  obtain ⟨f, hf, hfirst⟩ := List.exists_of_findSome?_eq_some hlead
  cases f with
  | power e =>
    obtain rfl : e.first = d := Option.some.inj hfirst
    exact e.first_le_value.trans (degree_le_of_mem hexponents hf)
  | _ => cases hfirst

theorem Factor.one_le {f : Factor} (h : ∀ e, f = .power e → 1 ≤ e.value) :
    1 ≤ 2 * f.degree + [f].count .log := by
  have hcount : (0 : ℚ) ≤ [f].count .log := Nat.cast_nonneg _
  cases f with
  | size =>
    rw [degree]
    linarith
  | power e =>
    have hvalue := h e rfl
    rw [degree]
    linarith
  | log => norm_num [degree]
  | sqrt => norm_num [degree]

theorem length_le (hexponents : ∀ e, .power e ∈ fs → 1 ≤ e.value) :
    (fs.length : ℚ) ≤ 2 * degree fs + logs fs := by
  induction fs with
  | nil => simp [degree, logs]
  | cons f fs ih =>
    have htail := ih fun e he => hexponents e (List.mem_cons_of_mem _ he)
    have hhead := Factor.one_le fun e he => hexponents e (he ▸ List.mem_cons_self)
    have hdegree : degree (f :: fs) = f.degree + degree fs := by simp [degree]
    have hlogs : logs (f :: fs) = [f].count .log + logs fs := by
      rw [logs, logs, ← List.count_append, List.singleton_append]
    rw [hdegree, hlogs, List.length_cons]
    push_cast
    linarith

theorem eq_singleton {f : Factor} (hexponents : ∀ e, .power e ∈ fs → 1 ≤ e.value) (hf : f ∈ fs)
    (h : 2 * degree fs + logs fs ≤ 1) : fs = [f] := by
  have hlength : fs.length ≤ 1 := by exact_mod_cast (length_le hexponents).trans h
  match fs with
  | [g] => simpa using (List.mem_singleton.mp hf).symm
  | _ :: _ :: _ => simp at hlength

/-! ## Reaching the growth -/

theorem reaches_iff {a : ℚ} {b : ℕ} (hgrowth : c.growth = (toLex (a, b) : Growth)) (ha : a < 3) :
    Reaches c fs ↔ degree fs < a ∨ degree fs = a ∧ logs fs ≤ b := by
  have hceiling : ¬ (toLex (3, 0) : Growth) ≤ toLex (a, b) := by
    rw [Prod.Lex.toLex_le_toLex]
    rintro (h | h)
    · exact absurd h (not_lt.mpr ha.le)
    · exact absurd h.1 ha.ne'
  rw [Reaches, hgrowth, WithTop.coe_le_coe, min_le_iff, productGrowth, Prod.Lex.toLex_le_toLex]
  exact or_iff_left hceiling

theorem reaches_cubic : Reaches cubic fs :=
  WithTop.coe_le_coe.mpr (min_le_right _ _)

theorem reaches_square_iff (hexponents : ∀ e, .power e ∈ fs → 1 ≤ e.value)
    (hlead : lead? fs = some 2) :
    Reaches (if .log ∈ fs then quadraticLog else quadratic) fs ↔ degree fs = 2 ∧ logs fs ≤ 1 := by
  have hdegree : ¬ degree fs < 2 := not_lt.mpr (lead_le_degree hexponents hlead)
  split_ifs with hlog
  · rw [reaches_iff rfl (by norm_num), or_iff_right hdegree]
  · have hlogs : logs fs = 0 := List.count_eq_zero.mpr hlog
    rw [reaches_iff rfl (by norm_num), or_iff_right hdegree, hlogs]
    simp

theorem reaches_log_iff (hexponents : ∀ e, .power e ∈ fs → 1 ≤ e.value) (hlog : .log ∈ fs) :
    Reaches log fs ↔ fs = [.log] := by
  rw [reaches_iff rfl (by norm_num)]
  constructor
  · intro h
    apply eq_singleton hexponents hlog
    have hdegree : degree fs ≤ 0 := h.elim le_of_lt fun h => h.1.le
    have hnonneg : 0 ≤ degree fs := degree_le_of_mem hexponents hlog
    have hlogs : logs fs ≤ 1 := h.elim (fun h => absurd h (not_lt.mpr hnonneg)) And.right
    have hcast : (logs fs : ℚ) ≤ 1 := by exact_mod_cast hlogs
    linarith
  · rintro rfl
    exact .inr (by simp [degree, Factor.degree, logs])

theorem reaches_sqrt_iff (hexponents : ∀ e, .power e ∈ fs → 1 ≤ e.value) (hlog : .log ∉ fs)
    (hsqrt : .sqrt ∈ fs) : Reaches sqrt fs ↔ fs = [.sqrt] := by
  have hlogs : logs fs = 0 := List.count_eq_zero.mpr hlog
  rw [reaches_iff rfl (by norm_num), hlogs]
  constructor
  · intro h
    apply eq_singleton hexponents hsqrt
    have hdegree : degree fs ≤ 1 / 2 := h.elim le_of_lt fun h => h.1.le
    rw [hlogs, Nat.cast_zero]
    linarith
  · rintro rfl
    exact .inr (by simp [degree, Factor.degree])

theorem reaches_linearLog_iff : Reaches linearLog fs ↔ ¬ toLex (1, 1) < productGrowth fs := by
  rw [reaches_iff rfl (by norm_num), not_lt, productGrowth, Prod.Lex.toLex_le_toLex]

theorem reaches_polynomial (h : ∀ f ∈ fs, f = .size) : Reaches (polynomial fs.length) fs := by
  have hdegree : degree fs = fs.length := by
    have hone : ∀ d ∈ fs.map Factor.degree, d = 1 := by
      rw [List.forall_mem_map]
      rintro f hf
      rw [h f hf, Factor.degree]
    rw [degree, List.sum_eq_card_nsmul _ 1 hone]
    simp
  have hlogs : logs fs = 0 := List.count_eq_zero.mpr fun hlog => nomatch h _ hlog
  match hlength : fs.length with
  | 0 | 1 | 2 =>
    rw [hlength] at hdegree
    exact (reaches_iff rfl (by norm_num)).mpr (.inr ⟨by simpa using hdegree, hlogs.le⟩)
  | n + 3 => exact reaches_cubic

/-! ## What is understated -/

theorem forall_eq_size (hlead : lead? fs = none) (hlog : .log ∉ fs) (hsqrt : .sqrt ∉ fs) :
    ∀ f ∈ fs, f = .size := by
  intro f hf
  have hnone : f.lead? = none := List.findSome?_eq_none_iff.mp hlead f hf
  cases f with
  | size => rfl
  | power e => cases hnone
  | log => exact absurd hf hlog
  | sqrt => exact absurd hf hsqrt

theorem reaches_ofProduct?_iff (hexponents : ∀ e, .power e ∈ fs → 1 ≤ e.value) :
    (∀ c, ofProduct? fs = some c → Reaches c fs) ↔ ¬ Understated fs := by
  have hread {c : Complexity} (holds : Prop) (h : ofProduct? fs = some c)
      (hreaches : Reaches c fs ↔ holds) (hunderstated : Understated fs ↔ ¬ holds) :
      (∀ c, ofProduct? fs = some c → Reaches c fs) ↔ ¬ Understated fs := by
    simp [h, hreaches, hunderstated]
  -- The cases are those of `ofProduct?`, in its order.
  by_cases hthree : lead? fs = some 3
  · refine hread True (by simp [ofProduct?, hthree]) (iff_true_intro reaches_cubic) ?_
    simp [understated_iff, hthree]
  by_cases htwo : lead? fs = some 2
  · refine hread _ ?_ (reaches_square_iff hexponents htwo) ?_
    · rw [ofProduct?, if_neg hthree, if_pos htwo]
      split_ifs <;> rfl
    · simp [understated_iff, htwo]
  by_cases hlog : .log ∈ fs
  · by_cases hhead : fs.head? = some .log
    · refine hread _ ?_ (reaches_log_iff hexponents hlog) ?_
      · simp [ofProduct?, hthree, htwo, hlog, hhead]
      · simp [understated_iff, hthree, htwo, hlog, hhead]
    · refine hread _ ?_ reaches_linearLog_iff ?_
      · simp [ofProduct?, hthree, htwo, hlog, hhead]
      · simp [understated_iff, hthree, htwo, hlog, hhead]
  have hhead : fs.head? ≠ some .log := fun h => hlog (List.mem_of_head? h)
  by_cases hsqrt : .sqrt ∈ fs
  · refine hread _ ?_ (reaches_sqrt_iff hexponents hlog hsqrt) ?_
    · simp [ofProduct?, hthree, htwo, hlog, hsqrt]
    · simp [understated_iff, hthree, htwo, hlog, hsqrt, hhead]
  have hstated : ¬ Understated fs := by
    simp [understated_iff, htwo, hlog, hsqrt, hhead]
  refine iff_of_true ?_ hstated
  intro c hc
  by_cases hnone : lead? fs = none
  · obtain rfl : polynomial fs.length = c := by
      simpa [ofProduct?, hthree, htwo, hlog, hsqrt, hnone] using hc
    exact reaches_polynomial (forall_eq_size hnone hlog hsqrt)
  · simp [ofProduct?, hthree, htwo, hlog, hsqrt, hnone] at hc

/-- A product is read as its factors in their order tell. The class that it is read as grows at
least as fast, up to the cubic ceiling, unless the product is one of those that are understated. -/
theorem product_reaches_iff (hne : fs ≠ []) (hexponents : ∀ e, .power e ∈ fs → 1 ≤ e.value)
    (h : Writes t fs) :
    read? t = ofProduct? fs ∧
      ((∀ c, read? t = some c → Reaches c fs) ↔ ¬ Understated fs) := by
  have hread : read? t = ofProduct? fs :=
    read?_of_writes hne (fun e he => Numeral.isWhole_of_one_le (hexponents e he)) h
  refine ⟨hread, ?_⟩
  rw [hread]
  exact reaches_ofProduct?_iff hexponents

theorem product_reaches_iff_square :
    read? "O(n^2 * log n)" = some quadraticLog ∧
      ∀ c, read? "O(n^2 * log n)" = some c → Reaches c [.power { first := 2 }, .log] := by
  have hexponents : ∀ e, .power e ∈ [Factor.power { first := 2 }, .log] → 1 ≤ e.value := by
    simp [Numeral.value, Numeral.number]
  have hwrites : Writes "O(n^2 * log n)" [.power { first := 2 }, .log] := .inr (by decide)
  obtain ⟨hread, hreaches⟩ := product_reaches_iff (by simp) hexponents hwrites
  refine ⟨hread.trans (by decide), hreaches.mpr ?_⟩
  have hdegree : degree [.power { first := 2 }, .log] = 2 := by
    norm_num [degree, Factor.degree, Numeral.value, Numeral.number]
  have hlogs : logs [.power { first := 2 }, .log] = 1 := rfl
  have hlead : lead? [.power { first := 2 }, .log] = some 2 := rfl
  simp [understated_iff, hlead, hdegree, hlogs]

theorem not_forall_product_reaches :
    ¬ ∀ (t : Text) (fs : List Factor), fs ≠ [] → (∀ e, .power e ∈ fs → 1 ≤ e.value) →
      Writes t fs → ∀ c, read? t = some c → Reaches c fs := by
  intro h
  have hvalue : Numeral.value { first := 2, rest := [0] } = 20 := by
    norm_num [Numeral.value, Numeral.number, Nat.ofDigits]
  have hreaches := h "n^20" [.power { first := 2, rest := [0] }] (by simp) (by simp [hvalue])
    (.inl (by decide)) quadratic (by decide)
  rw [reaches_iff rfl (by norm_num)] at hreaches
  norm_num [degree, Factor.degree, hvalue] at hreaches

end Asymptote.Complexity
