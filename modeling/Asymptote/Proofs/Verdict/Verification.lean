import Asymptote.Proofs.Verdict.Clamp

/-! # Verification
Behind the clamps each of them keeps silent, so a second verification changes nothing. What the
first one changes is the time with its reason, and its corrections lead step by step from the time
that was derived to the time that is reported. -/
namespace Asymptote

/-- Corrections that lead from one time to another: each starts where those before it have led. -/
inductive TimePath (first : Complexity) : List Correction → Complexity → Prop
  | stay : TimePath first [] first
  | step {corrections : List Correction} {last next : Complexity} (reason : String)
      (h : TimePath first corrections last) (hne : next ≠ last) :
      TimePath first
        (corrections ++ [⟨.single, .time, last.canonical, next.canonical, reason⟩]) next

namespace Analysis

/-- The second verdict is the first with a time, a reason and the corrections of a path that leads
to them. -/
structure Amended (a : Analysis) (new : List Correction) (b : Analysis) : Prop where
  frame : b =
    { a with time := b.time, timeReason := b.timeReason, corrections := a.corrections ++ new }
  path : TimePath a.time new b.time
  reason : b.timeReason = (new.getLast?.map (·.reason)).getD a.timeReason

variable {a b : Analysis} {new : List Correction}

theorem Amended.refl (a : Analysis) : a.Amended [] a where
  frame := by simp
  path := .stay
  reason := rfl

theorem Amended.correctTime (h : a.Amended new b) {time : Complexity} (hne : time ≠ b.time)
    (reason : String) :
    a.Amended (new ++ [⟨.single, .time, b.time.canonical, time.canonical, reason⟩])
      (b.correctTime time reason) where
  frame := by
    rw [Analysis.correctTime, h.frame]
    simp
  path := h.path.step reason hne
  reason := by simp [Analysis.correctTime]

theorem Amended.apply (h : a.Amended new b) (f : FeatureSet) (clamp : Clamp) :
    ∃ new', new'.length ≤ new.length + 1 ∧ a.Amended new' (clamp.apply f b) := by
  rcases Clamp.apply_cases f b clamp with hsame | ⟨c, reason, _, hne, happly⟩
  · rw [hsame]
    exact ⟨new, Nat.le_succ _, h⟩
  · rw [happly]
    exact ⟨_, by simp, h.correctTime hne reason⟩

end Analysis

namespace Clamp

variable {time c : Complexity} {f : FeatureSet} {a : Analysis} {cs : List Clamp}

def Settled (f : FeatureSet) (time : Complexity) : Prop :=
  ∀ clamp ∈ all, clamp.check time f = none

theorem foldl_apply_of_silent (h : ∀ clamp ∈ cs, clamp.check a.time f = none) :
    cs.foldl (apply f) a = a := by
  refine List.foldlRecOn (motive := (· = a)) cs (apply f) rfl fun b hb clamp hclamp => ?_
  rw [hb]
  exact apply_of_check_eq_none (h clamp hclamp)

theorem silent_of_isExponential (hcs : ∀ clamp ∈ cs, clamp ∈ all)
    (h : (cs.foldl (apply f) a).time.isExponential = true) :
    ∀ clamp ∈ cs, clamp.check a.time f = none := by
  induction cs generalizing a with
  | nil => simp
  | cons clamp cs ih =>
    obtain ⟨hclamp, hcs⟩ := List.forall_mem_cons.mp hcs
    rw [List.foldl_cons] at h
    have hlater := ih hcs h
    rw [foldl_apply_of_silent hlater] at h
    have hcheck := check_eq_none_of_isExponential hclamp h
    rw [apply_of_check_eq_none hcheck] at hlater
    exact List.forall_mem_cons.mpr ⟨hcheck, hlater⟩

theorem settled_of_isExponential (h : (a.verify f).time.isExponential = true) :
    Settled f a.time :=
  silent_of_isExponential (fun _ h => h) h

theorem domainCeiling_eq_none (h : time.isExponential = false) :
    domainCeiling.check time f = none := by
  simp [domainCeiling, h]

theorem check_polynomialTable_eq_none (h : time.isExponential = false) :
    polynomialTable.check time f = none := by
  simp [polynomialTable, h]

theorem check_linearWindow_apply (f : FeatureSet) (a : Analysis) :
    linearWindow.check (apply f a linearWindow).time f = none := by
  cases hcheck : linearWindow.check a.time f with
  | none =>
    rw [apply_of_check_eq_none hcheck]
    exact hcheck
  | some change =>
    obtain ⟨c, reason⟩ := change
    obtain ⟨_, _, _, _, _, rfl, _⟩ := linearWindow_cases hcheck
    rw [time_apply hcheck]
    simp [linearWindow]

theorem of_domainCeiling_eq_none (h : domainCeiling.check time f = none)
    (htime : time.isExponential = true) :
    f.algorithms.backtracking = true ∨ f.algorithms.recursion = false ∨ ceilings f = [] := by
  cases hback : f.algorithms.backtracking with
  | true => exact .inl rfl
  | false =>
    cases hrecursion : f.algorithms.recursion with
    | false => exact .inr (.inl rfl)
    | true =>
      cases hceilings : ceilings f with
      | nil => exact .inr (.inr rfl)
      | cons c others => simp [domainCeiling, htime, hback, hrecursion, hceilings] at h

theorem linear_of_linearWindow_eq_none (h : linearWindow.check time f = none)
    (hforward : f.pointers.slidingWindow = true ∨
      f.pointers.twoPointers = true ∧ f.pointers.forwardOnly = true)
    (hsorting : f.algorithms.sorting = false) (hsearch : f.algorithms.binarySearch = false)
    (hheap : f.structures.heap = false) : time = .linear := by
  by_contra htime
  obtain ⟨hwindow, hpointers⟩ : f.pointers.slidingWindow = false ∧
      (f.pointers.twoPointers = true → f.pointers.forwardOnly = false) := by
    simpa [linearWindow, hsorting, hsearch, hheap, htime] using h
  rcases hforward with hmoves | ⟨htwo, hmoves⟩
  · rw [hwindow] at hmoves
    cases hmoves
  · rw [hpointers htwo] at hmoves
    cases hmoves

end Clamp

namespace Analysis
open Clamp (domainCeiling polynomialTable linearWindow)

variable (a : Analysis) (f : FeatureSet)

theorem settled_verify : Clamp.Settled f (a.verify f).time := by
  cases h : (a.verify f).time.isExponential with
  | true =>
    have hsettled := Clamp.settled_of_isExponential h
    have hsame : a.verify f = a := Clamp.foldl_apply_of_silent hsettled
    rwa [hsame]
  | false =>
    intro clamp hclamp
    rcases Clamp.mem_all_iff.mp hclamp with rfl | rfl | rfl
    · exact Clamp.domainCeiling_eq_none h
    · exact Clamp.check_polynomialTable_eq_none h
    · exact Clamp.check_linearWindow_apply f _

theorem verify_verify : (a.verify f).verify f = a.verify f :=
  Clamp.foldl_apply_of_silent (a.settled_verify f)

/-- The first two clamps cut exponential times alone, so at most one of them fires. -/
theorem exists_amended_verify : ∃ new, new.length ≤ 2 ∧ a.Amended new (a.verify f) := by
  have hcut : ∃ new, new.length ≤ 1 ∧
      a.Amended new (polynomialTable.apply f (domainCeiling.apply f a)) := by
    rcases Clamp.apply_cases f a domainCeiling with hsame | ⟨c, reason, hcheck, hne, happly⟩
    · rw [hsame]
      exact (Amended.refl a).apply f polynomialTable
    · have hsilent : polynomialTable.check (a.correctTime c reason).time f = none :=
        Clamp.check_polynomialTable_eq_none (Clamp.isExponential_of_mem_classes c
          (Clamp.mem_classes_of_check (by simp [Clamp.all]) hcheck))
      rw [happly, Clamp.apply_of_check_eq_none hsilent]
      exact ⟨_, by simp, (Amended.refl a).correctTime hne reason⟩
  obtain ⟨new, hlength, hnew⟩ := hcut
  obtain ⟨new', hlength', hnew'⟩ := hnew.apply f linearWindow
  exact ⟨new', by omega, hnew'⟩

/-- A second verification changes nothing. The first one changes the time and its reason, to which at
most two corrections lead. A time that stays exponential is not memoized, and no recognized family
without backtracking would cut it; a window that only moves forward is linear. -/
theorem verify_settles (a : Analysis) (f : FeatureSet) :
    let y := a.verify f
    y.verify f = y ∧
    (∃ new, new.length ≤ 2 ∧ a.Amended new y) ∧
    (.exponential ≤ y.time →
      f.algorithms.dp = false ∧ f.algorithms.memoization = false ∧
        (f.algorithms.backtracking = true ∨ f.algorithms.recursion = false ∨
          f.algorithms.sorting = false ∧ f.algorithms.divideConquer = false ∧
            f.algorithms.binarySearch = false ∧ f.algorithms.bfs = false ∧
            f.algorithms.dfs = false)) ∧
    ((f.pointers.slidingWindow = true ∨
        f.pointers.twoPointers = true ∧ f.pointers.forwardOnly = true) →
      f.algorithms.sorting = false → f.algorithms.binarySearch = false →
        f.structures.heap = false → y.time = .linear) := by
  intro y
  have hsettled : Clamp.Settled f y.time := a.settled_verify f
  refine ⟨a.verify_verify f, a.exists_amended_verify f, ?exponential, ?window⟩
  case exponential =>
    intro hexponential
    have htime : y.time.isExponential = true := decide_eq_true hexponential
    have hceiling := hsettled domainCeiling (by simp [Clamp.all])
    have htable := hsettled polynomialTable (by simp [Clamp.all])
    obtain ⟨hdp, hmemoization⟩ := Clamp.polynomialTable_eq_none htable htime
    refine ⟨hdp, hmemoization, ?_⟩
    rw [← Clamp.ceilings_eq_nil_iff]
    exact Clamp.of_domainCeiling_eq_none hceiling htime
  case window =>
    exact Clamp.linear_of_linearWindow_eq_none (hsettled linearWindow (by simp [Clamp.all]))

theorem verify_settles_window :
    let x : Analysis :=
      { time := .exponential, timeReason := "branches", space := .linear, spaceReason := "stack"
        confidence := 0.8, source := "rule_engine" }
    let window : FeatureSet :=
      { pointers := { slidingWindow := true }, algorithms := { memoization := true }
        metrics := { dpDimensions := 2 } }
    let search : FeatureSet :=
      { algorithms := { recursion := true, backtracking := true, sorting := true } }
    (∃ new, new.length ≤ 2 ∧ x.Amended new (x.verify window)) ∧
    window.pointers.slidingWindow = true ∧ window.algorithms.sorting = false ∧
    window.algorithms.binarySearch = false ∧ window.structures.heap = false ∧
    (x.verify window).time = .linear ∧ .exponential ≤ (x.verify search).time ∧
    search.algorithms.dp = false ∧ search.algorithms.memoization = false := by
  intro x window search
  obtain ⟨_, hamended, _, hlinear⟩ := verify_settles x window
  obtain ⟨_, _, hexponential, _⟩ := verify_settles x search
  have h : .exponential ≤ (x.verify search).time := by decide
  exact ⟨hamended, rfl, rfl, rfl, rfl, hlinear (.inl rfl) rfl rfl rfl, h, (hexponential h).1,
    (hexponential h).2.1⟩

end Analysis
end Asymptote
