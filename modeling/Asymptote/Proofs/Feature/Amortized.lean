import Asymptote.Feature.Algorithms
import Asymptote.Proofs.Order

/-! # Amortized verdicts and features
The marks on loops, the amortized verdict and the features tell the same. The verdict comes from a
drained stack or queue if some loop bears that mark, else from a shrunk window, else from pointers
that converge in a loop of its own; where it comes from is told by its pattern. -/
namespace Asymptote

namespace AmortizedVerdict

variable {s : Snippet} {f : LoopForest}

def Marked (f : LoopForest) (a : Amortization) : Prop :=
  ∃ l ∈ f, l.amortization? = some a

def Converges (s : Snippet) (f : LoopForest) : Prop :=
  ∃ index l, f[index]? = some l ∧ l.parent? = none ∧ (∀ inner ∈ f, inner.parent? ≠ some index) ∧
    Loop.isConverging s l.toLoop = true

theorem any_marked_iff {a : Amortization} :
    (f.any fun l => l.amortization? = some a) = true ↔ Marked f a := by
  simp [Marked, List.any_eq_true]

theorem hasConvergingLoop_iff : hasConvergingLoop s f = true ↔ Converges s f := by
  simp only [hasConvergingLoop, List.any_eq_true, Prod.exists, List.mem_zipIdx_iff_getElem?,
    Bool.and_eq_true, Option.isNone_iff_eq_none, Bool.not_eq_true', LoopForest.hasChild,
    List.any_eq_false, decide_eq_true_eq, and_assoc]
  exact exists_comm

theorem exists_amortized_iff : (∃ l ∈ f, l.amortization?.isSome = true) ↔
    Marked f .stackDrain ∨ Marked f .windowShrink := by
  constructor
  · rintro ⟨l, hl, hsome⟩
    obtain ⟨a, ha⟩ := Option.isSome_iff_exists.mp hsome
    cases a with
    | stackDrain => exact .inl ⟨l, hl, ha⟩
    | windowShrink => exact .inr ⟨l, hl, ha⟩
  · rintro (⟨l, hl, ha⟩ | ⟨l, hl, ha⟩) <;> exact ⟨l, hl, by rw [ha]; rfl⟩

/-- What is detected, with the stage that it comes from and all stages in front of it that found
nothing. -/
inductive Detected (s : Snippet) (f : LoopForest) : Option AmortizedVerdict → Prop
  | drain {v : AmortizedVerdict} (hv : v = monotonicQueue ∨ v = monotonicStack)
      (hdrain : Marked f .stackDrain) : Detected s f (some v)
  | window {v : AmortizedVerdict} (hv : v = hashWindow ∨ v = slidingWindow)
      (hdrain : ¬ Marked f .stackDrain) (hwindow : Marked f .windowShrink) : Detected s f (some v)
  | converging (hdrain : ¬ Marked f .stackDrain) (hwindow : ¬ Marked f .windowShrink)
      (hconverges : Converges s f) : Detected s f (some twoPointer)
  | nothing (hdrain : ¬ Marked f .stackDrain) (hwindow : ¬ Marked f .windowShrink)
      (hconverges : ¬ Converges s f) : Detected s f none

theorem detected (s : Snippet) (f : LoopForest) : Detected s f (detect? s f) := by
  rw [detect?]
  split
  next l hfound =>
    have hmark : l.amortization? = some .stackDrain := by
      simpa using List.find?_some hfound
    have hdrain : Marked f .stackDrain := ⟨l, List.mem_of_find?_eq_some hfound, hmark⟩
    split_ifs
    · exact .drain (.inl rfl) hdrain
    · exact .drain (.inr rfl) hdrain
  next hnone =>
    have hdrain : ¬ Marked f .stackDrain := by
      simpa [Marked] using hnone
    split_ifs with hwindow hhashed hconverges
    · exact .window (.inl rfl) hdrain (any_marked_iff.mp hwindow)
    · exact .window (.inr rfl) hdrain (any_marked_iff.mp hwindow)
    · exact .converging hdrain (mt any_marked_iff.mpr hwindow) (hasConvergingLoop_iff.mp hconverges)
    · exact .nothing hdrain (mt any_marked_iff.mpr hwindow)
        (mt hasConvergingLoop_iff.mpr hconverges)

namespace Detected

variable {found : Option AmortizedVerdict}

theorem isSome_iff (h : Detected s f found) : found.isSome = true ↔
    Marked f .stackDrain ∨ Marked f .windowShrink ∨ Converges s f := by
  cases h with
  | drain _ hdrain => simp [hdrain]
  | window _ _ hwindow => simp [hwindow]
  | converging _ _ hconverges => simp [hconverges]
  | nothing hdrain hwindow hconverges => simp [hdrain, hwindow, hconverges]

theorem linear (h : Detected s f found) :
    ∀ v ∈ found, v.time = .linear ∧ v.space ≤ .linear := by
  have hlinear : ∀ v ∈ [monotonicQueue, monotonicStack, hashWindow, slidingWindow, twoPointer],
      v.time = .linear ∧ v.space ≤ .linear := by decide
  rintro v ⟨⟩
  cases h with
  | drain hv => exact hlinear v (by obtain rfl | rfl := hv <;> simp)
  | window hv => exact hlinear v (by obtain rfl | rfl := hv <;> simp)
  | converging => exact hlinear twoPointer (by simp)

theorem exists_drain_iff (h : Detected s f found) :
    (∃ v ∈ found, v.pattern ∈ ["monotonic_stack", "monotonic_queue"]) ↔ Marked f .stackDrain := by
  cases h with
  | drain hv hdrain => obtain rfl | rfl := hv <;> simpa [hdrain] using by decide
  | window hv hdrain => obtain rfl | rfl := hv <;> simpa [hdrain] using by decide
  | converging hdrain => simpa [hdrain] using by decide
  | nothing hdrain => simp [hdrain]

theorem exists_window_iff (h : Detected s f found) :
    (∃ v ∈ found, v.pattern ∈ ["hash_window", "sliding_window"]) ↔
      ¬ Marked f .stackDrain ∧ Marked f .windowShrink := by
  cases h with
  | drain hv hdrain => obtain rfl | rfl := hv <;> simpa [hdrain] using by decide
  | window hv hdrain hwindow => obtain rfl | rfl := hv <;> simpa [hdrain, hwindow] using by decide
  | converging hdrain hwindow => simpa [hdrain, hwindow] using by decide
  | nothing hdrain hwindow => simp [hwindow]

theorem converges_of_pattern (h : Detected s f found) : ∀ v ∈ found,
    v.pattern ∉ ["monotonic_stack", "monotonic_queue", "hash_window", "sliding_window"] →
      v.pattern = "two_pointer" ∧ Converges s f := by
  rintro v ⟨⟩ hother
  cases h with
  | drain hv => exact absurd (by obtain rfl | rfl := hv <;> decide) hother
  | window hv => exact absurd (by obtain rfl | rfl := hv <;> decide) hother
  | converging _ _ hconverges => exact ⟨rfl, hconverges⟩

end Detected

end AmortizedVerdict

namespace FeatureSet
open AmortizedVerdict

theorem isAmortized_ofSnippet_iff (s : Snippet) :
    (ofSnippet s).metrics.isAmortized = true ↔
      (detect? s (LoopForest.ofSnippet s)).isSome = true ∨
        ∃ l ∈ LoopForest.ofSnippet s, l.amortization?.isSome = true := by
  rw [← List.any_eq_true, ← Bool.or_eq_true]
  rfl

theorem dominantPattern?_of_detect? {s : Snippet} {v : AmortizedVerdict}
    (h : detect? s (LoopForest.ofSnippet s) = some v) :
    (ofSnippet s).metrics.dominantPattern? = some v.pattern := by
  have hdominant : (ofSnippet s).metrics.dominantPattern? =
      ((detect? s (LoopForest.ofSnippet s)).map (·.pattern) <|> leadingPattern? _) := rfl
  rw [hdominant, h]
  rfl

/-- What the features tell of amortized work is what the verdict on it tells. A verdict is linear in
time and at most linear in space, and its pattern is the dominant one. It is a pattern of stacks and
queues exactly if the features show a monotonic stack, one of windows exactly if they do not and a
window shrinks; any other is that of pointers which converge in a loop of their own. -/
theorem amortized_agrees (s : Snippet) :
    let loops := LoopForest.ofSnippet s
    let f := ofSnippet s
    let found := detect? s loops
    (f.metrics.isAmortized = true ↔ found.isSome = true) ∧
    (∀ v ∈ found, v.time = .linear ∧ v.space ≤ .linear ∧
      f.metrics.dominantPattern? = some v.pattern) ∧
    ((∃ v ∈ found, v.pattern ∈ ["monotonic_stack", "monotonic_queue"]) ↔
      f.algorithms.monotonicStack = true) ∧
    ((∃ v ∈ found, v.pattern ∈ ["hash_window", "sliding_window"]) ↔
      f.algorithms.monotonicStack = false ∧ Marked loops .windowShrink) ∧
    ∀ v ∈ found,
      v.pattern ∉ ["monotonic_stack", "monotonic_queue", "hash_window", "sliding_window"] →
        v.pattern = "two_pointer" ∧ Converges s loops := by
  intro loops f found
  have hdetected : Detected s loops found := detected s loops
  have hflag : f.algorithms.monotonicStack = true ↔ Marked loops .stackDrain := any_marked_iff
  refine ⟨?metric, fun v hv => ?verdict, ?drain, ?window, hdetected.converges_of_pattern⟩
  case metric =>
    rw [isAmortized_ofSnippet_iff, exists_amortized_iff]
    refine or_iff_left_of_imp fun hmarked => hdetected.isSome_iff.mpr ?_
    exact hmarked.imp_right .inl
  case verdict =>
    obtain ⟨htime, hspace⟩ := hdetected.linear v hv
    exact ⟨htime, hspace, dominantPattern?_of_detect? hv⟩
  case drain => rw [hflag, hdetected.exists_drain_iff]
  case window => rw [← Bool.not_eq_true, hflag, hdetected.exists_window_iff]

end FeatureSet
end Asymptote
