import Asymptote.Proofs.Engine.SpaceFigures

/-! # More uses of memory
A use of memory never lowers the verdict on space. Where two snippets agree on what bounds the keys
of a table and the depth of a recursion, and the one has all the uses of memory that the other has,
no figure of the one is below that of the other. -/
namespace Asymptote.FeatureSet

variable {f g : FeatureSet}

structure SharesBounds (f g : FeatureSet) : Prop where
  slidingWindow : f.pointers.slidingWindow = g.pointers.slidingWindow
  fixedKeyDomain : f.space.fixedKeyDomain = g.space.fixedKeyDomain
  divideConquer : f.algorithms.divideConquer = g.algorithms.divideConquer
  binarySearch : f.algorithms.binarySearch = g.algorithms.binarySearch
  gcd : f.algorithms.gcd = g.algorithms.gcd
  recursionArguments : f.metrics.recursionArguments = g.metrics.recursionArguments

structure UsesWithin (f g : FeatureSet) : Prop where
  hiddenAllocations : f.space.hiddenAllocations → g.space.hiddenAllocations
  auxArrays : 0 < f.space.auxArrays → 0 < g.space.auxArrays
  auxMaps : 0 < f.space.auxMaps → 0 < g.space.auxMaps
  hashMap : f.structures.hashMap → g.structures.hashMap
  hashSet : f.structures.hashSet → g.structures.hashSet
  heap : f.structures.heap → g.structures.heap
  queue : f.structures.queue → g.structures.queue
  stack : f.structures.stack → g.structures.stack
  dp : f.algorithms.dp → g.algorithms.dp
  memoization : f.algorithms.memoization → g.algorithms.memoization
  recursion : f.algorithms.recursion → g.algorithms.recursion
  backtracking : f.algorithms.backtracking → g.algorithms.backtracking
  accumulatesResults : f.algorithms.accumulatesResults → g.algorithms.accumulatesResults
  isPermutation : f.algorithms.isPermutation → g.algorithms.isPermutation
  dpDimensions : f.metrics.dpDimensions ≤ g.metrics.dpDimensions

namespace SharesBounds

theorem hasBoundedKeys_eq (h : SharesBounds f g) : f.hasBoundedKeys = g.hasBoundedKeys := by
  rw [hasBoundedKeys, hasBoundedKeys, h.slidingWindow, h.fixedKeyDomain]

theorem recursesLogarithmically_eq (h : SharesBounds f g) :
    f.recursesLogarithmically = g.recursesLogarithmically := by
  rw [recursesLogarithmically, recursesLogarithmically, h.divideConquer, h.binarySearch, h.gcd,
    h.recursionArguments]

end SharesBounds

/-! ## Contributions -/

def Covered (cs ds : List Contribution) : Prop :=
  ∀ c ∈ cs, ∃ d ∈ ds, c.1 ≤ d.1

namespace Covered

variable {cs cs' ds ds' : List Contribution} {c d : Contribution} {p q : Prop} [Decidable p]
  [Decidable q]

theorem refl (cs : List Contribution) : Covered cs cs :=
  fun c hc => ⟨c, hc, le_rfl⟩

theorem singleton (h : c.1 ≤ d.1) : Covered [c] [d] := by
  simpa [Covered] using h

theorem append (h : Covered cs ds) (h' : Covered cs' ds') : Covered (cs ++ cs') (ds ++ ds') := by
  refine List.forall_mem_append.mpr ⟨fun c hc => ?_, fun c hc => ?_⟩
  · obtain ⟨d, hd, hle⟩ := h c hc
    exact ⟨d, List.mem_append_left _ hd, hle⟩
  · obtain ⟨d, hd, hle⟩ := h' c hc
    exact ⟨d, List.mem_append_right _ hd, hle⟩

theorem ite (hpq : p → q) (h : Covered cs ds) :
    Covered (if p then cs else []) (if q then ds else []) := by
  by_cases hp : p
  · rwa [if_pos hp, if_pos (hpq hp)]
  · rw [if_neg hp]
    exact List.forall_mem_nil _

end Covered

theorem covered_contributions (hbounds : SharesBounds f g) (huses : UsesWithin f g) :
    Covered f.contributions g.contributions := by
  have htables : (0 < f.space.auxMaps || f.structures.hashMap || f.structures.hashSet) = true →
      (0 < g.space.auxMaps || g.structures.hashMap || g.structures.hashSet) = true := by
    simp only [Bool.or_eq_true, decide_eq_true_eq]
    exact Or.imp (Or.imp huses.auxMaps huses.hashMap) huses.hashSet
  have hdp : (f.algorithms.dp || f.algorithms.memoization) = true →
      (g.algorithms.dp || g.algorithms.memoization) = true := by
    simp only [Bool.or_eq_true]
    exact Or.imp huses.dp huses.memoization
  -- The one contribution whose class grows with a figure: the table of a dynamic program.
  have hdimensions : Covered
      (if 2 ≤ f.metrics.dpDimensions then [(.quadratic, "two-dimensional DP table")]
        else [(.linear, "one-dimensional DP table or memo")])
      (if 2 ≤ g.metrics.dpDimensions then [(.quadratic, "two-dimensional DP table")]
        else [(.linear, "one-dimensional DP table or memo")]) := by
    have hle := huses.dpDimensions
    split_ifs with hf hg hg
    · exact .refl _
    · omega
    · exact .singleton (by decide)
    · exact .refl _
  rw [contributions, contributions, hbounds.hasBoundedKeys_eq, hbounds.recursesLogarithmically_eq,
    hbounds.slidingWindow, hbounds.fixedKeyDomain]
  refine ((((((((Covered.ite huses.hiddenAllocations (.refl _)).append
    (.ite huses.auxArrays (.refl _))).append (.ite htables (.refl _))).append
    (.refl _)).append (.ite huses.heap (.refl _))).append (.ite huses.queue (.refl _))).append
    (.ite huses.stack (.refl _))).append (.ite hdp hdimensions)).append
    (.ite huses.recursion (.refl _))

/-! ## The verdict -/

theorem peak_mono (hbounds : SharesBounds f g) (huses : UsesWithin f g) : f.peak.1 ≤ g.peak.1 := by
  refine peak_le_iff.mpr fun c hc => ?_
  obtain ⟨d, hd, hle⟩ := covered_contributions hbounds huses c hc
  exact hle.trans (peak_le_iff.mp le_rfl d hd)

theorem exists_output_ge (huses : UsesWithin f g) {output : Contribution}
    (h : f.output? = some output) : ∃ output', g.output? = some output' ∧ output.1 ≤ output'.1 := by
  rw [output?] at h
  split_ifs at h with hkeeps hpermutes
  all_goals
    rw [Bool.and_eq_true] at hkeeps
    have hkeeps' : (g.algorithms.backtracking && g.algorithms.accumulatesResults) = true :=
      Bool.and_eq_true_iff.mpr ⟨huses.backtracking hkeeps.1, huses.accumulatesResults hkeeps.2⟩
    rw [output?, if_pos hkeeps']
    cases h
  · rw [if_pos (huses.isPermutation hpermutes)]
    exact ⟨_, rfl, le_rfl⟩
  · split_ifs
    · exact ⟨_, rfl, by decide⟩
    · exact ⟨_, rfl, le_rfl⟩

theorem complexity_le_iff {bound : Complexity} : f.spaceVerdict.complexity ≤ bound ↔
    f.peak.1 ≤ bound ∧ ∀ output, f.output? = some output → output.1 ≤ bound := by
  rw [spaceVerdict]
  cases f.output? with
  | none => simp
  | some output => simp [raise_fst]

/-- With the same bounds on keys and depth, more uses of memory never lower a figure of the
verdict. -/
theorem spaceVerdict_mono (hbounds : SharesBounds f g) (huses : UsesWithin f g) :
    f.spaceVerdict.metrics.peak ≤ g.spaceVerdict.metrics.peak ∧
      f.spaceVerdict.metrics.total ≤ g.spaceVerdict.metrics.total ∧
        f.spaceVerdict.complexity ≤ g.spaceVerdict.complexity := by
  have hpeak := peak_mono hbounds huses
  have hcomplexity : f.spaceVerdict.complexity ≤ g.spaceVerdict.complexity := by
    obtain ⟨hpeak', houtput'⟩ := complexity_le_iff.mp (le_refl g.spaceVerdict.complexity)
    refine complexity_le_iff.mpr ⟨hpeak.trans hpeak', fun output houtput => ?_⟩
    obtain ⟨output', hsome, hle⟩ := exists_output_ge huses houtput
    exact hle.trans (houtput' output' hsome)
  refine ⟨?_, ?_, hcomplexity⟩
  · rwa [peak_spaceVerdict, peak_spaceVerdict]
  · rwa [f.bearOut_spaceVerdict.total_eq, g.bearOut_spaceVerdict.total_eq]

theorem spaceVerdict_mono_answers :
    let f : FeatureSet :=
      { algorithms := { recursion := true, binarySearch := true, dp := true }
        metrics := { dpDimensions := 1 } }
    let g : FeatureSet :=
      { algorithms :=
          { recursion := true, binarySearch := true, dp := true, backtracking := true,
            accumulatesResults := true, isPermutation := true }
        metrics := { dpDimensions := 2 } }
    SharesBounds f g ∧ UsesWithin f g ∧
      f.spaceVerdict.metrics = ⟨.linear, .linear⟩ ∧
        g.spaceVerdict.metrics = ⟨.quadratic, .linearFactorial⟩ ∧
          f.spaceVerdict.metrics.peak ≤ g.spaceVerdict.metrics.peak ∧
            f.spaceVerdict.metrics.total ≤ g.spaceVerdict.metrics.total ∧
              f.spaceVerdict.complexity ≤ g.spaceVerdict.complexity := by
  intro f g
  have hbounds : SharesBounds f g := by constructor <;> rfl
  have huses : UsesWithin f g := by constructor <;> decide
  exact ⟨hbounds, huses, rfl, rfl, spaceVerdict_mono hbounds huses⟩

end Asymptote.FeatureSet
