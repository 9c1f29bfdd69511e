import Asymptote.Feature.Algorithms
import Asymptote.Proofs.Loop.Work
import Asymptote.Proofs.Verdict.Candidates

/-! # The class that loops propose
The depth and the growth of the heaviest chain fix the class. It is at least the work of every chain
of up to three loops, of whatever growth and depth: a chain shorter than the deepest ones stays
below a power of `n` that the class has, and one as long does not outweigh the heaviest. -/
namespace Asymptote

namespace Complexity

/-- The exponents of a class that is a product of powers of `√n` and `log n`. -/
def work? : Complexity → Option Work
  | constant => some (toLex (0, 0))
  | log => some (toLex (0, 1))
  | sqrt => some (toLex (1, 0))
  | linear => some (toLex (2, 0))
  | linearLog => some (toLex (2, 1))
  | quadratic => some (toLex (4, 0))
  | quadraticLog => some (toLex (4, 1))
  | cubic => some (toLex (6, 0))
  | _ => none

/-- The class is a product of powers, and the work is at most that. -/
def Covers (c : Complexity) (w : Work) : Prop :=
  ∃ bound, c.work? = some bound ∧ w ≤ bound

theorem work?_polynomial (depth : Nat) :
    (polynomial depth).work? = some (toLex (2 * min depth 3, 0)) := by
  rcases depth with _ | _ | _ | depth
  · rfl
  · rfl
  · rfl
  · simp [polynomial, work?]

end Complexity

namespace LoopGrowth
open FeatureSet

variable {gs best : List LoopGrowth} {depth : Nat}

/-- The chain has up to three loops, no more than the depth, and where it is as long as the heaviest
chain of this depth, it does not outweigh it. -/
structure Outweighed (depth : Nat) (best gs : List LoopGrowth) : Prop where
  length_best : best.length = depth
  pos : 0 < gs.length
  short : gs.length ≤ 3
  le : gs.length ≤ depth
  weight : gs.length = depth → chainWeight gs ≤ chainWeight best

theorem Outweighed.covers_polynomial (h : Outweighed depth best gs) :
    (Complexity.polynomial depth).Covers (chainWork gs) := by
  have hshort := h.short
  have hle := h.le
  exact ⟨_, Complexity.work?_polynomial depth, chainWork_le_of_length_le (by omega)⟩

theorem work?_loopClass_logarithmic (hpos : 0 < depth) (hthree : depth ≤ 3) :
    (loopClass depth .logarithmic).1.work? = some (toLex (2 * (depth - 1), 1)) := by
  rcases depth with _ | _ | _ | _ | depth
  · omega
  · rfl
  · rfl
  · rfl
  · omega

theorem Outweighed.covers_loopClass_logarithmic (h : Outweighed depth best gs)
    (hmem : .logarithmic ∈ best) : (loopClass depth .logarithmic).1.Covers (chainWork gs) := by
  have hpos := h.pos
  have hle := h.le
  by_cases hthree : depth ≤ 3
  · refine ⟨_, work?_loopClass_logarithmic (by omega) hthree, ?_⟩
    by_cases hlength : gs.length = depth
    · rw [← h.length_best]
      exact chainWork_le_of_logarithmic_mem (hlength.trans h.length_best.symm) (h.weight hlength)
        hmem
    · exact chainWork_le_of_length_le (by omega)
  · -- From four loops on, the class is that of linear ones.
    obtain ⟨deeper, rfl⟩ : ∃ deeper, depth = deeper + 4 := ⟨depth - 4, by omega⟩
    exact h.covers_polynomial

theorem Outweighed.covers_loopClass_sqrt (h : Outweighed depth best gs) (hmem : .sqrt ∈ best) :
    (loopClass depth .sqrt).1.Covers (chainWork gs) := by
  have hpos := h.pos
  have hle := h.le
  rcases depth with _ | _ | depth
  · omega
  · have hone : gs.length = 1 := by omega
    exact ⟨toLex (1, 0), rfl, chainWork_le_of_sqrt_mem hone h.length_best (h.weight hone) hmem⟩
  · exact h.covers_polynomial

theorem Outweighed.covers_loopClass (h : Outweighed depth best gs) :
    (loopClass depth (slowest best)).1.Covers (chainWork gs) := by
  rw [slowest]
  split
  · next hmem => exact h.covers_loopClass_logarithmic (List.contains_iff_mem.mp hmem)
  · split
    · next hmem => exact h.covers_loopClass_sqrt (List.contains_iff_mem.mp hmem)
    · exact h.covers_polynomial

end LoopGrowth

namespace FeatureSet

variable {f : FeatureSet} {c : Candidate}

theorem mem_ofLoops (hc : c ∈ f.candidates) (hsource : c.source = .loops) : c ∈ f.ofLoops := by
  have hother {ss : List CandidateSource} {cs : List Candidate} (h : Candidate.From ss cs)
      (hss : .loops ∉ ss) : c ∉ cs :=
    fun hmem => hss (hsource ▸ h.source_mem hmem)
  have hpropose {b : Bool} {d : Candidate} (hd : d.source ≠ .loops) : c ∉ propose b d := by
    intro hmem
    obtain ⟨_, rfl⟩ : b = true ∧ c = d := by simpa [propose] using hmem
    exact hd hsource
  rw [candidates] at hc
  split at hc
  · cases List.mem_singleton.mp hc
    cases hsource
  · simpa [hother f.from_ofRecursionInLoop (by simp [CandidateSource.mem_ite_iff]),
      ofSortInLoop, ofStringConcat, ofSieve, hother f.from_ofDivideConquer (by simp),
      hother f.from_ofTraversal (by simp), hother f.from_ofBinarySearch (by simp),
      ofMonotonicStack, ofSlidingWindow, hother f.from_ofHeap (by simp), ofSorting,
      hother f.from_ofBacktracking (by simp),
      hother f.from_ofRecursion (by simp [CandidateSource.mem_ite_iff]),
      hother f.from_ofHashing (by simp), ofTwoPointers,
      hother f.from_ofDynamicProgramming (by simp), hpropose] using hc

def loopsCandidate (f : FeatureSet) : Candidate :=
  let (complexity, explanation) := loopClass f.loops.maxNestingDepth f.loops.growth
  ⟨.loops, complexity, explanation⟩

theorem mem_candidates_loops_iff (hleaves : f.leavesAtOnce = false)
    (hdepth : 0 < f.loops.maxNestingDepth) :
    c ∈ f.candidates ∧ c.source = .loops ↔ c = f.loopsCandidate := by
  have hloops : f.ofLoops = [f.loopsCandidate] := if_pos hdepth
  have honly {d : Candidate} (hd : d ∈ f.candidates) (hsource : d.source = .loops) :
      d = f.loopsCandidate := by
    have hmem := mem_ofLoops hd hsource
    rw [hloops] at hmem
    exact List.mem_singleton.mp hmem
  constructor
  · rintro ⟨hc, hsource⟩
    exact honly hc hsource
  · rintro rfl
    have hshows : f.shows .loops = true := by simpa [shows] using hdepth
    obtain ⟨d, hd, hsource⟩ := exists_mem_candidates hleaves hshows
    exact honly hd hsource ▸ ⟨hd, hsource⟩

end FeatureSet

namespace LoopForest
open LoopGrowth

variable {s : Snippet} {f : LoopForest} {index : Nat} {l : NestedLoop}

theorem Rooted.outweighed (h : Rooted s f) (hpos : ∀ l ∈ f, 1 ≤ l.creditedDepth)
    (hl : f[index]? = some l) (hnone : l.amortization? = none)
    (hshort : (chainGrowths f index).length ≤ 3) :
    Outweighed (maxCreditedDepth f) (heaviest (deepestChains f)) (chainGrowths f index) := by
  have hmem := List.mem_of_getElem? hl
  have hone := hpos l hmem
  have hle := le_maxCreditedDepth hmem
  have hlength := h.length_chainGrowths hl
  exact {
    length_best := h.length_heaviest (by omega)
    pos := by omega
    short := hshort
    le := by omega
    weight := h.chainWeight_le hl hnone }

/-- Where the loops do not all leave at once, exactly one candidate stands for them, and its class
covers the work of every chain of up to three loops that are not amortized. -/
theorem loops_candidate_covers_chain (s : Snippet)
    (hleaves : (FeatureSet.ofSnippet s).leavesAtOnce = false) {index : Nat} {l : NestedLoop}
    (hl : (ofSnippet s)[index]? = some l) (hnone : l.amortization? = none)
    (hshort : (chainGrowths (ofSnippet s) index).length ≤ 3) :
    ∃ c, (∀ d, d ∈ (FeatureSet.ofSnippet s).candidates ∧ d.source = .loops ↔ d = c) ∧
      c.complexity.Covers (chainWork (chainGrowths (ofSnippet s) index)) := by
  have h := (rooted_ofSnippet s).outweighed (nested_ofSnippet s).creditedDepth_pos hl hnone hshort
  have hdepth : 0 < (FeatureSet.ofSnippet s).loops.maxNestingDepth := h.pos.trans_le h.le
  exact ⟨_, fun _ => FeatureSet.mem_candidates_loops_iff hleaves hdepth, h.covers_loopClass⟩

theorem loops_candidate_covers_chain_halving :
    let s := Snippet.ofCode .python
      "for x in xs:\n    while n > 1:\n        n //= 2\nfor y in ys:\n    print(y)".toList
    ∃ l : NestedLoop, (FeatureSet.ofSnippet s).leavesAtOnce = false ∧
      (ofSnippet s)[1]? = some l ∧ l.amortization? = none ∧
      chainGrowths (ofSnippet s) 1 = [.logarithmic, .linear] ∧
      ∃ c, (∀ d, d ∈ (FeatureSet.ofSnippet s).candidates ∧ d.source = .loops ↔ d = c) ∧
        c.complexity.Covers (chainWork (chainGrowths (ofSnippet s) 1)) := by
  intro s
  have hleaves : (FeatureSet.ofSnippet s).leavesAtOnce = false := by decide
  have hchain : chainGrowths (ofSnippet s) 1 = [.logarithmic, .linear] := by decide
  have hshort : (chainGrowths (ofSnippet s) 1).length ≤ 3 := by
    rw [hchain]
    decide
  have hmapped : (ofSnippet s)[1]?.map (·.amortization?) = some none := by decide
  obtain ⟨l, hl, hnone⟩ := Option.map_eq_some_iff.mp hmapped
  exact ⟨l, hleaves, hl, hnone, hchain, loops_candidate_covers_chain s hleaves hl hnone hshort⟩

end LoopForest
end Asymptote
