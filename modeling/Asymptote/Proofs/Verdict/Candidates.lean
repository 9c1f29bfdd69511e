import Asymptote.Proofs.Order
import Asymptote.Verdict.Time

/-! # What the time rules propose
A source proposes something exactly if its feature shows, and only classes of its own. A candidate
without priority is selected only where no source with priority proposes anything. -/
namespace Asymptote

namespace Candidate

variable {cs : List Candidate} {c : Candidate}

theorem leads_of_highest (h : highest cs = some c) :
    Leads (fun d best => best.complexity < d.complexity) cs c := by
  cases cs with
  | nil => cases h
  | cons first others =>
    cases h
    exact leads_foldl (strictWeakOn_gt Candidate.complexity (first :: others))

theorem mem_of_highest (h : highest cs = some c) : c ∈ cs :=
  (leads_of_highest h).mem

theorem le_of_highest (h : highest cs = some c) : ∀ d ∈ cs, d.complexity ≤ c.complexity :=
  (leads_of_highest h).le_key

theorem mem_of_select (h : select cs = some c) : c ∈ cs := by
  rw [select] at h
  split at h
  · exact mem_of_highest h
  · exact (List.mem_filter.mp (mem_of_highest h)).1

theorem select_eq_none_iff : select cs = none ↔ cs = [] := by
  rw [select]
  split
  next => cases cs <;> simp [highest]
  next hpriority =>
    cases hfilter : cs.filter (·.source.hasPriority) with
    | nil => simp [hfilter] at hpriority
    | cons first others =>
      have hne : cs ≠ [] := by
        rintro rfl
        cases hfilter
      simp [highest, hne]

theorem hasPriority_eq_false_of_select (h : select cs = some c)
    (hc : c.source.hasPriority = false) : ∀ d ∈ cs, d.source.hasPriority = false := by
  rw [select] at h
  split at h
  · next hempty => simpa using hempty
  · have hpriority := (List.mem_filter.mp (mem_of_highest h)).2
    rw [hc] at hpriority
    cases hpriority

theorem highest_of_select (h : select cs = some c) (hc : c.source.hasPriority = false) :
    highest cs = some c := by
  have hnone : cs.filter (·.source.hasPriority) = [] := by
    simpa using hasPriority_eq_false_of_select h hc
  simpa [select, hnone] using h

end Candidate

def CandidateSource.classes : CandidateSource → List Complexity
  | earlyExit => [.constant]
  | enumerationInLoop => [.quadratic, .linearExponential, .factorial]
  | sortInLoop => [.quadraticLog]
  | stringConcatInLoop => [.quadratic]
  | sieve => [.linearLogLog]
  | divideConquer => [.linear, .linearLog]
  | graphTraversal => [.linear, .graph]
  | binarySearch => [.log, .linearLog]
  | monotonicStack => [.linear]
  | slidingWindow => [.linear]
  | heap => [.log, .linear, .linearLog]
  | sorting => [.linearLog]
  | backtracking => [.exponential, .linearExponential, .factorial]
  | recursionInLoop => [.quadratic]
  | treeRecursion => [.exponential]
  | recursion => [.log, .linear]
  | gcd => [.log]
  | loops => [.log, .sqrt, .linear, .linearLog, .quadratic, .quadraticLog, .cubic]
  | hashUsage => [.constant, .linear]
  | twoPointers => [.linear]
  | dynamicProgramming => [.linear, .quadratic]

theorem CandidateSource.mem_ite_iff {p : Prop} [Decidable p] {s : CandidateSource}
    {ss ts : List CandidateSource} : (s ∈ if p then ss else ts) ↔ p ∧ s ∈ ss ∨ ¬p ∧ s ∈ ts := by
  by_cases h : p <;> simp [h]

namespace FeatureSet

variable (f : FeatureSet)

def leavesAtOnce : Bool :=
  f.loops.exitsEarly && !f.algorithms.recursion

def shows : CandidateSource → Bool
  | .earlyExit => false
  | .enumerationInLoop => f.algorithms.recursionInLoop && f.algorithms.backtracking
  | .sortInLoop => f.algorithms.sortInLoop
  | .stringConcatInLoop => f.space.stringConcatInLoop
  | .sieve => f.algorithms.sieve
  | .divideConquer => f.algorithms.divideConquer
  | .graphTraversal => f.algorithms.bfs || f.algorithms.dfs
  | .binarySearch => f.algorithms.binarySearch
  | .monotonicStack => f.algorithms.monotonicStack
  | .slidingWindow => f.pointers.slidingWindow && f.pointers.forwardOnly
  | .heap => f.structures.heap
  | .sorting => f.algorithms.sorting
  | .backtracking => f.algorithms.backtracking
  | .recursionInLoop => f.algorithms.recursionInLoop && !f.algorithms.backtracking
  | .treeRecursion => 2 ≤ f.metrics.recursionBranching
  | .recursion =>
    f.metrics.recursionBranching < 2 && (f.algorithms.recursion && !f.algorithms.gcd)
  | .gcd =>
    f.metrics.recursionBranching < 2 && (f.algorithms.recursion && f.algorithms.gcd) ||
      f.loops.maxNestingDepth = 0 && f.algorithms.gcd
  | .loops => 0 < f.loops.maxNestingDepth
  | .hashUsage => f.structures.hashMap || f.structures.hashSet
  | .twoPointers => f.pointers.twoPointers && !f.pointers.slidingWindow
  | .dynamicProgramming => f.algorithms.dp || f.algorithms.memoization

def proposes (s : CandidateSource) : Bool :=
  if f.leavesAtOnce then s = .earlyExit else f.shows s

end FeatureSet

namespace Candidate

/-- The candidates have these sources, one for one, and classes that their sources may propose. -/
structure From (sources : List CandidateSource) (cs : List Candidate) : Prop where
  sources : cs.map (·.source) = sources
  classes : ∀ c ∈ cs, c.complexity ∈ c.source.classes

namespace From

variable {ss ts : List CandidateSource} {cs ds : List Candidate}

theorem nil : From [] [] :=
  ⟨rfl, fun _ h => absurd h List.not_mem_nil⟩

theorem source_mem {c : Candidate} (h : From ss cs) (hc : c ∈ cs) : c.source ∈ ss := by
  rw [← h.sources]
  exact List.mem_map_of_mem hc

theorem one {source : CandidateSource} {complexity : Complexity} {explanation : String}
    (h : complexity ∈ source.classes) : From [source] [⟨source, complexity, explanation⟩] :=
  ⟨rfl, List.forall_mem_singleton.mpr h⟩

theorem append (hcs : From ss cs) (hds : From ts ds) : From (ss ++ ts) (cs ++ ds) where
  sources := by rw [List.map_append, hcs.sources, hds.sources]
  classes := List.forall_mem_append.mpr ⟨hcs.classes, hds.classes⟩

variable {p : Prop} [Decidable p] {b : Bool}

theorem ite (hcs : From ss cs) (hds : From ts ds) :
    From (if p then ss else ts) (if p then cs else ds) := by
  by_cases h : p
  · simpa only [if_pos h] using hcs
  · simpa only [if_neg h] using hds

theorem either (hcs : From ss cs) (hds : From ss ds) : From ss (if p then cs else ds) := by
  simpa only [ite_self] using hcs.ite hds

theorem guarded (hcs : From ss cs) (hds : From ts ds) :
    From (if b then ss else ts) (if !b then ds else cs) := by
  cases b
  · exact hds
  · exact hcs

theorem propose {c : Candidate} (h : c.complexity ∈ c.source.classes) :
    From (if b then [c.source] else []) (FeatureSet.propose b c) :=
  ite (one h) nil

end From
end Candidate

namespace FeatureSet
open Candidate (From)

variable (f : FeatureSet)

theorem from_ofRecursionInLoop :
    From (if f.algorithms.recursionInLoop then
        if f.algorithms.backtracking then [.enumerationInLoop] else [.recursionInLoop] else [])
      f.ofRecursionInLoop :=
  .guarded (.guarded (.either (.one (by decide)) (.either (.one (by decide)) (.one (by decide))))
    (.one (by decide))) .nil

theorem from_ofDivideConquer :
    From (if f.algorithms.divideConquer then [.divideConquer] else []) f.ofDivideConquer :=
  .guarded (.either (.one (by decide)) (.one (by decide))) .nil

theorem from_ofTraversal :
    From (if f.algorithms.bfs || f.algorithms.dfs then [.graphTraversal] else []) f.ofTraversal :=
  .guarded (.either (.one (by decide)) (.one (by decide))) .nil

theorem from_ofBinarySearch :
    From (if f.algorithms.binarySearch then [.binarySearch] else []) f.ofBinarySearch :=
  .guarded (.either (.one (by decide)) (.one (by decide))) .nil

theorem from_ofHeap : From (if f.structures.heap then [.heap] else []) f.ofHeap :=
  .guarded (.either (.one (by decide)) (.either (.one (by decide)) (.one (by decide)))) .nil

theorem from_ofBacktracking :
    From (if f.algorithms.backtracking then [.backtracking] else []) f.ofBacktracking :=
  .guarded (.either (.one (by decide)) (.either (.one (by decide)) (.one (by decide)))) .nil

theorem from_ofRecursion :
    From (if 2 ≤ f.metrics.recursionBranching then [.treeRecursion]
        else if f.algorithms.recursion then if f.algorithms.gcd then [.gcd] else [.recursion]
        else []) f.ofRecursion :=
  .ite (.one (by decide)) (.guarded
    (.ite (.one (by decide)) (.either (.one (by decide)) (.one (by decide)))) .nil)

theorem loopClass_mem_classes (depth : Nat) (growth : LoopGrowth) (hdepth : 0 < depth) :
    (loopClass depth growth).1 ∈ CandidateSource.loops.classes := by
  rcases depth with _ | _ | _ | _ | depth <;> cases growth <;>
    simp [loopClass, Complexity.polynomial, CandidateSource.classes] at hdepth ⊢

theorem from_ofLoops :
    From (if 0 < f.loops.maxNestingDepth then [.loops]
        else if f.algorithms.gcd then [.gcd] else []) f.ofLoops := by
  rw [ofLoops]
  split
  · next hdepth => exact .one (loopClass_mem_classes _ _ hdepth)
  · exact .propose (show euclid.complexity ∈ euclid.source.classes by decide)

theorem from_ofHashing :
    From (if f.structures.hashMap || f.structures.hashSet then [.hashUsage] else [])
      f.ofHashing :=
  .guarded (.either (.one (by decide)) (.one (by decide))) .nil

theorem from_ofDynamicProgramming :
    From (if f.algorithms.dp || f.algorithms.memoization then [.dynamicProgramming] else [])
      f.ofDynamicProgramming :=
  .guarded (.either (.one (by decide)) (.one (by decide))) .nil

theorem exists_from_candidates :
    ∃ sources, From sources f.candidates ∧ ∀ s, s ∈ sources ↔ f.proposes s = true := by
  rw [candidates, ← leavesAtOnce]
  cases h : f.leavesAtOnce with
  | true => exact ⟨[.earlyExit], .one (by decide), fun s => by simp [proposes, h]⟩
  | false =>
    refine ⟨_, f.from_ofRecursionInLoop.append (.propose (by decide))
      |>.append (.propose (by decide)) |>.append (.propose (by decide))
      |>.append f.from_ofDivideConquer |>.append f.from_ofTraversal
      |>.append f.from_ofBinarySearch |>.append (.propose (by decide))
      |>.append (.propose (by decide)) |>.append f.from_ofHeap |>.append (.propose (by decide))
      |>.append f.from_ofBacktracking |>.append f.from_ofRecursion |>.append f.from_ofLoops
      |>.append f.from_ofHashing |>.append (.propose (by decide))
      |>.append f.from_ofDynamicProgramming, fun s => ?_⟩
    cases s <;> simp [proposes, h, shows, CandidateSource.mem_ite_iff]

variable {f}

theorem mem_classes_of_mem_candidates {c : Candidate} (hc : c ∈ f.candidates) :
    c.complexity ∈ c.source.classes :=
  let ⟨_, hfrom, _⟩ := f.exists_from_candidates
  hfrom.classes c hc

theorem mem_sources_candidates_iff {s : CandidateSource} :
    s ∈ f.candidates.map (·.source) ↔ f.proposes s = true := by
  obtain ⟨sources, hfrom, hproposes⟩ := f.exists_from_candidates
  rw [hfrom.sources, hproposes]

theorem proposes_source {c : Candidate} (hc : c ∈ f.candidates) : f.proposes c.source = true :=
  mem_sources_candidates_iff.mp (List.mem_map_of_mem hc)

theorem shows_of_proposes {s : CandidateSource} (hs : s ≠ .earlyExit) (h : f.proposes s = true) :
    f.leavesAtOnce = false ∧ f.shows s = true := by
  cases hleaves : f.leavesAtOnce <;> simp_all [proposes]

theorem exists_mem_candidates (hleaves : f.leavesAtOnce = false) {s : CandidateSource}
    (h : f.shows s = true) : ∃ c ∈ f.candidates, c.source = s := by
  have hproposes : f.proposes s = true := by simp [proposes, hleaves, h]
  exact List.mem_map.mp (mem_sources_candidates_iff.mpr hproposes)

/-- What wins without priority wins where no source with priority shows. -/
theorem shows_eq_false_of_select {c : Candidate} (hselect : Candidate.select f.candidates = some c)
    (hc : c.source.hasPriority = false) (hleaves : f.leavesAtOnce = false) {s : CandidateSource}
    (hs : s.hasPriority = true) : f.shows s = false := by
  apply Bool.eq_false_iff.mpr
  intro hshows
  obtain ⟨d, hd, rfl⟩ := exists_mem_candidates hleaves hshows
  rw [Candidate.hasPriority_eq_false_of_select hselect hc d hd] at hs
  cases hs

theorem exists_select_of_time {time : Complexity} (h : f.time.complexity = time)
    (htime : time ≠ .constant) :
    ∃ c, Candidate.select f.candidates = some c ∧ c.complexity = time := by
  rw [FeatureSet.time] at h
  cases hselect : Candidate.select f.candidates with
  | none =>
    rw [hselect] at h
    exact absurd h.symm htime
  | some c =>
    rw [hselect] at h
    exact ⟨c, rfl, h⟩

end FeatureSet

/-! ## The selected candidate
The first of the highest competing candidates is selected. Where a candidate with priority is there,
the others do not compete, so none of them bears on the choice. -/

namespace Candidate

variable {cs ds : List Candidate}

def competing (cs : List Candidate) : List Candidate :=
  if ∃ c ∈ cs, c.source.hasPriority then cs.filter (·.source.hasPriority) else cs

theorem select_eq_highest : select cs = highest (competing cs) := by
  have hnone : (cs.filter (·.source.hasPriority)).isEmpty = true ↔
      ¬ ∃ c ∈ cs, c.source.hasPriority = true := by
    simp
  rw [select, competing]
  by_cases h : ∃ c ∈ cs, c.source.hasPriority = true
  · rw [if_pos h]
    exact if_neg fun hempty => hnone.mp hempty h
  · rw [if_neg h]
    exact if_pos (hnone.mpr h)

theorem highest_eq_find? :
    highest cs = cs.find? fun c => decide (∀ d ∈ cs, d.complexity ≤ c.complexity) := by
  cases h : highest cs with
  | none =>
    cases cs with
    | nil => rfl
    | cons first others => cases h
  | some c =>
    rw [← (leads_of_highest h).find?_eq fun _ _ => lt_asymm]
    simp only [not_lt]

theorem competing_congr (hpriority : ∃ c ∈ cs, c.source.hasPriority)
    (h : ds.filter (·.source.hasPriority) = cs.filter (·.source.hasPriority)) :
    competing ds = competing cs := by
  obtain ⟨c, hc, hcpriority⟩ := hpriority
  have hcompetes : c ∈ ds.filter (·.source.hasPriority) := by
    rw [h]
    exact List.mem_filter.mpr ⟨hc, hcpriority⟩
  have hds : ∃ c ∈ ds, c.source.hasPriority := ⟨c, (List.mem_filter.mp hcompetes).1, hcpriority⟩
  rw [competing, competing, if_pos hds, if_pos ⟨c, hc, hcpriority⟩, h]

/-- The first of the highest competing candidates is selected, whatever candidates without priority
stand beside those with it. -/
theorem select_first_highest (cs : List Candidate) :
    (select cs = none ↔ cs = []) ∧
      (select cs = (competing cs).find? fun c =>
        decide (∀ d ∈ competing cs, d.complexity ≤ c.complexity)) ∧
      (∀ ds : List Candidate, (∃ c ∈ cs, c.source.hasPriority) →
        ds.filter (·.source.hasPriority) = cs.filter (·.source.hasPriority) →
          select ds = select cs) ∧
      ∀ c, select [c] = some c := by
  refine ⟨select_eq_none_iff, ?_, fun ds hpriority h => ?_, fun c => ?_⟩
  · rw [select_eq_highest, highest_eq_find?]
  · rw [select_eq_highest, select_eq_highest, competing_congr hpriority h]
  · cases h : c.source.hasPriority <;> simp [select, highest, h]

theorem select_first_highest_sorting :
    let sorting : Candidate := ⟨.sorting, .linearLog, "comparison sort"⟩
    let heap : Candidate := ⟨.heap, .linearLog, "logarithmic heap operations inside a loop"⟩
    let loops : Candidate := ⟨.loops, .quadratic, "two nested loops over the input"⟩
    let cs := [sorting, heap]
    let ds := [loops, sorting, heap]
    (∃ c ∈ cs, c.source.hasPriority) ∧
      ds.filter (·.source.hasPriority) = cs.filter (·.source.hasPriority) ∧
        select ds = select cs ∧ select cs = some sorting := by
  intro sorting heap loops cs ds
  have hpriority : ∃ c ∈ cs, c.source.hasPriority := by decide
  have h : ds.filter (·.source.hasPriority) = cs.filter (·.source.hasPriority) := by decide
  obtain ⟨-, hfirst, hgeneric, -⟩ := select_first_highest cs
  exact ⟨hpriority, h, hgeneric ds hpriority h, hfirst.trans (by decide)⟩

end Candidate

end Asymptote
