import Asymptote.Feature.Basic
import Asymptote.Verdict.Basic

/-! # Space rules
Each recognized use of memory contributes a class, and the highest contribution is the peak. An
enumeration that keeps all its answers also has a total, which becomes the headline figure. -/
namespace Asymptote

structure SpaceVerdict where
  complexity : Complexity
  explanation : String
  metrics : SpaceMetrics
  deriving DecidableEq, Repr

namespace FeatureSet

abbrev Contribution := Complexity × String

variable (f : FeatureSet)

def hasBoundedKeys : Bool :=
  f.pointers.slidingWindow || f.space.fixedKeyDomain

def recursesLogarithmically : Bool :=
  f.algorithms.divideConquer || f.algorithms.binarySearch || f.algorithms.gcd ||
    f.metrics.recursionArguments = .divide

def contributions : List Contribution :=
  (if f.space.hiddenAllocations then
    [(.linear, "slicing or copying allocates a new sequence")] else []) ++
  (if 0 < f.space.auxArrays then
    [(.linear, "auxiliary array proportional to the input")] else []) ++
  (if 0 < f.space.auxMaps || f.structures.hashMap || f.structures.hashSet then
    if f.hasBoundedKeys then [(.bounded, "hash table over a bounded key set")]
    else [(.linear, "hash table holding up to n entries")]
  else []) ++
  (if f.space.fixedKeyDomain then
    [(.bounded, "counting table over a fixed alphabet")] else []) ++
  (if f.structures.heap then [(.linear, "heap holding up to n elements")] else []) ++
  (if f.structures.queue then
    if f.pointers.slidingWindow then [(.bounded, "queue bounded by the window size")]
    else [(.linear, "queue holding up to n elements")]
  else []) ++
  (if f.structures.stack then [(.linear, "stack holding up to n elements")] else []) ++
  (if f.algorithms.dp || f.algorithms.memoization then
    if 2 ≤ f.metrics.dpDimensions then [(.quadratic, "two-dimensional DP table")]
    else [(.linear, "one-dimensional DP table or memo")]
  else []) ++
  if f.algorithms.recursion then
    if f.recursesLogarithmically then [(.log, "recursion depth is logarithmic")]
    else [(.linear, "recursion stack up to n frames deep")]
  else []

def raise (peak : Contribution) (c : Contribution) : Contribution :=
  if peak.1 < c.1 then c else peak

def peak : Contribution :=
  f.contributions.foldl raise (.constant, "in-place; only scalar variables")

def output? : Option Contribution :=
  if f.algorithms.backtracking && f.algorithms.accumulatesResults then
    if f.algorithms.isPermutation then
      some (.linearFactorial, "output holds all n! permutations of length n")
    else some (.linearExponential, "output holds all 2^n subsets of length up to n")
  else none

def spaceVerdict : SpaceVerdict :=
  match f.output? with
  | none => ⟨f.peak.1, f.peak.2, SpaceMetrics.flat f.peak.1⟩
  | some output =>
    let headline := raise f.peak output
    ⟨headline.1, headline.2, f.peak.1, max output.1 f.peak.1⟩

end FeatureSet

/-! ## Clamps
Constraints that every derived time has to meet, whatever rule proposed it: a sort is never
exponential, a table of states is polynomial, a window that only moves forward is linear. A violated
constraint replaces the time and leaves a correction. -/

/-- A constraint: the class that replaces a given one, and why, if the given one violates it. -/
structure Clamp where
  name : String
  check : Complexity → FeatureSet → Option (Complexity × String)

namespace Clamp

def ceilings (f : FeatureSet) : List Complexity :=
  (if f.algorithms.sorting || f.algorithms.divideConquer then [.linearLog] else []) ++
  (if f.algorithms.binarySearch then
    if f.algorithms.binarySearchInLoop then [.linearLog] else [.log]
  else []) ++
  if f.algorithms.bfs || f.algorithms.dfs then
    if f.structures.graph then [.graph] else [.linear]
  else []

/-- Exponential recursion without backtracking is cut to the slowest recognized family. -/
def domainCeiling : Clamp where
  name := "known_domain_ceiling"
  check time f :=
    if !time.isExponential || f.algorithms.backtracking || !f.algorithms.recursion then none
    else
      match ceilings f with
      | [] => none
      | c :: others =>
        some (others.foldl max c,
          "sorting, searching and traversal are never exponential without backtracking")

def polynomialTable : Clamp where
  name := "dp_is_polynomial"
  check time f :=
    if !time.isExponential || !(f.algorithms.dp || f.algorithms.memoization) then none
    else if 2 ≤ f.metrics.dpDimensions then
      some (.quadratic, "memoized state space is two-dimensional")
    else some (.linear, "memoized state space is one-dimensional")

def linearWindow : Clamp where
  name := "linear_window"
  check time f :=
    let forward := f.pointers.slidingWindow || (f.pointers.twoPointers && f.pointers.forwardOnly)
    let other := f.algorithms.sorting || f.algorithms.binarySearch || f.structures.heap
    if !forward || other || time = .linear then none
    else
      some (.linear,
        "pointers only move forward, so each index is visited a constant number of times")

def all : List Clamp :=
  [domainCeiling, polynomialTable, linearWindow]

/-- A clamp changes a verdict only if it gives another class. -/
def apply (f : FeatureSet) (a : Analysis) (clamp : Clamp) : Analysis :=
  match clamp.check a.time f with
  | none => a
  | some (time, reason) => if time = a.time then a else a.correctTime time reason

end Clamp

def Analysis.verify (a : Analysis) (f : FeatureSet) : Analysis :=
  Clamp.all.foldl (Clamp.apply f) a

end Asymptote
