import Asymptote.Feature.Algorithms

/-! # Recognizers of well-known algorithms
Each recognizer looks at one view of the snippet: its text, its loops, its recursive functions and
the names that it defines. -/
namespace Asymptote

/-! ## The view of hazard recognizers
What a recognizer of a well-known algorithm may look at, computed once for a snippet. -/

open Pattern CharClass Snippet

structure HazardView where
  snippet : Snippet
  forest : LoopForest
  structures : StructureFeatures

namespace HazardView

def ofSnippet (s : Snippet) : HazardView :=
  ⟨s, LoopForest.ofSnippet s, StructureFeatures.detect s (LiteralContainers.detect s)⟩

variable (v : HazardView)

def defines (parts : List String) : Bool := v.snippet.defines parts

def mentions (keys : List String) : Bool := v.snippet.mentions keys

def shows (p : Pattern) : Bool := v.snippet.shows p

def depth : Nat := LoopForest.maxDepth v.forest

def hasLoops : Bool := !v.forest.isEmpty

def recursiveCalls? (parts : List String) : Option (List CallSite) :=
  let named := v.snippet.functions.filter fun f => parts.any fun part => Text.contains f.key part
  (named.map v.snippet.selfCalls).find? fun sites => !sites.isEmpty

def recurses : Bool :=
  v.snippet.functions.any fun f => !(v.snippet.selfCalls f).isEmpty

def branches (test : Text → Bool) : Bool :=
  v.snippet.functions.any fun f =>
    let sites := v.snippet.selfCalls f
    2 ≤ sites.length && !RecursiveFunction.returnsExclusively v.snippet f sites &&
      sites.any fun site => test site.arguments

def sortCall : Pattern :=
  anyOf [
    edge ++ call "sorted", call ".sort",
    edge ++ "sort." ++ call (anyOf ["Ints", "Slice", "Strings"]), whole "Arrays.sort",
    edge ++ "sort" ++ spaced "(" ++ word ++ ".begin", ".sort_unstable" ++ wordRest ++ ws ++ "("]

def sorts : Bool := v.shows sortCall

def memoUse : Pattern :=
  caseless (anyOf [
    "@" ++ opt "functools." ++ opt "lru_" ++ "cache" ++ edge, wordWith "memo", whole "cache"])

def memoizes : Bool := v.shows memoUse

end HazardView

/-- A well-known algorithm that structural rules misjudge: how to recognize it, and the verdict that
ends the matter. -/
structure Hazard where
  name : String
  time : Complexity
  space : Complexity
  confidence : Float
  reason : String
  recognizes : HazardView → Bool

/-! ## Graphs and trees
Recognizers of shortest paths, orderings, components and traversals. -/

namespace HazardView

variable (v : HazardView)

def isDijkstra : Bool :=
  v.structures.heap && v.mentions ["dist", "distance", "distances", "dis"] &&
    (v.structures.graph || v.mentions ["dijkstra"])

def extremesCall : Pattern :=
  anyOf [edge ++ call "nlargest", edge ++ call "nsmallest"]

def overK : Pattern :=
  anyOf ["len(" ++ ws ++ word ++ ws ++ ")", ".size()", ".len()", ".length"] ++ spaced ">" ++ "k" ++
    edge

def isHeapTopK : Bool :=
  v.shows extremesCall || (v.structures.heap && v.shows overK)

def oneLess : Pattern :=
  anyOf [word ++ spaced "-" ++ "1" ++ ws ++ ")", "<" ++ ws ++ word ++ spaced "-" ++ "1" ++ edge]

def isBellmanFord : Bool :=
  v.defines ["bellmanford"] ||
    (!v.structures.heap && v.mentions ["dist", "distance"] && v.mentions ["edges"] &&
      2 ≤ v.depth && v.shows oneLess)

def throughVertex : Pattern :=
  "[" ++ ws ++ word ++ spaced "]" ++ subscript "k" ++ spaced "+" ++ word ++ spaced "[" ++ "k" ++
    spaced "]" ++ "["

def isFloydWarshall : Bool := 3 ≤ v.depth && v.shows throughVertex

def isTopologicalSort : Bool :=
  v.defines ["toposort", "topologicalsort"] ||
    (v.mentions ["indegree", "indeg", "indegrees"] && v.structures.queue)

def isUnionFind : Bool := v.structures.unionFind

def isTreeTraversal : Bool := v.defines ["inorder", "preorder", "postorder"] && v.recurses

def isLevelOrder : Bool := v.defines ["levelorder", "zigzag"] && v.structures.queue

/-! ## Enumerations and recurrences
Recognizers of algorithms that enumerate solutions, of small recurrences and of number theory. -/

def isNQueens : Bool :=
  (v.defines ["nqueen", "queens"] || v.mentions ["queens", "nqueens"]) && v.recurses

def isGenerateParentheses : Bool := v.defines ["generateparenthes"]

def isPermutations : Bool :=
  v.defines ["permut"] &&
    !v.defines ["nextpermutation", "permutationinstring", "checkinclusion"] &&
    (v.recurses || v.shows AlgorithmFeatures.permutationsCall)

def isSubsets : Bool :=
  v.defines ["subset", "powerset"] && !v.defines ["subsetsum", "partition"] &&
    (v.recurses || v.hasLoops)

def isTowerOfHanoi : Bool := v.defines ["hanoi"] && v.recurses

def isFibonacciMemo : Bool := (v.recursiveCalls? ["fib"]).isSome && v.memoizes

def isFibonacciNaive : Bool :=
  ((v.recursiveCalls? ["fib"]).any fun sites => 2 ≤ sites.length) && !v.memoizes

def tableUse : Pattern :=
  anyOf [
    subscript "0" ++ ws ++ "*", edge ++ "new" ++ ws1 ++ word ++ ws ++ "[", whole "dp", ".append(",
    ".push(", edge ++ "vec!["]

def isFibonacciIterative : Bool :=
  v.defines ["fib"] && (v.recursiveCalls? ["fib"]).isNone && v.hasLoops && !v.shows tableUse

def minusOne : Pattern :=
  "-" ++ ws ++ "1" ++ edge

def isFactorialRecursive : Bool :=
  (v.recursiveCalls? ["factorial", "fact"]).any fun sites =>
    match sites with
    | [site] => minusOne.occursIn site.arguments
    | _ => false

def half : Pattern :=
  anyOf [
    "//" ++ ws ++ "2" ++ edge, "/" ++ ws ++ "2" ++ edge, ">>" ++ ws ++ "1" ++ edge, whole "half"]

def isFastPowerRecursive : Bool :=
  !v.defines ["powerset"] && (v.recursiveCalls? ["pow"]).any fun sites =>
    sites.any fun site => half.occursIn site.arguments

def halvingUpdate : Pattern :=
  anyOf [
    edge ++ word ++ ws ++ anyOf ["//=", ">>=", "/="] ++ ws ++ one "12" ++ edge,
    edge ++ word ++ spaced "=" ++ word ++ ws ++ anyOf ["//", ">>", "/"] ++ ws ++ one "12" ++ edge]

def isFastPowerIterative : Bool :=
  v.defines ["pow"] && !v.defines ["powerset"] && (v.recursiveCalls? ["pow"]).isNone &&
    v.shows halvingUpdate

def isGcdRecursive : Bool :=
  (v.recursiveCalls? ["gcd", "hcf"]).any fun sites =>
    sites.any fun site => site.arguments.elem '%'

def isGcdIterative : Bool :=
  v.defines ["gcd", "hcf"] && (v.recursiveCalls? ["gcd", "hcf"]).isNone && v.hasLoops &&
    v.snippet.clean.elem '%'

def isSieveOfEratosthenes : Bool := AlgorithmFeatures.isSieve v.snippet v.forest

def isPrimeTrialDivision : Bool :=
  v.defines ["prime"] && v.hasLoops && v.depth = 1 && v.forest.any fun l => l.growth = .sqrt

/-! ## Sums, searches and scans
Recognizers of sum problems, binary searches and passes over a sequence. -/

def hasScanInside (count : Nat) : Bool :=
  v.forest.zipIdx.any fun (l, index) =>
    l.kind = .whileLoop &&
      (((LoopForest.chain v.forest index).drop 1).filter (·.kind = .forLoop)).length = count

def fourName : Pattern :=
  caseless (anyOf ["four" ++ opt "_" ++ "sum", edge ++ "4" ++ opt "_" ++ "sum"])

def isFourSum : Bool :=
  v.sorts && v.shows fourName && v.hasScanInside 2

def threeHint : Pattern :=
  caseless (anyOf ["three", "3" ++ opt "_" ++ "sum", "triplet"])

def fourHint : Pattern :=
  caseless (anyOf ["four", "4" ++ opt "_" ++ "sum", "quadruplet"])

def resetsLower : Bool :=
  Loop.pointerResets v.snippet (LoopForest.loops v.forest)
    (["left", "l", "lo", "j", "low"].map String.toList)

def isThreeSum : Bool :=
  v.sorts && !v.shows fourHint && v.depth = 2 && v.hasScanInside 1 &&
    (v.shows threeHint || v.resetsLower)

def differenceIn : Pattern :=
  word ++ spaced "-" ++ some1 (inWord ∪ "[]") ++ ws1 ++ opt ("not" ++ ws1) ++ "in" ++ ws1 ++ word

def differenceCall : Pattern :=
  "." ++ anyOf ["containsKey", "has", "contains_key", "count", "find", "get"] ++ spaced "(" ++
    opt "&" ++ ws ++
    anyOf [word ++ spaced "-" ++ some1 (inWord ∪ "[]"), "complement", "diff", "need"] ++ ws ++ ")"

def complementUse : Pattern :=
  anyOf [
    edge ++ "complement" ++ ws1 ++ "in" ++ edge, "(" ++ ws ++ opt "&" ++ "complement" ++ ws ++ ")"]

def looksUpDifference : Bool :=
  v.shows differenceIn || v.shows differenceCall ||
    (v.mentions ["complement"] && v.shows complementUse)

def isTwoSumHash : Bool :=
  (v.structures.hashMap || v.structures.hashSet) && v.mentions ["target"] && v.depth = 1 &&
    !v.sorts && v.looksUpDifference

def midWord : Pattern :=
  wordWith "mid"

def searchesRecursively (f : Snippet.Function) : Bool :=
  let s := v.snippet
  let sites := s.selfCalls f
  let lines := (List.range' f.line (f.last + 1 - f.line)).map s.line
  let mids := lines.filterMap Motion.midpointName?
  !sites.isEmpty && (sites.length = 1 || RecursiveFunction.returnsExclusively s f sites) &&
    lines.any Motion.isMidpoint &&
    !(v.forest.any fun l => f.line ≤ l.line && l.line ≤ f.last) &&
    sites.any fun site =>
      midWord.occursIn site.arguments ||
        (RecursiveFunction.identifierRuns site.arguments).any mids.contains

def isBinarySearchRecursive : Bool :=
  v.snippet.functions.any v.searchesRecursively

def isBinarySearchIterative : Bool :=
  match v.forest with
  | [l] =>
    AlgorithmFeatures.isConditional l && !v.recurses && !v.sorts &&
      (l.body.map v.snippet.line).any Motion.isMidpoint
  | _ => false

def extendFirst : Pattern :=
  edge ++ "max" ++ spaced "(" ++ group 1 (some1 (inWord ∪ "[]")) ++ spaced "," ++ group 2 word ++
    spaced "+" ++ group 3 (some1 (inWord ∪ "[]")) ++ ws ++ ")"

def extendLast : Pattern :=
  edge ++ "max" ++ spaced "(" ++ group 1 word ++ spaced "+" ++ group 2 (some1 (inWord ∪ "[]")) ++
    spaced "," ++ group 3 (some1 (inWord ∪ "[]")) ++ ws ++ ")"

def isKadane : Bool :=
  (((extendFirst.findAll v.snippet.clean).any fun m => m.group 1 = m.group 3) ||
    (extendLast.findAll v.snippet.clean).any fun m => m.group 2 = m.group 3) &&
    v.depth ≤ 1

def emptyCount : Pattern :=
  edge ++ "count" ++ spaced "==" ++ "0" ++ edge

def isBoyerMooreVote : Bool :=
  v.mentions ["candidate"] && v.shows emptyCount && v.depth ≤ 1

def flagLoop : Pattern :=
  "while" ++ ws ++ opt "(" ++ spaced "mid" ++ "<=" ++ ws ++ "high" ++ edge

def isDutchNationalFlag : Bool :=
  v.mentions ["low"] && v.mentions ["mid"] && v.mentions ["high"] && v.shows flagLoop

def doubleStep : Pattern :=
  anyOf [
    whole "fast.next.next",
    edge ++ "fast" ++ spaced "=" ++ word ++ "[" ++ ws ++ word ++ subscript "fast" ++ ws ++ "]"]

def isFloydCycle : Bool :=
  v.mentions ["slow"] && v.mentions ["fast"] && v.shows doubleStep

def nextToPrevious : Pattern :=
  ".next" ++ spaced "=" ++ "prev" ++ edge

def isReverseLinkedList : Bool :=
  v.mentions ["prev"] && v.shows nextToPrevious && !v.recurses

/-! ## Strings, matrices and designed structures
Recognizers of string matching, matrix and prefix tables, bit counting, character counting and
structures that are built around a few operations. -/

def prefixTable : Pattern :=
  edge ++ "lps" ++ ws ++ "["

def isKmp : Bool :=
  v.defines ["kmp", "computelps", "buildlps", "prefixfunction"] || v.shows prefixTable

def rollingHash : Pattern :=
  caseless (anyOf ["rabin", "karp", "rolling" ++ opt "_" ++ "hash"])

def isRabinKarp : Bool := v.shows rollingHash

def isZFunction : Bool :=
  v.defines ["zfunction", "zalgorithm", "zarray", "computez", "getz"]

def manacherName : Pattern :=
  caseless "manacher"

def isManacher : Bool := v.shows manacherName

def productSum : Pattern :=
  word ++ spaced "[" ++ group 1 word ++ spaced "]" ++ "[" ++ ws ++ group 2 word ++ spaced "]" ++
    "+=" ++ ws ++ word ++ spaced "[" ++ group 3 word ++ spaced "]" ++ "[" ++ ws ++ group 4 word ++
    spaced "]" ++ "*" ++ ws ++ word ++ spaced "[" ++ group 5 word ++ spaced "]" ++ "[" ++ ws ++
    group 6 word ++ ws ++ "]"

def isMatrixMultiplication : Bool :=
  3 ≤ v.depth && (productSum.findAll v.snippet.clean).any fun m =>
    m.group 1 = m.group 3 && m.group 4 = m.group 5 && m.group 2 = m.group 6

def runningEntry : Pattern :=
  edge ++ group 1 word ++ spaced "[" ++ group 2 word ++ spaced "]" ++ "=" ++ ws ++ group 3 word ++
    spaced "[" ++ word ++ spaced "-" ++ "1" ++ spaced "]" ++ "+"

def isPrefixSum : Bool :=
  v.depth ≤ 1 && (runningEntry.findAll v.snippet.clean).any fun m =>
    let name := Text.lowercase (m.group 1)
    m.group 1 = m.group 3 &&
      (Text.contains name "pre" || Text.contains name "cum" || Text.contains name "psum")

def clearLowest : Pattern :=
  edge ++ group 1 word ++ spaced "&=" ++ group 2 word ++ spaced "-" ++ "1" ++ edge

def clearLowestSpelled : Pattern :=
  edge ++ group 1 word ++ spaced "=" ++ group 2 word ++ spaced "&" ++ "(" ++ ws ++ group 3 word ++
    spaced "-" ++ "1" ++ ws ++ ")"

def isKernighanBitCount : Bool :=
  ((clearLowest.findAll v.snippet.clean).any fun m => m.group 1 = m.group 2) ||
    (clearLowestSpelled.findAll v.snippet.clean).any fun m =>
      m.group 1 = m.group 2 && m.group 2 = m.group 3

def counterEquality : Pattern :=
  edge ++ "Counter(" ++ ws ++ word ++ spaced ")" ++ "==" ++ ws ++ "Counter("

def isCounterComparison : Bool := v.shows counterEquality

def isValidParentheses : Bool :=
  v.defines ["isvalid", "validparenthes", "balanced", "validbracket"] && v.structures.stack &&
    v.depth ≤ 1

def trieType : Pattern :=
  anyOf [
    edge ++ "class" ++ ws1 ++ "Trie" ++ edge, edge ++ "struct" ++ ws1 ++ "Trie" ++ edge,
    whole "TrieNode"]

def isTrie : Bool := v.shows trieType && !v.recurses

def lruName : Pattern :=
  caseless (anyOf [whole "LRUCache", "move_to_end", whole "LRU"])

def isLruCache : Bool := v.shows lruName && v.defines ["get"] && v.defines ["put"]

/-! ## Sorting and selection
Recognizers of the textbook sorts, mostly by name. -/

def isQuickselect : Bool :=
  v.defines ["quickselect"] ||
    (v.defines ["partition"] && v.mentions ["pivot"] && v.defines ["kth", "findkth", "select"] &&
      !v.branches fun _ => true)

def halves : Pattern :=
  anyOf [
    wordWith "mid", "//" ++ ws ++ "2" ++ edge, "/" ++ ws ++ "2" ++ edge, ">>" ++ ws ++ "1" ++ edge]

def isMergeSort : Bool :=
  !v.mentions ["pivot"] &&
    (v.defines ["mergesort"] ||
      (v.defines ["merge", "sortlist", "sortarray"] && v.branches halves.occursIn))

def isQuickSort : Bool :=
  v.defines ["quicksort", "qsort"] || (v.mentions ["pivot"] && v.branches fun _ => true)

def isHeapSort : Bool :=
  v.defines ["heapsort"] || (v.defines ["heapify", "siftdown"] && v.defines ["sort"])

def isCountingSort : Bool := v.defines ["countingsort", "countsort"]

def isRadixSort : Bool := v.defines ["radixsort"]

def isBucketSort : Bool := v.defines ["bucketsort"]

def neighbours : Pattern :=
  word ++ spaced "[" ++ group 1 word ++ spaced "]" ++ ">" ++ ws ++ word ++ spaced "[" ++
    group 2 word ++ spaced "+" ++ "1" ++ ws ++ "]"

def comparesNeighbours : Bool :=
  (neighbours.findAll v.snippet.clean).any fun m => m.group 1 = m.group 2

def isBubbleSort : Bool :=
  v.defines ["bubblesort"] ||
    (2 ≤ v.depth && v.comparesNeighbours &&
      (AlgorithmFeatures.swaps v.snippet || v.mentions ["temp", "tmp"]))

def isInsertionSort : Bool := v.defines ["insertionsort"]

def isSelectionSort : Bool := v.defines ["selectionsort"]

end HazardView

end Asymptote
