import Asymptote.Feature.Structures
import Asymptote.Verdict.Basic

/-! # Recursion and algorithm families
What a snippet shows of well-known ways to solve a problem, and all its features put together. -/
namespace Asymptote

/-! ## Recursion
The recursive function that decides about a snippet is the one with the most calls of itself. What
counts is how many of its calls one activation can make and how the arguments shrink. -/

open Pattern CharClass Snippet

structure RecursiveFunction where
  function : Snippet.Function
  sites : List CallSite
  /-- How many of the calls one activation can make. -/
  branching : Nat
  deriving DecidableEq, Repr

namespace RecursiveFunction

def returnedCall : Pattern :=
  edge ++ "return" ++ ws1 ++ opt (anyOf ["self.", "this."]) ++ word ++ ws ++ "(" ++ lineRest ++
    ")" ++ ws ++ opt ";" ++ ws ++ textEnd

/-- Of several calls each stands alone on a line that returns it, so an activation makes at most
one. -/
def returnsExclusively (s : Snippet) (f : Snippet.Function) (sites : List CallSite) : Bool :=
  let lines := (sites.map (·.line)).eraseReps
  2 ≤ sites.length && lines.length = sites.length && lines.all fun number =>
    returnedCall.occursIn (s.line number) && (callArguments f.name (s.line number)).length = 1

def of? (s : Snippet) (f : Snippet.Function) : Option RecursiveFunction :=
  let sites := s.selfCalls f
  if sites.isEmpty then none
  else some ⟨f, sites, if returnsExclusively s f sites then 1 else sites.length⟩

def mostCalls : List RecursiveFunction → Option RecursiveFunction
  | [] => none
  | first :: others =>
    some (others.foldl (fun best r =>
      if best.sites.length < r.sites.length then r else best) first)

def find? (s : Snippet) : Option RecursiveFunction :=
  mostCalls (s.functions.filterMap (of? s))

def dividing : Pattern :=
  anyOf [
    wordWith "mid", whole "middle", "//" ++ ws ++ one decimal, "/" ++ ws ++ one decimal,
    ">>" ++ ws ++ one decimal, wordWith "half",
    edge ++ "pivot" ++ wordRest ++ ws ++ one "+-" ++ ws ++ "1",
    edge ++ anyOf ["p", "pi", "q"] ++ ws ++ one "+-" ++ ws ++ "1" ++ edge]

def stepping : Pattern :=
  one "+-" ++ ws ++ digits

def lines (r : RecursiveFunction) : List Nat :=
  List.range' r.function.line (r.function.last + 1 - r.function.line)

def midpoints (s : Snippet) (r : RecursiveFunction) : List Text :=
  (r.lines.map s.line).filterMap Motion.midpointName?

def identifierRuns : Text → List Text
  | [] => [[]]
  | c :: rest =>
    match identifierRuns rest with
    | [] => [[c]]
    | first :: others =>
      if Text.isIdentifier c then (c :: first) :: others else [] :: first :: others

def arguments (s : Snippet) (r : RecursiveFunction) : RecursionArguments :=
  let mids := midpoints s r
  let divides (a : Text) : Bool :=
    dividing.occursIn a || (identifierRuns a).any mids.contains
  if r.sites.any fun site => divides site.arguments then .divide
  else if r.sites.any fun site => stepping.occursIn site.arguments then .step
  else .linear

end RecursiveFunction

structure RecursionShape where
  branching : Nat := 0
  arguments : RecursionArguments := .linear
  dpDimensions : Nat := 0
  deriving DecidableEq, Repr

/-! ## Algorithm families
Sorting, searching, recursion with its tables, backtracking, traversals, divide and conquer, sieves
and Euclid's algorithm, each known by names, calls and the shape of its loops. -/

namespace AlgorithmFeatures

def runsInline (l : NestedLoop) : Bool :=
  l.kind = .comprehension || l.kind = .iteration

def runs (l : NestedLoop) (number : Nat) : Bool :=
  l.holdsLine number || (l.line = number && l.last = number && runsInline l)

def isLooped (f : LoopForest) (number : Nat) : Bool :=
  f.any fun l => runs l number

def isLoopedWithin (f : LoopForest) (g : Snippet.Function) (number : Nat) : Bool :=
  f.any fun l => g.line ≤ l.line && l.line ≤ g.last && runs l number

def isConditional (l : NestedLoop) : Bool :=
  l.kind = .whileLoop || (l.kind = .forLoop && l.counter?.isNone)

def isCalledInLoop (s : Snippet) (f : LoopForest) (g : Snippet.Function) : Bool :=
  s.lines.zipIdx.any fun (line, number) =>
    !(g.line ≤ number && number ≤ g.last) && !(callArguments g.name line.text).isEmpty &&
      isLooped f number

/-! ### Sorting -/

def librarySort : Pattern :=
  anyOf [
    edge ++ call "sorted", call ".sort",
    edge ++ "sort." ++
      call (anyOf ["Ints", "Slice", "SliceStable", "Strings", "Sort", "Float64s"]),
    whole "Arrays.sort", whole "Collections.sort", whole "std::sort",
    ".sort_by" ++ wordRest ++ ws ++ "(", ".sort_unstable" ++ wordRest ++ ws ++ "(", call ".sorted",
    ".sortBy" ++ wordRest ++ ws ++ "(", ".OrderBy" ++ wordRest ++ ws ++ "(", whole "Array.Sort",
    edge ++ call "qsort"]

def plainSort : Pattern :=
  notMember ++ call "sort"

/-- The lines that sort. A bare call of `sort` is one unless the snippet defines that name. -/
def sortLines (s : Snippet) : List Nat :=
  s.linesWith librarySort ++
    if s.functions.any fun g => g.key = "sort".toList then [] else s.linesWith plainSort

/-! ### Binary search -/

def endToMiddle : Pattern :=
  edge ++ anyOf ["lo", "hi", "low", "high", "left", "right", "l", "r", "start", "end", "begin"] ++
    spaced "=" ++ anyOf ["mid", "middle", "m", "pivot"] ++ edge

def openRange : Pattern :=
  edge ++ one nameStart ++ wordRest ++ ws ++ opt ("+" ++ spaced "1") ++ "<" ++ opt "=" ++ ws ++
    one nameStart ++ wordRest ++ edge

def librarySearch : Pattern :=
  anyOf [
    edge ++ "bisect" ++ opt (anyOf ["_left", "_right"]) ++ ws ++ "(",
    edge ++ "bisect." ++ word ++ ws ++ "(", edge ++ call "binarySearch",
    edge ++ call "lower_bound", edge ++ call "upper_bound",
    ".binary_search" ++ opt ("_by" ++ wordRest) ++ ws ++ "(",
    edge ++ "sort.Search" ++ wordRest ++ ws ++ "(", call ".partition_point"]

def isSearchLoop (s : Snippet) (l : NestedLoop) : Bool :=
  isConditional l && openRange.occursIn l.condition &&
    (l.body.map s.line).any fun t => Motion.isMidpoint t || endToMiddle.occursIn t

/-- Whether the snippet searches by halving, and whether it does so in a loop. A loop of its own
decides before a call of a library, and that before a recursive function. -/
def binarySearching (s : Snippet) (f : LoopForest) (recursive : Option RecursiveFunction) :
    Bool × Bool :=
  match f.find? (isSearchLoop s) with
  | some l =>
    let inner := s.functions.filter fun g => g.line ≤ l.line && l.last ≤ g.last
    (true, l.parent?.isSome || inner.any (isCalledInLoop s f))
  | none =>
    let library := s.linesWith librarySearch
    if !library.isEmpty then (true, library.any (isLooped f))
    else
      match recursive with
      | none => (false, false)
      | some r =>
        if r.branching = 1 && (r.lines.map s.line).any Motion.isMidpoint then
          (true, isCalledInLoop s f r.function)
        else (false, false)

/-! ### Tables -/

def memoUse : Pattern :=
  caseless (anyOf [
    "@" ++ opt "functools." ++ opt "lru_" ++ "cache" ++ edge, wordWith "memo", whole "cache",
    whole "cached", wordWith "memoize"])

def dpUse : Pattern :=
  caseless (wordWith "dp")

def cacheDecorator : Pattern :=
  "@" ++ opt "functools." ++ opt "lru_" ++ "cache" ++ edge

def pairTable : Pattern :=
  anyOf [
    edge ++ "dp" ++ wordRest ++ ws ++ "[" ++ any (except "]\n") ++ "]" ++ ws ++ "[",
    edge ++ "memo" ++ wordRest ++ spaced "[" ++ opt "(" ++ ws ++ word ++ spaced "," ++ word,
    "(" ++ ws ++ word ++ spaced "," ++ word ++ ws ++ ")" ++ ws1 ++ opt ("not" ++ ws1) ++ "in" ++
      ws1 ++ "memo" ++ wordRest,
    "[" ++ ws ++ "[" ++ any (except "]\n") ++ "]" ++ spaced "*" ++ some1 (except "]\n") ++ ws1 ++
      "for" ++ ws1,
    "new" ++ ws1 ++ word ++ ws ++ "[" ++ some1 (except "]\n") ++ "]" ++ ws ++ "[" ++
      some1 (except "]\n") ++ "]",
    edge ++ "vector<" ++ ws ++ "vector<", edge ++ "vec![" ++ ws ++ "vec![",
    "make(" ++ ws ++ "[][]"]

def takesPair (s : Snippet) (g : Snippet.Function) : Bool :=
  match callArguments g.name (s.line g.line) with
  | [] => false
  | parameters :: _ =>
    let named := ((Text.pieces ',' parameters).map Text.trim).filter fun p =>
      !p.isEmpty && p ≠ "self".toList
    2 ≤ named.length

def isTwoDimensional (s : Snippet) : Bool :=
  s.shows pairTable || (s.linesWith cacheDecorator).any fun number =>
    (s.functions.find? fun g => number < g.line).any (takesPair s)

/-! ### Backtracking -/

def permutationsCall : Pattern :=
  edge ++ call "permutations"

def choice : Pattern :=
  "." ++ call (anyOf ["append", "push", "push_back", "add", "addLast"])

def undoing : Pattern :=
  "." ++ call (anyOf ["pop", "pop_back", "removeLast", "remove", "pollLast"])

def permutation : Pattern :=
  caseless "permut"

def pathName : Pattern :=
  anyOf ["path", "cur" ++ opt "r", "current", "perm"]

def pathTest : Pattern :=
  anyOf [
    edge ++ "in" ++ ws1 ++ pathName ++ edge,
    edge ++ pathName ++ "." ++ call (anyOf ["contains", "includes"])]

def resultCopy : Pattern :=
  anyOf [
    ".append(" ++ ws ++ word ++ spaced "[" ++ ":" ++ spaced "]" ++ ")",
    ".append(" ++ spaced "list(" ++ word ++ spaced ")" ++ ")",
    edge ++ "list(" ++ spaced "path" ++ ")",
    "new" ++ ws1 ++ "ArrayList<" ++ any (except ">") ++ ">(" ++ ws ++ word ++ ws ++ ")",
    "[" ++ spaced "..." ++ word ++ ws ++ "]", ".clone()", ".to_vec()",
    "append(" ++ ws ++ "[]" ++ word ++ "\x7b\x7d" ++ spaced "," ++ word ++ spaced "..." ++ ")",
    edge ++ "list(" ++ ws ++ opt "itertools." ++ "permutations(", ".copy()" ++ ws ++ ")",
    ".append(" ++ ws ++ anyOf ["\"\"", "''"] ++ ".join("]

def swapCall : Pattern :=
  anyOf [edge ++ call "swap", call ".swap", whole "std::swap", whole "Collections.swap"]

def pairMove : Pattern :=
  group 1 word ++ "[" ++ group 2 (some1 (except "]\n")) ++ "]" ++ spaced "," ++
    group 3 word ++ "[" ++ group 4 (some1 (except "]\n")) ++ "]" ++ ws ++ opt "]" ++ spaced "=" ++
    opt "[" ++ ws ++
    group 5 word ++ "[" ++ group 6 (some1 (except "]\n")) ++ "]" ++ spaced "," ++
    group 7 word ++ "[" ++ group 8 (some1 (except "]\n")) ++ "]"

def isSwap (m : Match) : Bool :=
  let g (number : Nat) : Text := Text.trim (m.group number)
  g 1 = g 3 && g 1 = g 5 && g 1 = g 7 && g 2 = g 8 && g 4 = g 6 && g 2 ≠ g 4

def swaps (s : Snippet) : Bool :=
  s.shows swapCall || (pairMove.findAll s.clean).any isSwap

def namesBacktracking (s : Snippet) : Bool :=
  s.defines ["backtrack", "permut", "subset", "combination", "nqueen", "solvequeens"] ||
    s.mentions ["backtrack"] || s.shows permutationsCall

/-! ### Traversals -/

def queueName : Pattern :=
  caseless (whole (anyOf ["q", "dq", "queue" ++ wordRest, word ++ "queue", "deque", "frontier",
    "bfs" ++ wordRest]))

def dequeuing : Pattern :=
  anyOf [
    "." ++ call (anyOf ["popleft", "poll", "shift", "pop_front", "dequeue", "removeFirst",
      "pollFirst"]),
    ".pop(" ++ spaced "0" ++ ")", ".remove(" ++ spaced "0" ++ ")",
    "=" ++ ws ++ word ++ "[" ++ spaced "1" ++ ":" ++ ws ++ "]"]

def stackName : Pattern :=
  caseless (whole (anyOf ["stack" ++ wordRest, word ++ "stack", "stk", "st"]))

def popping : Pattern :=
  "." ++ anyOf ["pop", "pop_back", "removeLast", "pollLast"] ++ spaced "(" ++ ")"

def drainsQueue (s : Snippet) (f : LoopForest) : Bool :=
  f.any fun l => isConditional l && queueName.occursIn l.condition &&
    (Loop.wholeLines s l.toLoop).any dequeuing.occursIn

def drainsStack (s : Snippet) (f : LoopForest) : Bool :=
  f.any fun l => l.parent?.isNone && (l.kind = .whileLoop || l.kind = .forLoop) &&
    stackName.occursIn l.condition && (Loop.wholeLines s l.toLoop).any popping.occursIn

/-! ### Number theory -/

def product : Pattern :=
  edge ++ group 1 word ++ spaced "*" ++ group 2 word ++ edge

def square : Pattern :=
  edge ++ group 1 word ++ spaced "**" ++ "2" ++ edge

def sieveName : Pattern :=
  caseless "sieve"

def squares (name t : Text) : Bool :=
  ((product.findAll t).any fun m => m.group 1 = name && m.group 2 = name) ||
    (square.findAll t).any fun m => m.group 1 = name

/-- An inner loop starts at the square of the outer variable, which is taken in its header or on the
line before. -/
def startsAtSquare (s : Snippet) (f : LoopForest) (l : NestedLoop) : Bool :=
  match (l.parent?.bind (f[·]?)).bind (·.counter?) with
  | none => false
  | some name =>
    let previous := if l.line = 0 then [] else s.line (l.line - 1)
    squares name (s.line l.line) || squares name previous

def isSieve (s : Snippet) (f : LoopForest) : Bool :=
  f.any (startsAtSquare s f) || (s.shows sieveName && 2 ≤ LoopForest.maxDepth f)

def isEuclid (s : Snippet) (recursive : Option RecursiveFunction) : Bool :=
  (recursive.any fun r => r.branching = 1 && r.sites.any fun site => site.arguments.elem '%') ||
    (s.defines ["gcd", "hcf"] && s.clean.elem '%')

def heapBuilding : Pattern :=
  anyOf [
    edge ++ call "heapify", edge ++ call "make_heap", whole "BinaryHeap::from",
    edge ++ call "heap.Init"]

def detect (s : Snippet) (f : LoopForest) (structures : StructureFeatures) :
    AlgorithmFeatures × RecursionShape :=
  let recursive := RecursiveFunction.find? s
  let branching := (recursive.map (·.branching)).getD 0
  let recursion := 0 < branching
  let arguments := (recursive.map (RecursiveFunction.arguments s)).getD .linear
  let recursionInLoop := recursive.any fun r =>
    r.sites.any fun site => isLoopedWithin f r.function site.line
  let sorting := sortLines s
  let search := binarySearching s f recursive
  let memoization := s.shows memoUse
  let dp := s.shows dpUse
  let swapping := swaps s
  let backtracking :=
    namesBacktracking s ||
      (recursion && swapping && branching ≤ 2 && recursionInLoop) ||
      (recursionInLoop && s.shows choice && s.shows undoing)
  let divideConquer :=
    recursion && 2 ≤ branching && (arguments = .divide || s.mentions ["partition", "pivot"]) &&
      !backtracking
  let branched := structures.graph || structures.tree
  let features : AlgorithmFeatures :=
    { recursion, recursionInLoop, memoization, dp, backtracking, divideConquer
      sorting := !sorting.isEmpty
      sortInLoop := sorting.any (isLooped f)
      binarySearch := search.1
      binarySearchInLoop := search.2
      bfs := s.mentions ["bfs"] || drainsQueue s f
      dfs := s.mentions ["dfs"] || (branched && drainsStack s f) ||
        (recursion && (branched || s.mentions ["grid", "board"]) && !divideConquer &&
          !backtracking)
      monotonicStack := f.any fun l => l.amortization? = some .stackDrain
      sieve := isSieve s f
      gcd := isEuclid s recursive
      isPermutation := s.shows permutation ||
        (backtracking && (swapping || s.mentions ["used"] || s.shows pathTest))
      accumulatesResults := s.shows resultCopy
      heapify := s.shows heapBuilding }
  let dpDimensions := if dp || memoization then if isTwoDimensional s then 2 else 1 else 0
  (features, { branching, arguments, dpDimensions })

end AlgorithmFeatures

/-! ## Extracting features
All features of a snippet. An amortized pattern names the dominant pattern before anything else. -/

namespace FeatureSet

def ofForest (s : Snippet) (f : LoopForest) : FeatureSet :=
  let literals := LiteralContainers.detect s
  let structures := StructureFeatures.detect s literals
  let (algorithms, recursion) := AlgorithmFeatures.detect s f structures
  let amortized := AmortizedVerdict.detect? s f
  let features : FeatureSet :=
    { loops := LoopForest.summary f
      pointers := PointerFeatures.detect s f
      structures, algorithms
      space := SpaceUsage.detect s f structures literals
      metrics :=
        { recursionBranching := recursion.branching
          dpDimensions := recursion.dpDimensions
          recursionArguments := recursion.arguments
          isAmortized := amortized.isSome || f.any (·.amortization?.isSome) } }
  let dominant := (amortized.map (·.pattern)) <|> features.leadingPattern?
  { features with metrics := { features.metrics with dominantPattern? := dominant } }

def ofSnippet (s : Snippet) : FeatureSet :=
  ofForest s (LoopForest.ofSnippet s)

end FeatureSet

end Asymptote
