import Asymptote.Hazard.Recognizers

/-! # The table of hazards
Well-known algorithms that structural rules misjudge, such as a merge sort that looks like
exponential recursion. The first entry that recognizes a snippet gives the verdict, and nothing else
is asked. -/
namespace Asymptote
open HazardView

namespace Hazard

def table : List Hazard :=
  [⟨"n_queens", .factorial, .linear, 0.92,
      "N-Queens places one queen per row, pruning columns and diagonals", isNQueens⟩,
    ⟨"generate_parentheses", .baseExponential, .linear, 0.9,
      "well-formed parentheses grow with the Catalan numbers", isGenerateParentheses⟩,
    ⟨"permutations", .linearFactorial, .linear, 0.93,
      "n! permutations, each copied in O(n)", isPermutations⟩,
    ⟨"subsets", .linearExponential, .linear, 0.93, "2^n subsets, each copied in O(n)", isSubsets⟩,
    ⟨"tower_of_hanoi", .exponential, .linear, 0.95,
      "Tower of Hanoi makes 2^n - 1 moves", isTowerOfHanoi⟩,
    ⟨"fibonacci_memo", .linear, .linear, 0.95,
      "memoized Fibonacci computes each value once", isFibonacciMemo⟩,
    ⟨"fibonacci_naive", .exponential, .linear, 0.95,
      "naive Fibonacci recursion branches twice per call", isFibonacciNaive⟩,
    ⟨"fibonacci_iterative", .linear, .constant, 0.93,
      "iterative Fibonacci keeps two running values", isFibonacciIterative⟩,
    ⟨"factorial_recursive", .linear, .linear, 0.93,
      "factorial recursion descends one step per call", isFactorialRecursive⟩,
    ⟨"fast_power_recursive", .log, .log, 0.92,
      "exponentiation by squaring halves the exponent per call", isFastPowerRecursive⟩,
    ⟨"fast_power_iterative", .log, .constant, 0.92,
      "exponentiation by squaring halves the exponent per step", isFastPowerIterative⟩,
    ⟨"gcd_recursive", .log, .log, 0.95,
      "Euclid's algorithm shrinks its arguments geometrically", isGcdRecursive⟩,
    ⟨"gcd_iterative", .log, .constant, 0.95,
      "Euclid's algorithm shrinks its arguments geometrically", isGcdIterative⟩,
    ⟨"sieve_of_eratosthenes", .linearLogLog, .linear, 0.95,
      "each composite is crossed off once per prime factor", isSieveOfEratosthenes⟩,
    ⟨"prime_trial_division", .sqrt, .constant, 0.9,
      "trial division stops at the square root", isPrimeTrialDivision⟩,
    ⟨"quickselect", .linear, .constant, 0.88,
      "quickselect recurses into one partition only (average case)", isQuickselect⟩,
    ⟨"merge_sort", .linearLog, .linear, 0.95,
      "merge sort halves the input and merges in linear time", isMergeSort⟩,
    ⟨"quick_sort", .linearLog, .log, 0.9,
      "quicksort partitions around a pivot (average case)", isQuickSort⟩,
    ⟨"heap_sort", .linearLog, .constant, 0.93,
      "heap sort sifts each element down a heap of height log n", isHeapSort⟩,
    ⟨"counting_sort", .linear, .linear, 0.9,
      "counting sort tallies keys in one pass", isCountingSort⟩,
    ⟨"radix_sort", .linear, .linear, 0.88,
      "radix sort makes a fixed number of digit passes", isRadixSort⟩,
    ⟨"bucket_sort", .linear, .linear, 0.85,
      "bucket sort distributes elements into buckets (average case)", isBucketSort⟩,
    ⟨"bubble_sort", .quadratic, .constant, 0.93,
      "bubble sort compares adjacent pairs over n passes", isBubbleSort⟩,
    ⟨"insertion_sort", .quadratic, .constant, 0.93,
      "insertion sort shifts each element past the sorted prefix", isInsertionSort⟩,
    ⟨"selection_sort", .quadratic, .constant, 0.93,
      "selection sort scans the unsorted suffix for each position", isSelectionSort⟩,
    ⟨"four_sum", .cubic, .constant, 0.9,
      "two fixed indices plus a two-pointer scan over sorted input", isFourSum⟩,
    ⟨"three_sum", .quadratic, .constant, 0.9,
      "one fixed index plus a two-pointer scan over sorted input", isThreeSum⟩,
    ⟨"two_sum_hash", .linear, .linear, 0.9,
      "single pass with constant-time complement lookups", isTwoSumHash⟩,
    ⟨"binary_search_recursive", .log, .log, 0.92,
      "recursive binary search halves the range per call", isBinarySearchRecursive⟩,
    ⟨"binary_search_iterative", .log, .constant, 0.92,
      "binary search halves the range per step", isBinarySearchIterative⟩,
    ⟨"kadane", .linear, .constant, 0.92,
      "Kadane's algorithm extends or restarts the running sum", isKadane⟩,
    ⟨"boyer_moore_vote", .linear, .constant, 0.9,
      "majority vote keeps one candidate and a counter", isBoyerMooreVote⟩,
    ⟨"dutch_national_flag", .linear, .constant, 0.9,
      "three-way partition in one pass", isDutchNationalFlag⟩,
    ⟨"floyd_cycle", .linear, .constant, 0.93,
      "tortoise and hare meet within one lap", isFloydCycle⟩,
    ⟨"reverse_linked_list", .linear, .constant, 0.92,
      "pointer reversal visits each node once", isReverseLinkedList⟩,
    ⟨"dijkstra", .linearLog, .graph, 0.9,
      "Dijkstra pops each vertex from a binary heap", isDijkstra⟩,
    ⟨"heap_top_k", .linearLog, .bounded, 0.88, "heap bounded to k elements", isHeapTopK⟩,
    ⟨"bellman_ford", .quadratic, .linear, 0.88,
      "Bellman-Ford relaxes every edge V - 1 times", isBellmanFord⟩,
    ⟨"floyd_warshall", .cubic, .quadratic, 0.93,
      "Floyd-Warshall relaxes every pair through every intermediate vertex", isFloydWarshall⟩,
    ⟨"topological_sort", .graph, .graph, 0.9,
      "Kahn's algorithm removes each vertex and edge once", isTopologicalSort⟩,
    ⟨"union_find", .linear, .linear, 0.88,
      "union-find with path compression is near constant per operation", isUnionFind⟩,
    ⟨"kmp", .linear, .linear, 0.93,
      "KMP never re-reads matched text thanks to the prefix table", isKmp⟩,
    ⟨"rabin_karp", .linear, .constant, 0.85,
      "rolling hash updates in constant time per shift (expected)", isRabinKarp⟩,
    ⟨"z_function", .linear, .linear, 0.9,
      "Z-function reuses the rightmost match window", isZFunction⟩,
    ⟨"manacher", .linear, .linear, 0.92,
      "Manacher's algorithm mirrors palindrome radii", isManacher⟩,
    ⟨"matrix_multiplication", .cubic, .quadratic, 0.93,
      "schoolbook matrix multiplication over three indices", isMatrixMultiplication⟩,
    ⟨"prefix_sum", .linear, .linear, 0.88, "prefix sums built in one pass", isPrefixSum⟩,
    ⟨"tree_traversal", .linear, .linear, 0.9,
      "depth-first traversal visits each node once; stack grows to the height", isTreeTraversal⟩,
    ⟨"level_order", .linear, .linear, 0.9,
      "level-order traversal enqueues each node once", isLevelOrder⟩,
    ⟨"kernighan_bit_count", .log, .constant, 0.9,
      "each step clears the lowest set bit", isKernighanBitCount⟩,
    ⟨"counter_comparison", .linear, .bounded, 0.88,
      "character counts over a bounded alphabet", isCounterComparison⟩,
    ⟨"valid_parentheses", .linear, .linear, 0.9,
      "each bracket is pushed and popped at most once", isValidParentheses⟩,
    ⟨"trie", .linear, .linear, 0.85, "trie operations walk one node per character", isTrie⟩,
    ⟨"lru_cache", .constant, .bounded, 0.88,
      "hash map plus linked order gives constant-time get and put", isLruCache⟩]

def isKnown (name : String) : Bool :=
  table.any fun h => h.name = name

def verdict (h : Hazard) : Analysis where
  time := h.time
  timeReason := h.reason
  space := h.space
  spaceReason := h.reason
  pattern? := some h.name
  confidence := h.confidence
  source := "hazard:" ++ h.name

def recognizing (s : Snippet) : List String :=
  let v := HazardView.ofSnippet s
  (table.filter fun h => h.recognizes v).map (·.name)

def find? (s : Snippet) (disabled : List String) : Option Hazard :=
  if s.isEmpty then none
  else
    let v := HazardView.ofSnippet s
    table.find? fun h => !disabled.contains h.name && h.recognizes v

end Hazard
end Asymptote
