import Asymptote.GroundTruth.Table
import Asymptote.Json

/-! # Ground truth data
The built-in records, and tables of further ones read from documents. -/
namespace Asymptote.GroundTruth

/-! ## Built-in ground truth
The records of well-known problems that are always there. -/

def builtinDrafts : List EntryDraft := [
  { id := "two-sum"
    titles := ["Two Sum"]
    fingerprint := ["twosum", "complement", "target", "seen", "#hashmap"]
    bruteForce := some ⟨"O(n²)", "O(1)", "check every pair", none⟩
    optimal := some ⟨"O(n)", "O(n)", "one-pass hash map", some "each complement lookup is O(1)"⟩
    hasLadder := false
    note :=
      "sorting plus two pointers loses the original indices, so there is no intermediate step" },
  { id := "three-sum"
    titles := ["3Sum", "Three Sum"]
    fingerprint := ["threesum", "triplets", "triplet", "#sort", "#nested"]
    bruteForce := some ⟨"O(n³)", "O(1)", "check every triple", none⟩
    better := some ⟨"O(n²)", "O(n)", "fix one element, hash set for the pair", none⟩
    optimal := some ⟨"O(n²)", "O(1)", "sort, fix one element, two pointers", none⟩ },
  { id := "valid-parentheses"
    titles := ["Valid Parentheses"]
    fingerprint := ["isvalid", "brackets", "pairs", "matching", "#stack"]
    bruteForce := some ⟨"O(n²)", "O(n)", "repeatedly delete adjacent matching pairs", none⟩
    optimal := some ⟨"O(n)", "O(n)", "stack of open brackets", none⟩
    hasLadder := false },
  { id := "best-time-to-buy-and-sell-stock"
    titles := ["Best Time to Buy and Sell Stock"]
    fingerprint := ["maxprofit", "prices", "minprice", "profit", "buy"]
    bruteForce := some ⟨"O(n²)", "O(1)", "try every buy and sell day", none⟩
    optimal := some ⟨"O(n)", "O(1)", "track the minimum price so far", none⟩
    hasLadder := false },
  { id := "maximum-subarray"
    titles := ["Maximum Subarray"]
    fingerprint := ["maxsubarray", "currentsum", "cursum", "maxsum", "kadane"]
    bruteForce := some ⟨"O(n²)", "O(1)", "sum every subarray", none⟩
    better := some ⟨"O(n log n)", "O(log n)", "divide and conquer over the midpoint", none⟩
    optimal := some ⟨"O(n)", "O(1)", "Kadane's algorithm", none⟩ },
  { id := "contains-duplicate"
    titles := ["Contains Duplicate"]
    fingerprint := ["containsduplicate", "duplicate", "dup", "seen", "#hashset"]
    bruteForce := some ⟨"O(n²)", "O(1)", "compare every pair", none⟩
    better := some ⟨"O(n log n)", "O(1)", "sort and compare neighbours", none⟩
    optimal := some ⟨"O(n)", "O(n)", "hash set of seen values", none⟩ },
  { id := "longest-substring-without-repeating-characters"
    titles := ["Longest Substring Without Repeating Characters"]
    fingerprint := ["lengthoflongestsubstring", "lastseen", "charindex", "window", "maxlen"]
    bruteForce := some ⟨"O(n³)", "O(k)", "check every substring for uniqueness", none⟩
    better := some ⟨"O(n²)", "O(k)", "extend from every start with a set", none⟩
    optimal := some ⟨"O(n)", "O(k)", "sliding window with last-seen index", none⟩
    note := "space is bounded by the alphabet size" },
  { id := "climbing-stairs"
    titles := ["Climbing Stairs"]
    fingerprint := ["climbstairs", "stairs", "steps", "ways", "climb"]
    bruteForce := some ⟨"O(2^n)", "O(n)", "plain recursion", none⟩
    better := some ⟨"O(n)", "O(n)", "memoized recursion", none⟩
    optimal := some ⟨"O(n)", "O(1)", "two rolling variables", none⟩ },
  { id := "fibonacci-number"
    titles := ["Fibonacci Number", "Fibonacci"]
    fingerprint := ["fib", "fibonacci", "fibs", "prev", "curr"]
    bruteForce := some ⟨"O(2^n)", "O(n)", "plain recursion", none⟩
    better := some ⟨"O(n)", "O(n)", "memoized recursion", none⟩
    optimal := some ⟨"O(n)", "O(1)", "two rolling variables", none⟩ },
  { id := "binary-search"
    titles := ["Binary Search"]
    fingerprint := ["binarysearch", "bsearch", "search", "mid", "target"]
    bruteForce := some ⟨"O(n)", "O(1)", "linear scan", none⟩
    optimal := some ⟨"O(log n)", "O(1)", "halve the search range", none⟩
    hasLadder := false },
  { id := "merge-intervals"
    titles := ["Merge Intervals"]
    fingerprint := ["merge", "intervals", "interval", "merged", "#sort"]
    bruteForce := some ⟨"O(n²)", "O(n)", "merge overlapping pairs until stable", none⟩
    optimal := some ⟨"O(n log n)", "O(n)", "sort by start and sweep", none⟩
    hasLadder := false },
  { id := "product-of-array-except-self"
    titles := ["Product of Array Except Self"]
    fingerprint := ["productexceptself", "prefix", "suffix", "product", "answer"]
    bruteForce := some ⟨"O(n²)", "O(1)", "multiply everything else for each index", none⟩
    better := some ⟨"O(n)", "O(n)", "prefix and suffix product arrays", none⟩
    optimal := some ⟨"O(n)", "O(1)", "prefix pass into the output, suffix running product", none⟩
    note := "the output array is not counted as extra space" },
  { id := "container-with-most-water"
    titles := ["Container With Most Water"]
    fingerprint := ["maxarea", "height", "area", "width", "water"]
    bruteForce := some ⟨"O(n²)", "O(1)", "try every pair of lines", none⟩
    optimal := some ⟨"O(n)", "O(1)", "two pointers moving the shorter line", none⟩
    hasLadder := false },
  { id := "trapping-rain-water"
    titles := ["Trapping Rain Water"]
    fingerprint := ["trap", "leftmax", "rightmax", "water", "height"]
    bruteForce := some ⟨"O(n²)", "O(1)", "scan both sides for each bar", none⟩
    better := some ⟨"O(n)", "O(n)", "prefix and suffix maximum arrays", none⟩
    optimal := some ⟨"O(n)", "O(1)", "two pointers with running maxima", none⟩ },
  { id := "permutations"
    titles := ["Permutations"]
    fingerprint := ["permute", "permutations", "perm", "used", "#recursion"]
    optimal := some ⟨"O(n·n!)", "O(n)", "backtracking over unused elements",
        some "n! permutations, each copied in O(n)"⟩
    hasLadder := false
    note := "output size dominates; every algorithm must emit all permutations" },
  { id := "subsets"
    titles := ["Subsets"]
    fingerprint := ["subsets", "powerset", "subset", "path", "#recursion"]
    optimal := some ⟨"O(n·2^n)", "O(n)", "backtracking include or skip",
        some "2^n subsets, each copied in O(n)"⟩
    hasLadder := false },
  { id := "n-queens"
    titles := ["N-Queens", "N Queens"]
    fingerprint := ["solvenqueens", "queens", "cols", "diag", "board"]
    optimal := some ⟨"O(n!)", "O(n)", "row-by-row backtracking with column and diagonal sets", none⟩
    hasLadder := false },
  { id := "coin-change"
    titles := ["Coin Change"]
    fingerprint := ["coinchange", "coins", "coin", "amount", "dp"]
    bruteForce := some ⟨"O(k^n)", "O(n)", "try every coin recursively", none⟩
    optimal := some ⟨"O(n²)", "O(n)", "bottom-up DP over amounts and coins", none⟩
    hasLadder := false },
  { id := "longest-increasing-subsequence"
    titles := ["Longest Increasing Subsequence"]
    fingerprint := ["lengthoflis", "lis", "tails", "subsequence", "increasing"]
    bruteForce := some ⟨"O(2^n)", "O(n)", "enumerate every subsequence", none⟩
    better := some ⟨"O(n²)", "O(n)", "DP over previous elements", none⟩
    optimal := some ⟨"O(n log n)", "O(n)", "patience sorting with binary search", none⟩ },
  { id := "number-of-islands"
    titles := ["Number of Islands"]
    fingerprint := ["numislands", "islands", "island", "grid", "land"]
    optimal := some ⟨"O(V+E)", "O(V+E)", "flood fill every unvisited land cell", none⟩
    hasLadder := false },
  { id := "course-schedule"
    titles := ["Course Schedule"]
    fingerprint := ["canfinish", "prerequisites", "numcourses", "indegree", "#queue"]
    optimal := some ⟨"O(V+E)", "O(V+E)", "Kahn's topological sort", none⟩
    hasLadder := false },
  { id := "kth-largest-element-in-an-array"
    titles := ["Kth Largest Element in an Array"]
    fingerprint := ["findkthlargest", "kth", "largest", "pivot", "#heap"]
    bruteForce := some ⟨"O(n log n)", "O(1)", "sort and index", none⟩
    optimal := some ⟨"O(n)", "O(1)", "quickselect", some "average case"⟩
    hasLadder := false },
  { id := "top-k-frequent-elements"
    titles := ["Top K Frequent Elements"]
    fingerprint := ["topkfrequent", "freq", "frequent", "buckets", "frequency"]
    bruteForce := some ⟨"O(n log n)", "O(n)", "count then sort by frequency", none⟩
    optimal := some ⟨"O(n)", "O(n)", "bucket sort by frequency", none⟩
    hasLadder := false },
  { id := "daily-temperatures"
    titles := ["Daily Temperatures"]
    fingerprint := ["dailytemperatures", "temperatures", "warmer", "answer", "#stack"]
    bruteForce := some ⟨"O(n²)", "O(1)", "scan forward for each day", none⟩
    optimal := some ⟨"O(n)", "O(n)", "monotonic stack of pending days", none⟩
    hasLadder := false },
  { id := "sliding-window-maximum"
    titles := ["Sliding Window Maximum"]
    fingerprint := ["maxslidingwindow", "window", "deque", "popleft", "#queue"]
    bruteForce := some ⟨"O(n²)", "O(1)", "scan every window", none⟩
    better := some ⟨"O(n log n)", "O(n)", "max-heap with lazy deletion", none⟩
    optimal := some ⟨"O(n)", "O(k)", "monotonic deque of window indices", none⟩ },
  { id := "reverse-linked-list"
    titles := ["Reverse Linked List"]
    fingerprint := ["reverselist", "reverse", "nxt", "nexttemp", "prev"]
    bruteForce := some ⟨"O(n)", "O(n)", "copy values to a stack", none⟩
    optimal := some ⟨"O(n)", "O(1)", "iterative pointer reversal", none⟩
    hasLadder := false },
  { id := "linked-list-cycle"
    titles := ["Linked List Cycle"]
    fingerprint := ["hascycle", "slow", "fast", "head", "cycle"]
    bruteForce := some ⟨"O(n)", "O(n)", "hash set of visited nodes", none⟩
    optimal := some ⟨"O(n)", "O(1)", "Floyd's tortoise and hare", none⟩
    hasLadder := false },
  { id := "group-anagrams"
    titles := ["Group Anagrams"]
    fingerprint := ["groupanagrams", "anagrams", "strs", "groups", "key"]
    bruteForce := some ⟨"O(n²)", "O(n)", "compare every pair of words", none⟩
    better := some ⟨"O(n log n)", "O(n)", "group by sorted word", none⟩
    optimal := some ⟨"O(n)", "O(n)", "group by letter-count signature", none⟩ },
  { id := "longest-palindromic-substring"
    titles := ["Longest Palindromic Substring"]
    fingerprint := ["longestpalindrome", "palindrome", "expand", "center", "maxlen"]
    bruteForce := some ⟨"O(n³)", "O(1)", "check every substring", none⟩
    better := some ⟨"O(n²)", "O(1)", "expand around every center", none⟩
    optimal := some ⟨"O(n)", "O(n)", "Manacher's algorithm", none⟩ },
  { id := "edit-distance"
    titles := ["Edit Distance"]
    fingerprint := ["mindistance", "word1", "word2", "insert", "delete"]
    bruteForce := some ⟨"O(3^n)", "O(n)", "recursive insert, delete or replace", none⟩
    better := some ⟨"O(n²)", "O(n²)", "full DP table", none⟩
    optimal := some ⟨"O(n²)", "O(n)", "DP keeping two rows", none⟩ },
  { id := "maximum-depth-of-binary-tree"
    titles := ["Maximum Depth of Binary Tree"]
    fingerprint := ["maxdepth", "leftdepth", "rightdepth", "#recursion"]
    optimal := some ⟨"O(n)", "O(n)", "depth-first recursion",
        some "stack grows to the tree height, O(n) when skewed"⟩
    hasLadder := false },
  { id := "house-robber"
    titles := ["House Robber"]
    fingerprint := ["rob", "houses", "robbed", "prev1", "prev2"]
    bruteForce := some ⟨"O(2^n)", "O(n)", "plain recursion over rob or skip", none⟩
    better := some ⟨"O(n)", "O(n)", "DP array", none⟩
    optimal := some ⟨"O(n)", "O(1)", "two rolling variables", none⟩ },
  { id := "jump-game"
    titles := ["Jump Game"]
    fingerprint := ["canjump", "maxreach", "reach", "jump", "farthest"]
    bruteForce := some ⟨"O(2^n)", "O(n)", "try every jump recursively", none⟩
    better := some ⟨"O(n²)", "O(n)", "DP over reachable indices", none⟩
    optimal := some ⟨"O(n)", "O(1)", "greedy farthest reach", none⟩ },
  { id := "majority-element"
    titles := ["Majority Element"]
    fingerprint := ["majorityelement", "majority", "candidate", "votes", "count"]
    bruteForce := some ⟨"O(n²)", "O(1)", "count each element", none⟩
    better := some ⟨"O(n log n)", "O(1)", "sort and take the middle", none⟩
    optimal := some ⟨"O(n)", "O(1)", "Boyer-Moore majority vote", none⟩ }]

/-- The table of the built-in records. Were one of them refused, the table would be empty, and
analysis would go on without it. -/
def builtin : Table :=
  (Table.ofDrafts builtinDrafts).toOption.getD {}

/-! ## Ground truth documents
Tables read from JSON: an object with the list of entries. -/

inductive DatasetFault where
  | unreadable (fault : Json.Fault)
  | refused (fault : EntryFault)

namespace DatasetFault

def message : DatasetFault → String
  | unreadable _ => "failed to parse ground truth dataset"
  | refused fault => fault.message

end DatasetFault

open Json (Field Reader)

namespace ApproachDraft

def reader : Reader ApproachDraft :=
  Reader.record {} [
    .required "time" .string fun a time => { a with time },
    .required "space" .string fun a space => { a with space },
    .required "algorithm" .string fun a algorithm => { a with algorithm },
    .defaulted "reason" (.optional .string) fun a reason? => { a with reason? }]

end ApproachDraft

namespace EntryDraft

def reader : Reader EntryDraft :=
  Reader.record {} [
    .required "id" .string fun d id => { d with id },
    .required "titles" (.list .string) fun d titles => { d with titles },
    .defaulted "fingerprint" (.list .string) fun d fingerprint => { d with fingerprint },
    .defaulted "brute_force" (.optional ApproachDraft.reader) fun d bruteForce =>
      { d with bruteForce },
    .defaulted "better" (.optional ApproachDraft.reader) fun d better => { d with better },
    .defaulted "optimal" (.optional ApproachDraft.reader) fun d optimal => { d with optimal },
    .defaulted "has_optimization_ladder" .bool fun d hasLadder => { d with hasLadder },
    .defaulted "note" .string fun d note => { d with note }]

def documentReader : Reader (List EntryDraft) :=
  Reader.record [] [.required "entries" (.list reader) fun _ drafts => drafts]

end EntryDraft

namespace Table

def read (document : Text) : Except DatasetFault Table :=
  match EntryDraft.documentReader.document document with
  | .error fault => .error (.unreadable fault)
  | .ok drafts => (ofDrafts drafts).mapError .refused

def extended (t : Table) (document : Text) : Except DatasetFault Table := do
  let extra ← read document
  (t.merged extra).mapError .refused

end Table
end Asymptote.GroundTruth
