import Asymptote.Feature.Basic

/-! # Data structures
Each structure is known by the names of its types and operations. In code without types an empty
literal counts as a map if it is indexed by a variable, and as an array if it grows. -/
namespace Asymptote

structure LiteralContainers where
  maps : Nat := 0
  arrays : Nat := 0
  deriving DecidableEq, Repr

namespace LiteralContainers
open Pattern CharClass

def emptyMap : Pattern :=
  edge ++ group 1 word ++ spaced "=" ++ "\x7b" ++ ws ++ "\x7d"

def emptyArray : Pattern :=
  edge ++ group 1 word ++ ws ++ opt (":" ++ any (except "=\n")) ++ opt ":" ++ "=" ++ ws ++
    anyOf ["[" ++ ws ++ "]", "Vec::new()", "vec![]",
      "new" ++ ws1 ++ "ArrayList<" ++ any (except ">") ++ ">()",
      "new" ++ ws1 ++ "LinkedList<" ++ any (except ">") ++ ">()",
      "[]" ++ word ++ "\x7b\x7d", "list()", "Array()", "new" ++ ws1 ++ "Array()"]

/-- At some place the name, not part of a longer one, is followed by a bracket and a letter or an
underscore. -/
def isIndexed (name clean : Text) : Bool :=
  go none 0 clean
where
  go : Option Char → Nat → Text → Bool
    | _, _, [] => false
    | _, n + 1, c :: rest => go (some c) n rest
    | previous, 0, c :: rest =>
      match Text.after? (name ++ ['[']) (c :: rest) with
      | none => go (some c) 0 rest
      | some index =>
        (!previous.any Text.isIdentifier &&
          (Text.trimStart index).head?.any fun d => Text.isAlphabetic d || d = '_') ||
          go (some c) name.length rest

def growth : List Text :=
  [".append(", ".push(", ".push_back(", ".add(", ".addLast(", ".unshift(", ".insert(", " += [",
    " << "].map String.toList

def grows (name clean : Text) : Bool :=
  (growth.any fun way => Text.contains clean (name ++ way)) ||
    Text.contains clean (name ++ " = append(".toList ++ name)

def detect (s : Snippet) : LiteralContainers where
  maps := ((emptyMap.findAll s.clean).filter fun m => isIndexed (m.group 1) s.clean).length
  arrays := ((emptyArray.findAll s.clean).filter fun m => grows (m.group 1) s.clean).length

end LiteralContainers

namespace StructureFeatures
open Pattern CharClass

def queueUse : Pattern :=
  caseless (anyOf [
    edge ++ wordRest ++ "queue" ++ wordRest ++ edge, whole "deque", whole "VecDeque",
    whole "ArrayDeque", ".popleft(", ".poll(", ".offer(", ".shift()", ".pop_front(",
    edge ++ "q" ++ spaced "=" ++ anyOf ["deque", "["]])

def unionFindName : Pattern :=
  anyOf [
    whole "UnionFind", wordWith "DisjointSet", whole "DSU",
    edge ++ one "Uu" ++ "nion" ++ opt "_" ++ one "Ff" ++ "ind" ++ edge]

def parentArray : Pattern :=
  edge ++ "parent" ++ opt "s" ++ ws ++ "["

def findCall : Pattern :=
  edge ++ call "find"

def unionPart : Pattern :=
  anyOf [edge ++ call "union", edge ++ "rank" ++ ws ++ "[", edge ++ "size" ++ ws ++ "["]

def hashMapUse : Pattern :=
  anyOf [
    whole (anyOf ["HashMap", "unordered_map", "LinkedHashMap", "TreeMap", "BTreeMap", "Dictionary",
      "defaultdict", "Counter", "OrderedDict", "dict", "Hashtable"]),
    edge ++ "new" ++ ws1 ++ "Map" ++ edge, edge ++ "Map<", edge ++ "map[" ++ word ++ "]" ++ word,
    edge ++ "map<", edge ++ "Map()"]

def hashSetUse : Pattern :=
  anyOf [
    whole (anyOf ["HashSet", "unordered_set", "LinkedHashSet", "TreeSet", "BTreeSet", "frozenset"]),
    notMember ++ call "set", edge ++ "new" ++ ws1 ++ "Set" ++ edge, edge ++ "Set<", edge ++ "set<",
    edge ++ "Set()", edge ++ "map[" ++ word ++ "]" ++ anyOf ["bool", "struct\x7b\x7d"]]

def arrayUse : Pattern :=
  anyOf [
    one inWord ++ spaced "[" ++ some1 (inWord ∪ "+-* ") ++ "]", edge ++ "vec![", whole "ArrayList",
    edge ++ "new" ++ ws1 ++ word ++ ws ++ "[", edge ++ "vector<", edge ++ "make(" ++ ws ++ "[]",
    "[" ++ ws ++ "]"]

def heapUse : Pattern :=
  caseless (anyOf [
    whole (anyOf ["heapq", "heappush", "heappop", "heapify", "priorityqueue", "priority_queue",
      "binaryheap", "minheap", "maxheap", "heap"]),
    "container/heap"])

def stackUse : Pattern :=
  caseless (anyOf [
    edge ++ wordRest ++ "stack" ++ wordRest ++ edge, whole "stk", edge ++ "st" ++ ws ++ one "=."])

def treeUse : Pattern :=
  anyOf [
    whole "TreeNode", ".left" ++ edge, ".right" ++ edge, whole "root", whole "BinaryTree",
    whole "BST"]

def graphUse : Pattern :=
  caseless (anyOf [
    whole "graph", wordWith "adj", edge ++ "neighbo" ++ opt "u" ++ "r" ++ opt "s" ++ edge,
    edge ++ "edge" ++ opt "s" ++ edge, edge ++ "in" ++ opt "_" ++ "degree" ++ opt "s" ++ edge,
    whole "vertices"])

def linkedListUse : Pattern :=
  anyOf [whole "ListNode", ".next" ++ edge, whole "LinkedList", whole "head"]

def trieUse : Pattern :=
  caseless (anyOf [
    wordWith "trie", ".children" ++ edge, edge ++ "children" ++ ws ++ "[",
    edge ++ "is" ++ opt "_" ++ "end" ++ edge])

def stringBuilderUse : Pattern :=
  anyOf [
    whole "StringBuilder", whole "StringBuffer", "strings.Builder", "String::with_capacity",
    call ".join", "io.StringIO", edge ++ call "push_str", "stringstream"]

def showsQueue (s : Snippet) : Bool :=
  (queueUse.findAll s.clean).any fun m =>
    let name := Text.lowercase m.text
    name ≠ "priorityqueue".toList && name ≠ "priority_queue".toList

def showsUnionFind (s : Snippet) : Bool :=
  s.shows unionFindName || (s.shows parentArray && s.shows findCall && s.shows unionPart)

def detect (s : Snippet) (literals : LiteralContainers) : StructureFeatures where
  hashMap := 0 < literals.maps || s.shows hashMapUse
  hashSet := s.shows hashSetUse
  array := 0 < literals.arrays || s.shows arrayUse
  heap := s.shows heapUse
  stack := s.shows stackUse
  queue := showsQueue s
  tree := s.shows treeUse
  graph := s.shows graphUse
  linkedList := s.shows linkedListUse
  trie := s.shows trieUse
  unionFind := showsUnionFind s
  stringBuilder := s.shows stringBuilderUse

end StructureFeatures

/-! ## Memory
Signs of auxiliary memory: buffers whose size depends on the input, maps and sets, hidden copies,
counting tables over a fixed alphabet, and strings that are copied in every round of a loop. -/

namespace SpaceUsage

open Pattern CharClass

def alphabetSize : Pattern :=
  anyOf ["26", "52", "128", "256"]

def alphabetTable : Pattern :=
  anyOf [
    subscript "0" ++ spaced "*" ++ alphabetSize ++ edge,
    "new" ++ ws1 ++ "int" ++ spaced "[" ++ alphabetSize ++ ws ++ "]",
    "vec![" ++ ws ++ "0" ++ wordRest ++ spaced ";" ++ alphabetSize ++ ws ++ "]",
    "[" ++ ws ++ alphabetSize ++ ws ++ "]int" ++ edge,
    edge ++ "int" ++ ws1 ++ word ++ spaced "[" ++ alphabetSize ++ ws ++ "]",
    edge ++ "ord(" ++ ws ++ word ++ spaced ")" ++ "-" ++ ws ++ "ord(",
    "-" ++ ws ++ opt "b" ++ "'" ++ opt (one inLine) ++ "'"]

/-- Buffers of a given size; the groups hold the size. -/
def sizedBuffers : List Pattern :=
  ["[" ++ any (except "[]\n") ++ "]" ++ spaced "*" ++ opt "(" ++ ws ++
      group 1 (some1 (except "\n)]")),
    edge ++ "new" ++ ws1 ++ word ++ opt ("<" ++ any (except ">\n") ++ ">") ++ spaced "[" ++
      group 1 (some1 (except "]\n")) ++ "]",
    edge ++ "vec![" ++ any (except ";]\n") ++ ";" ++ ws ++ group 1 (some1 (except "]\n")) ++ "]",
    edge ++ "make(" ++ ws ++ "[]" ++ some1 (except ",\n") ++ "," ++ ws ++
      group 1 (some1 (except ",)\n")),
    anyOf [
      edge ++ "new" ++ ws1 ++ "Array(" ++ ws ++ group 1 (some1 (except ")\n")) ++ ")",
      edge ++ "Array(" ++ ws ++ group 2 (some1 (except ")\n")) ++ ").fill",
      edge ++ "length" ++ spaced ":" ++ group 3 (some1 (except "\x7d\n")) ++ "\x7d"],
    edge ++ "vector<" ++ any (except ">\n") ++ some1 ">" ++ ws ++ word ++ spaced "(" ++
      group 1 (some1 (except ",)\n"))]

def builtCollection : Pattern :=
  anyOf [
    "=" ++ ws ++ one "[\x7b" ++ any (except "]\x7d\n") ++ whole "for",
    "=" ++ ws ++ word ++ "." ++ call (anyOf ["map", "filter"])]

def builtMap : Pattern :=
  anyOf [
    edge ++ "new" ++ ws1 ++ anyOf ["HashMap", "HashSet", "TreeMap", "TreeSet", "LinkedHashMap",
      "LinkedHashSet", "Map", "Set", "Dictionary", "HashTable", "Hashtable"] ++ edge,
    edge ++ anyOf ["HashMap", "HashSet", "BTreeMap", "BTreeSet"] ++ "::" ++
      anyOf ["new", "with_capacity"] ++ edge,
    notMember ++ call (anyOf ["dict", "set", "defaultdict", "Counter", "OrderedDict", "frozenset"]),
    edge ++ "make(" ++ ws ++ "map[",
    edge ++ "unordered_" ++ anyOf ["map", "set"] ++ "<" ++ any (except ">\n") ++ some1 ">" ++ ws ++
      word,
    edge ++ "map[" ++ word ++ "]" ++ some1 (inWord ∪ "\x7b\x7d") ++ "\x7b\x7d",
    whole "mutableMapOf", whole "mutableSetOf", whole "hashMapOf", whole "hashSetOf"]

def copy : Pattern :=
  anyOf [
    call ".substring", call ".substr", call ".slice", call ".split", call ".concat", ".copy()",
    ".clone()", ".to_vec()", edge ++ "Arrays.copyOf" ++ wordRest ++ ws ++ "(",
    notMember ++ "list" ++ spaced "(" ++ one inWord, edge ++ call "sorted", ".toCharArray()",
    ".collect::<Vec", "[" ++ spaced "..." ++ word]

def slice : Pattern :=
  one inWord ++ spaced "[" ++ any (inWord ∪ "+-*/ ()") ++ spaced ":" ++
    any (inWord ∪ "+-*/ ()") ++ ws ++ "]"

def emptyString : Pattern :=
  edge ++ group 1 word ++ ws ++ opt (":" ++ ws ++ word ++ ws) ++ opt ":" ++ "=" ++ ws ++
    anyOf ["\"\"", "''", "String::new()", "String()", "new" ++ ws1 ++ "String()", "str()"]

def appending : Pattern :=
  edge ++ group 1 word ++ ws ++ "+="

def rebuilding : Pattern :=
  edge ++ group 1 word ++ spaced "=" ++ group 2 word ++ ws ++ "+"

def hasVariableSize (m : Match) : Bool :=
  m.groups.any fun (_, size) => size.any Char.isAlpha

def sizedAllocations (s : Snippet) : Nat :=
  ((sizedBuffers.flatMap fun p => p.findAll s.clean).filter hasVariableSize).length

def copiesSilently (s : Snippet) : Bool :=
  s.shows copy || (s.language.slicesCopy && s.shows slice)

def appendsTo (names : List Text) (line : Text) : Bool :=
  ((appending.findAll line).any fun m => names.contains (m.group 1)) ||
    ((rebuilding.findAll line).any fun m =>
      m.group 1 = m.group 2 && names.contains (m.group 1))

def growsString (s : Snippet) (f : LoopForest) : Bool :=
  let names := (emptyString.findAll s.clean).map (·.group 1)
  !names.isEmpty && s.lines.zipIdx.any fun (line, number) =>
    LoopForest.inLoop f number && appendsTo names line.text

def detect (s : Snippet) (f : LoopForest) (structures : StructureFeatures)
    (literals : LiteralContainers) : SpaceUsage :=
  let auxArrays := sizedAllocations s + literals.arrays + builtCollection.count s.clean
  let auxMaps := builtMap.count s.clean + literals.maps
  let hiddenAllocations := copiesSilently s
  { auxArrays, auxMaps, hiddenAllocations
    inPlace := auxArrays = 0 && auxMaps = 0 && !hiddenAllocations
    fixedKeyDomain := s.shows alphabetTable
    stringConcatInLoop :=
      !structures.stringBuilder && s.language.stringsAreFixed && growsString s f }

end SpaceUsage

end Asymptote
