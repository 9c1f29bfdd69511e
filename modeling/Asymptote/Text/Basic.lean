import Asymptote.Text.Table.Mark

/-! # Texts
Characters by class, texts as lists of them, their lowercase and their quoted form. -/
namespace Asymptote

/-! ## Character classes
The classes that layout, names and words are made of, for all of Unicode. ASCII is answered by
arithmetic, the rest by the tables. -/

namespace Text

def splitAscii (ascii beyond : Char → Bool) (c : Char) : Bool :=
  if c.toNat < 128 then ascii c else beyond c

def isBlank (c : Char) : Bool :=
  let n := c.toNat
  (9 ≤ n && n ≤ 13) || n == 0x20 || n == 0x85 || n == 0xa0 || n == 0x1680 ||
    (0x2000 ≤ n && n ≤ 0x200a) || n == 0x2028 || n == 0x2029 || n == 0x202f || n == 0x205f ||
    n == 0x3000

def isAlphabetic : Char → Bool :=
  splitAscii Char.isAlpha Table.alphabetic.holds

def isNumeric : Char → Bool :=
  splitAscii Char.isDigit Table.numeric.holds

def isAlphanumeric (c : Char) : Bool :=
  isAlphabetic c || isNumeric c

/-- A decimal digit of any script, among the characters that patterns know. -/
def isDecimal : Char → Bool :=
  splitAscii Char.isDigit fun c => Table.digit.holds c && !Table.recent.holds c

/-- A character that words consist of: letters, marks, digits, connectors and joiners, unless it is
too recent for patterns. -/
def isWord : Char → Bool :=
  splitAscii (fun c => c.isAlphanum || c == '_') fun c =>
    (Table.alphabetic.holds c || Table.joining.holds c) && !Table.recent.holds c

def isIdentifier (c : Char) : Bool :=
  isAlphanumeric c || c == '_'

def isCased : Char → Bool :=
  splitAscii Char.isAlpha Table.cased.holds

def isCaseIgnorable : Char → Bool :=
  splitAscii ['\'', '.', ':', '^', '\x60'].contains Table.caseIgnorable.holds

/-- A letter of Hangul that holds the place of another one and leaves no mark. -/
def isFiller (c : Char) : Bool :=
  let n := c.toNat
  n == 0x115f || n == 0x1160 || n == 0x3164 || n == 0xffa0

def isPrintable : Char → Bool :=
  splitAscii (fun c => 0x20 ≤ c.toNat && c.toNat != 0x7f) fun c =>
    !Table.unprintable.holds c && !Table.extending.holds c && !isFiller c

theorem toNat_of_isAlphanum {c : Char} (h : c.isAlphanum = true) :
    48 ≤ c.toNat ∧ c.toNat < 128 := by
  delta Char.isAlphanum Char.isAlpha Char.isUpper Char.isLower Char.isDigit at h
  simp only [Bool.or_eq_true, Bool.and_eq_true, decide_eq_true_eq, ge_iff_le,
    UInt32.le_iff_toNat_le, UInt32.reduceToNat, Char.toNat_val, Char.reduceVal] at h
  omega

theorem isBlank_eq_false_of_isAlphanum {c : Char} (h : c.isAlphanum = true) :
    isBlank c = false := by
  have hc := toNat_of_isAlphanum h
  simp [isBlank]
  omega

theorem eq_of_isBlank {α : Type} {f : Char → α} {a : α} {c : Char}
    (h : ∀ n ∈ List.range' 9 5 ++ [0x20, 0x85, 0xa0, 0x1680] ++ List.range' 0x2000 11 ++
      [0x2028, 0x2029, 0x202f, 0x205f, 0x3000], f (Char.ofNat n) = a)
    (hc : isBlank c = true) : f c = a := by
  rw [← Char.ofNat_toNat c]
  refine h _ ?_
  simp only [isBlank, Bool.or_eq_true, Bool.and_eq_true, decide_eq_true_eq, beq_iff_eq] at hc
  simp only [List.mem_append, List.mem_range'_1, List.mem_cons, List.not_mem_nil]
  omega

end Text

/-! ## Text
Analysed text is a list of characters, so that laws about it go by induction. Here are trimming,
searching, replacing and splitting; positions never occur, a search answers with what follows. -/

abbrev Text := List Char

namespace Text

instance : Coe String Text := ⟨String.toList⟩

def dropEndWhile (p : Char → Bool) (t : Text) : Text :=
  (t.reverse.dropWhile p).reverse

def trimStart (t : Text) : Text :=
  t.dropWhile isBlank

def trimEnd (t : Text) : Text :=
  dropEndWhile isBlank t

def trim (t : Text) : Text :=
  trimEnd (trimStart t)

def isAllBlank (t : Text) : Bool :=
  t.all isBlank

def startsWith (t start : Text) : Bool :=
  start.isPrefixOf t

def endsWith (t ending : Text) : Bool :=
  ending.isSuffixOf t

def after? (start t : Text) : Option Text :=
  if t.startsWith start then some (t.drop start.length) else none

def before? (ending t : Text) : Option Text :=
  if t.endsWith ending then some (t.take (t.length - ending.length)) else none

def withoutEnd (ending t : Text) : Text :=
  (before? ending t).getD t

def withoutEnds (ending : Text) (t : Text) : Text :=
  go t.length t
where
  go : Nat → Text → Text
    | 0, t => t
    | n + 1, t =>
      match before? ending t with
      | some rest => go n rest
      | none => t

def split? (part : Text) : Text → Option (Text × Text)
  | [] => if part.isEmpty then some ([], []) else none
  | c :: rest =>
    if part.isPrefixOf (c :: rest) then some ([], (c :: rest).drop part.length)
    else (split? part rest).map fun r => (c :: r.1, r.2)

def contains (t part : Text) : Bool :=
  (split? part t).isSome

/-- Every occurrence of `old`, found from left to right without overlap, gives way to `new`. -/
def replace (old new : Text) (t : Text) : Text :=
  go 0 t
where
  go : Nat → Text → Text
    | _, [] => []
    | n + 1, _ :: rest => go n rest
    | 0, c :: rest =>
      if old.isPrefixOf (c :: rest) then new ++ go (old.length - 1) rest else c :: go 0 rest

def pieces (separator : Char) : Text → List Text
  | [] => [[]]
  | c :: rest =>
    if c = separator then [] :: pieces separator rest
    else
      match pieces separator rest with
      | [] => [[c]]
      | piece :: others => (c :: piece) :: others

/-- What follows each occurrence of `word` that no identifier character touches on either side.
Occurrences are taken from left to right without overlap. -/
def afterWord (word : Text) (t : Text) : List Text :=
  go 0 none t
where
  free (c : Option Char) : Bool := !c.any isIdentifier
  go : Nat → Option Char → Text → List Text
    | 0, prev, [] => if word.isEmpty && free prev then [[]] else []
    | _ + 1, _, [] => []
    | n + 1, _, c :: rest => go n (some c) rest
    | 0, prev, c :: rest =>
      if word.isPrefixOf (c :: rest) then
        let following := (c :: rest).drop word.length
        if free prev && free following.head? then following :: go (word.length - 1) (some c) rest
        else go (word.length - 1) (some c) rest
      else go 0 (some c) rest

def before (a b : Text) : Bool :=
  decide (a < b)

def insertNew (t : Text) : List Text → List Text
  | [] => [t]
  | u :: us => if t = u then u :: us else if before t u then t :: u :: us else u :: insertNew t us

def sortedSet (ts : List Text) : List Text :=
  ts.foldr insertNew []

@[simp] theorem startsWith_nil (t : Text) : startsWith t [] = true := by
  simp [startsWith]

@[simp] theorem nil_startsWith_cons (d : Char) (start : Text) : startsWith [] (d :: start) = false :=
  rfl

@[simp] theorem cons_startsWith_cons (c d : Char) (t start : Text) :
    startsWith (c :: t) (d :: start) = (d == c && startsWith t start) :=
  rfl

theorem length_pieces_pos (separator : Char) (t : Text) : 0 < (pieces separator t).length := by
  induction t with
  | nil => simp [pieces]
  | cons c rest ih =>
    simp only [pieces]
    split
    · simp
    · split <;> simp

end Text

/-! ## Lowercase
A character lowers by itself; a whole text lowers character by character, except that a capital
sigma which ends a word takes its final form. -/

namespace Text

def finalSigma : Char := 'ς'

/-- The lowercase counterpart of one character; a dotted capital I gives two. -/
def lowerChar (c : Char) : Text :=
  if c.toNat < 128 then [c.toLower]
  else if c = 'İ' then ['i', Char.ofNat 0x307]
  else [(Table.lowercase.findSome? (·.lowered? c)).getD c]

def meetsCased (t : Text) : Bool :=
  ((t.dropWhile isCaseIgnorable).head?).any isCased

/-- Lowercase of a whole text. A capital sigma is final if a cased letter comes before it and none
after it, where case-ignorable characters are looked through. -/
def lowercase (t : Text) : Text :=
  go [] t
where
  go : Text → Text → Text
    | _, [] => []
    | before, c :: rest =>
      let image :=
        if c = 'Σ' then [if meetsCased before && !meetsCased rest then finalSigma else 'σ']
        else lowerChar c
      image ++ go (c :: before) rest

/-! ## Quoted text
Messages quote a text between double quotes: a quote and a backslash are escaped, line breaks, tabs
and the null character have short forms, and any other unprintable character is written by its
code point in hexadecimal. -/

def quotedChar (c : Char) : List Char :=
  match c with
  | '"' => ['\\', '"']
  | '\\' => ['\\', '\\']
  | '\n' => ['\\', 'n']
  | '\r' => ['\\', 'r']
  | '\t' => ['\\', 't']
  | '\x00' => ['\\', '0']
  | c =>
    if isPrintable c then [c]
    else ['\\', 'u', '{'] ++ Nat.toDigits 16 c.toNat ++ ['}']

def quoted (t : List Char) : List Char :=
  '"' :: t.flatMap quotedChar ++ ['"']

end Text

end Asymptote
