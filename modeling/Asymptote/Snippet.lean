import Asymptote.Language
import Asymptote.Pattern

/-! # Snippets
The view of a piece of code that every recognizer works on: its scrubbed text, its lines with the
blocks that they open, the functions that it defines and the calls of these. -/
namespace Asymptote

/-! ## Lines
Scrubbed code as a table of lines with their indentation and the depth of open braces before and
behind each. Line numbers count from zero. -/

namespace Snippet

structure Line where
  text : Text
  /-- Open braces before the line. -/
  depth : Nat
  depthAfter : Nat
  deriving DecidableEq, Repr

namespace Line

def isBlank (line : Line) : Bool :=
  line.text.isEmpty

def indentOf (t : Text) : Nat :=
  (t.takeWhile Text.isBlank).foldl (fun n c => n + if c = '\t' then 4 else 1) 0

def indent (line : Line) : Nat :=
  indentOf line.text

def braceStep (depth : Nat) (c : Char) : Nat :=
  if c = '\x7b' then depth + 1 else if c = '\x7d' then depth - 1 else depth

def depthBehind (depth : Nat) (t : Text) : Nat :=
  t.foldl braceStep depth

def table (depth : Nat) : List Text → List Line
  | [] => []
  | raw :: others =>
    let text := Text.trimEnd raw
    let after := depthBehind depth text
    ⟨text, depth, after⟩ :: table after others

def ofText (clean : Text) : List Line :=
  table 0 (Text.pieces '\n' clean)

theorem length_table (depth : Nat) (raws : List Text) :
    (table depth raws).length = raws.length := by
  induction raws generalizing depth with
  | nil => rfl
  | cons raw others ih => simp [table, ih]

end Line

end Snippet

/-! ## Blocks
Where the block ends that a line opens. Indentation decides in off-side languages: the block goes on
while lines are indented more than its header. Elsewhere braces decide: the block goes on while the
depth stays above that of the header. -/

namespace Snippet.Block

/-- The last of the lines behind a header that belongs to it by indentation; `best` is the last so
far and `next` the number of the first line of the list. -/
def offsideEnd (indent best next : Nat) : List Line → Nat
  | [] => best
  | line :: others =>
    if line.isBlank then offsideEnd indent best (next + 1) others
    else if indent < line.indent then offsideEnd indent next (next + 1) others
    else best

def braceEnd (depth best next : Nat) : List Line → Nat
  | [] => best
  | line :: others => if depth < line.depth then braceEnd depth next (next + 1) others else best

def nextCode (next : Nat) : List Line → Option (Nat × Line)
  | [] => none
  | line :: others => if line.isBlank then nextCode (next + 1) others else some (next, line)

/-- The number of the last line of the block that line `number` opens. A header without a brace owns
the next statement, unless it ends in a semicolon or a closing brace: then its body is inline. -/
def last (l : Language) (lines : List Line) (number : Nat) : Nat :=
  match lines.drop number with
  | [] => number
  | head :: others =>
    if l.isOffside then offsideEnd head.indent number (number + 1) others
    else if head.depth < head.depthAfter then braceEnd head.depth number (number + 1) others
    else if head.text.getLast? = some ';' || head.text.getLast? = some '\x7d' then number
    else
      match nextCode (number + 1) others with
      | none => number
      | some (j, line) =>
        if Text.startsWith (Text.trimStart line.text) "\x7b" then
          braceEnd line.depth j (j + 1) (lines.drop (j + 1))
        else j

end Snippet.Block

/-! ## Calls
A call of a name is the name as a whole word followed by an opening parenthesis; its arguments are
the text up to the bracket that closes it. -/

namespace Snippet

def isOpener (c : Char) : Bool :=
  c = '(' || c = '[' || c = '\x7b'

def isCloser (c : Char) : Bool :=
  c = ')' || c = ']' || c = '\x7d'

/-- The text up to the first closing bracket that has no opening one in it, counted from `depth`
brackets that are open already; brackets of all kinds count together. -/
def uptoClose : Nat → Text → Text
  | _, [] => []
  | depth, c :: rest =>
    if isOpener c then c :: uptoClose (depth + 1) rest
    else if isCloser c then
      match depth with
      | 0 => []
      | d + 1 => c :: uptoClose d rest
    else c :: uptoClose depth rest

def arguments? (following : Text) : Option Text :=
  match Text.trimStart following with
  | '(' :: inner => some (uptoClose 0 inner)
  | _ => none

def callArguments (name t : Text) : List Text :=
  (Text.afterWord name t).filterMap arguments?

/-! ## Function definitions
The forms in which the languages define functions. A form finds the name in a line; where its shape
is shared with a statement, a control word in one of the checked groups rules it out. -/

open Pattern CharClass

structure DefinitionForm where
  shape : Pattern
  /-- The group that holds the name. -/
  name : Nat
  /-- The groups that must not hold a control word. -/
  checked : List Nat

def controlWords : List Text :=
  ["if", "for", "while", "switch", "return", "catch", "else", "new", "sizeof", "delete", "throw",
    "case", "do", "elif", "yield", "await", "in", "of", "not", "and", "or"].map String.toList

namespace DefinitionForm

def keywordDef : DefinitionForm where
  shape := textStart ++ ws ++ opt ("async" ++ ws1) ++ "def" ++ ws1 ++ opt "self." ++
    group 1 (word ++ opt (one "?!"))
  name := 1
  checked := []

def keywordFunction : DefinitionForm where
  shape := edge ++ "function" ++ ws ++ opt "*" ++ ws ++ group 1 word ++ ws ++ one "(<"
  name := 1
  checked := []

def functionValue : DefinitionForm where
  shape := textStart ++ ws ++ opt ("export" ++ ws1) ++ anyOf ["const", "let", "var"] ++ ws1 ++
    group 1 word ++ ws ++ opt (":" ++ some1 (except "=")) ++ "=" ++ ws ++ opt ("async" ++ ws1) ++
    anyOf ["function" ++ edge,
      "(" ++ any (except ")") ++ ")" ++ ws ++ opt (":" ++ some1 (except "=")) ++ "=>",
      word ++ ws ++ "=>"]
  name := 1
  checked := []

def shorthand : DefinitionForm where
  shape := textStart ++ ws ++
    many (anyOf ["public", "private", "protected", "static", "async", "override"] ++ ws1) ++
    group 1 word ++ ws ++ "(" ++ any (except ")") ++ ")" ++ ws ++
    opt (":" ++ some1 (except "\x7b")) ++ "\x7b" ++ ws ++ textEnd
  name := 1
  checked := [1]

def keywordFn : DefinitionForm where
  shape := edge ++ "fn" ++ ws1 ++ group 1 word
  name := 1
  checked := []

def keywordFunc : DefinitionForm where
  shape := edge ++ "func" ++ ws1 ++ opt ("(" ++ any (except ")") ++ ")" ++ ws) ++ group 1 word
  name := 1
  checked := []

def keywordFun : DefinitionForm where
  shape := edge ++ "fun" ++ ws1 ++ opt ("<" ++ any (except ">") ++ ">" ++ ws) ++
    opt (word ++ ".") ++ group 1 word ++ ws ++ "("
  name := 1
  checked := []

def typed : DefinitionForm where
  shape := textStart ++ ws ++
    many (anyOf ["public", "private", "protected", "static", "final", "inline", "virtual",
      "override", "synchronized", "abstract", "const", "unsigned", "async", "extern"] ++ ws1) ++
    group 1 (some1 (inWord ∪ ":<>,[]*&")) ++ some1 (blank ∪ "*&") ++ group 2 word ++ ws ++ "(" ++
    any (except ";") ++ textEnd
  name := 2
  checked := [1, 2]

def ofLanguage : Language → List DefinitionForm
  | .python | .ruby => [keywordDef]
  | .javaScript | .typeScript => [keywordFunction, functionValue, shorthand]
  | .rust => [keywordFn]
  | .go | .swift => [keywordFunc]
  | .kotlin => [keywordFun]
  | .java | .cpp | .c | .cSharp | .unknown => [typed]

def definedName? (form : DefinitionForm) (line : Text) : Option Text :=
  match form.shape.find? line with
  | none => none
  | some m =>
    if form.checked.any fun g => controlWords.contains (m.group g) then none
    else m.group? form.name

end DefinitionForm

def definedName? (l : Language) (line : Text) : Option Text :=
  (DefinitionForm.ofLanguage l).findSome? fun form => form.definedName? line

/-! ## Scrubbing
Recognizers must see neither comments nor the contents of literals. `scrub` drops both and keeps the
quotes, so that an empty literal still reads as a literal. It is one pass over the characters with
a mode that says what the next character belongs to. -/

inductive Mode where
  | code
  | blockComment
  | lineComment
  | docstring (quote : Char)
  | literal (quote : Char)
  deriving DecidableEq, Repr

def opensLiteral (l : Language) (c : Char) : Bool :=
  c = '"' || c = '\x60' || (c = '\'' && l.quotesSingly)

def opensDocstring (l : Language) : Text → Bool
  | a :: b :: c :: _ => l = .python && (a = '"' || a = '\'') && a = b && b = c
  | _ => false

/-- What one character turns into, the mode behind it and how many characters behind it belong to
the same mark and are dropped unseen. -/
structure Step where
  output : Text
  mode : Mode
  dropped : Nat

/-- The step at a character of code. A comment mark goes before a docstring, a docstring before a
plain literal. -/
def codeStep (l : Language) (c : Char) (rest : Text) : Step :=
  if l.hasBlockComments && Text.startsWith (c :: rest) "/*" then ⟨[], .blockComment, 1⟩
  else if l.lineComments.any fun mark => Text.startsWith (c :: rest) mark then
    ⟨[], .lineComment, 0⟩
  else if opensDocstring l (c :: rest) then ⟨[c, c], .docstring c, 2⟩
  else if opensLiteral l c then ⟨[c], .literal c, 0⟩
  else ⟨[c], .code, 0⟩

def keepBreak (c : Char) : Text :=
  if c = '\n' then [c] else []

/-- The step at a character, given what it belongs to. A line break ends a line comment, and it ends
a literal unless its quote is a backtick; a backslash in a literal hides the character behind it. -/
def step (l : Language) (mode : Mode) (c : Char) (rest : Text) : Step :=
  match mode with
  | .code => codeStep l c rest
  | .blockComment =>
    if Text.startsWith (c :: rest) "*/" then ⟨[], .code, 1⟩ else ⟨keepBreak c, .blockComment, 0⟩
  | .lineComment => if c = '\n' then ⟨[c], .code, 0⟩ else ⟨[], .lineComment, 0⟩
  | .docstring quote =>
    if Text.startsWith (c :: rest) [quote, quote, quote] then ⟨[], .code, 2⟩
    else ⟨keepBreak c, .docstring quote, 0⟩
  | .literal quote =>
    if c = '\\' then ⟨[], .literal quote, 1⟩
    else if c = quote then ⟨[c], .code, 0⟩
    else if c = '\n' then ⟨[c], if quote = '\x60' then .literal quote else .code, 0⟩
    else ⟨[], .literal quote, 0⟩

def scrubFrom (l : Language) : Mode → Nat → Text → Text
  | _, _, [] => []
  | mode, n + 1, _ :: rest => scrubFrom l mode n rest
  | mode, 0, c :: rest =>
    let s := step l mode c rest
    s.output ++ scrubFrom l s.mode s.dropped rest

def scrub (l : Language) (code : Text) : Text :=
  scrubFrom l .code 0 code

end Snippet

/-! ## Snippets
The view of a piece of code that every recognizer works on: the scrubbed text, its lines, the
functions it defines and the identifiers that occur in it. Making one never fails; unbalanced
brackets or quotes only shorten extents. -/

namespace Snippet

structure Function where
  name : Text
  line : Nat
  last : Nat
  deriving DecidableEq, Repr

/-- The part of an identifier that two naming styles have in common: its lowercase without
underscores. -/
def nameKey (identifier : Text) : Text :=
  (identifier.filter (· ≠ '_')).flatMap Text.lowerChar

def Function.key (f : Function) : Text :=
  nameKey f.name

structure CallSite where
  line : Nat
  arguments : Text
  deriving DecidableEq, Repr

end Snippet

structure Snippet where
  language : Language
  clean : Text
  lines : List Snippet.Line
  functions : List Snippet.Function
  identifiers : List Text

namespace Snippet

def functionsOf (l : Language) (lines : List Line) : List Function :=
  lines.zipIdx.filterMap fun (line, number) =>
    if line.isBlank then none
    else (definedName? l line.text).map fun name => ⟨name, number, Block.last l lines number⟩

def identifiersOf (clean : Text) : List Text :=
  Text.sortedSet ((Pattern.identifier.findAll clean).map fun m => nameKey m.text)

/-- Prepares code. An unknown language is guessed from the code as it was given. -/
def ofCode (l : Language) (code : Text) : Snippet :=
  let language := if l = .unknown then Language.infer code else l
  let clean := scrub language code
  let lines := Line.ofText clean
  { language, clean, lines
    functions := functionsOf language lines
    identifiers := identifiersOf clean }

variable (s : Snippet)

def isEmpty : Bool :=
  Text.isAllBlank s.clean

def line (number : Nat) : Text :=
  match s.lines[number]? with
  | some line => line.text
  | none => []

def blockEnd (number : Nat) : Nat :=
  Block.last s.language s.lines number

def shows (p : Pattern) : Bool :=
  p.occursIn s.clean

def linesWith (p : Pattern) : List Nat :=
  (s.lines.zipIdx.filter fun (line, _) => p.occursIn line.text).map (·.2)

def mentions (keys : List String) : Bool :=
  keys.any fun key => s.identifiers.contains key.toList

def defines (parts : List String) : Bool :=
  s.functions.any fun f => parts.any fun part => Text.contains f.key part

/-- The part of a line of a function in which a call of it may stand: behind the name on the line
that defines it, the whole line elsewhere. -/
def callable? (f : Function) (number : Nat) : Option Text :=
  if number = f.line then (Text.afterWord f.name (s.line number)).head? else some (s.line number)

def selfCalls (f : Function) : List CallSite :=
  let last := min f.last (s.lines.length - 1)
  (List.range' f.line (last + 1 - f.line)).flatMap fun number =>
    ((callable? s f number).map (callArguments f.name)).getD [] |>.map fun args => ⟨number, args⟩

end Snippet

end Asymptote
