import Asymptote.Text.Basic

/-! # Globs
Patterns for paths. A path is matched whole and byte by byte, so a wildcard for one character stands
for one byte of its UTF-8 form, and no wildcard stops at a separator. -/
namespace Asymptote

abbrev PathBytes := List UInt8

def PathBytes.ofText (t : Text) : PathBytes :=
  t.flatMap String.utf8EncodeChar

inductive GlobPiece where
  | char (c : Char)
  | anyByte
  | anything
  /-- Any directories in front of what follows, or none. -/
  | leadingDirs
  | trailingPath
  /-- A separator, or two with anything between them. -/
  | innerDirs
  | oneOf (negated : Bool) (ranges : List (Char × Char))
  /-- One of several globs; without any it stands for nothing. -/
  | branches (alternatives : List (List GlobPiece))

abbrev Glob := List GlobPiece

namespace GlobPiece

def separator : UInt8 := 47

/-- The byte ranges of a character range: from the last byte of its first character to the first
byte of its last one, and all other bytes of the two on their own. -/
def byteRanges (range : Char × Char) : List (UInt8 × UInt8) :=
  let first := String.utf8EncodeChar range.1
  let last := String.utf8EncodeChar range.2
  let single (b : UInt8) : UInt8 × UInt8 := (b, b)
  if range.1 = range.2 then first.map single
  else
    match first.getLast?, last.head? with
    | some low, some high => first.dropLast.map single ++ (low, high) :: last.tail.map single
    | _, _ => []

def endings : PathBytes → List PathBytes
  | [] => [[]]
  | b :: path => (b :: path) :: endings path

def behindSeparators (path : PathBytes) : List PathBytes :=
  (endings path).filterMap fun rest =>
    match rest with
    | b :: following => if b = separator then some following else none
    | [] => none

def behindSeparator (path : PathBytes) : List PathBytes :=
  match path with
  | b :: rest => if b = separator then [rest] else []
  | [] => []

mutual

def rests (path : PathBytes) : GlobPiece → List PathBytes
  | char c =>
    let bytes := String.utf8EncodeChar c
    if bytes.isPrefixOf path then [path.drop bytes.length] else []
  | anyByte => if path.isEmpty then [] else [path.tail]
  | anything => endings path
  | leadingDirs => path :: behindSeparators path
  | trailingPath => (behindSeparator path).flatMap endings
  | innerDirs =>
    (behindSeparator path).flatMap fun rest => rest :: behindSeparators rest
  | oneOf negated ranges =>
    match path with
    | [] => []
    | b :: rest =>
      let holds := (ranges.flatMap byteRanges).any fun r => r.1 ≤ b && b ≤ r.2
      if holds = negated then [] else [rest]
  | branches alternatives => if alternatives.isEmpty then [path] else restsOfAny path alternatives

def restsOfAny (path : PathBytes) : List (List GlobPiece) → List PathBytes
  | [] => []
  | glob :: others => restsOfAll [path] glob ++ restsOfAny path others

def restsOfAll (paths : List PathBytes) : List GlobPiece → List PathBytes
  | [] => paths
  | piece :: others => restsOfAll (paths.flatMap fun path => rests path piece).eraseDups others

end

end GlobPiece

namespace GlobPiece

def char? : GlobPiece → Option Char
  | char c => some c
  | _ => none

def isInName (piece : GlobPiece) : Bool :=
  piece.char?.any fun c => c != '.' && c != '/'

end GlobPiece

namespace Glob

def spelled? (glob : Glob) : Option Text :=
  glob.mapM GlobPiece.char?

def endsInExtension (glob : Glob) : Bool :=
  (glob.reverse.find? (!·.isInName)).bind GlobPiece.char? = some '.'

def isExtension : Text → Bool
  | '.' :: rest => rest.all fun c => c != '.' && c != '/'
  | _ => false

/-- The glob asks for a name at the end of a path, or for the extension of one. A glob without
wildcards asks for a whole path instead, and one that only spells how a path ends asks for a name
just if it spells an extension, or a name behind any directories. -/
def asksForName : Glob → Bool
  | .leadingDirs :: .anything :: rest
  | .anything :: rest =>
    match spelled? rest with
    | some text => isExtension text
    | none => endsInExtension rest
  | .leadingDirs :: rest =>
    match spelled? rest with
    | some text => !text.isEmpty && text.all (· != '/')
    | none => endsInExtension rest
  | glob => (spelled? glob).isNone && endsInExtension glob

def endsInParent (path : Text) : Bool :=
  path.reverse.takeWhile (· != '/') = ['.', '.']

def covers (glob : Glob) (path : Text) : Bool :=
  match glob with
  | [.leadingDirs] => true
  | _ => (GlobPiece.restsOfAll [PathBytes.ofText path] glob).any List.isEmpty

def accepts (glob : Glob) (path : Text) : Bool :=
  covers glob path && !(asksForName glob && endsInParent path)

end Glob

/-! ## Reading globs
`*` and `?` are wildcards, brackets hold sets of characters and braces alternatives; a backslash
takes the next character as it is. Two stars between separators stand for directories. -/

inductive GlobFault where
  | unclosedSet
  | unclosedBranches
  | unopenedBranches
  | reversedRange
  | danglingEscape
  deriving DecidableEq, Repr

namespace Glob

structure Level where
  finished : List Glob := []
  pieces : List GlobPiece := []

structure Draft where
  level : Level := {}
  outer : List Level := []

namespace Draft

def push (d : Draft) (piece : GlobPiece) : Draft :=
  { d with level := { d.level with pieces := piece :: d.level.pieces } }

def pushStars (d : Draft) : Draft :=
  (d.push .anything).push .anything

def mergeDirs (d : Draft) (piece : GlobPiece) : Draft :=
  match d.level.pieces with
  | .leadingDirs :: _ => d
  | .trailingPath :: _ => d
  | _ :: before => { d with level := { d.level with pieces := piece :: before } }
  | [] => d.push piece

def isNested (d : Draft) : Bool :=
  !d.outer.isEmpty

def openBranches (d : Draft) : Draft :=
  ⟨{}, d.level :: d.outer⟩

def nextBranch (d : Draft) : Draft :=
  { d with level := ⟨d.level.pieces.reverse :: d.level.finished, []⟩ }

def isVoid : Glob → Bool
  | [] => true
  | .branches [] :: others => isVoid others
  | _ => false

def closeBranches (d : Draft) : Except GlobFault Draft :=
  match d.outer with
  | [] => .error .unopenedBranches
  | level :: outer =>
    let all := (d.level.pieces.reverse :: d.level.finished).reverse
    .ok (Draft.push ⟨level, outer⟩ (.branches (all.filter (!isVoid ·))))

def finish (d : Draft) : Except GlobFault Glob :=
  if d.isNested then .error .unclosedBranches else .ok d.level.pieces.reverse

end Draft

/-! ### Sets of characters -/

structure SetDraft where
  ranges : List (Char × Char) := []
  inRange : Bool := false

def SetDraft.add (s : SetDraft) (c : Char) : Except GlobFault SetDraft :=
  match s.inRange, s.ranges with
  | true, (low, _) :: others =>
    if c < low then .error .reversedRange else .ok ⟨(low, c) :: others, false⟩
  | _, ranges => .ok ⟨(c, c) :: ranges, false⟩

/-- The ranges of a set and what follows it. A closing bracket at the start belongs to the set, and
a hyphen at its start or end stands for itself. -/
def readSet (isFirst : Bool) (s : SetDraft) : Text → Except GlobFault (List (Char × Char) × Text)
  | [] => .error .unclosedSet
  | c :: rest =>
    if c = ']' && !isFirst then
      .ok ((if s.inRange then ('-', '-') :: s.ranges else s.ranges).reverse, rest)
    else if c = '-' && !isFirst && !s.inRange then readSet false { s with inRange := true } rest
    else do
      let s ← s.add c
      readSet false s rest

/-! ### Stars -/

/-- Reads two stars; `before` is the character in front of them and `rest` what follows. Answers
with the separator taken along, if any. -/
def readStars (d : Draft) (before : Option Char) (rest : Text) : Draft × Bool :=
  let next := rest.head?
  if d.level.pieces.isEmpty then
    if next.all (· = '/') then (d.push .leadingDirs, next.isSome) else (d.pushStars, false)
  else if before = some '/' || (d.isNested && (before = some ',' || before = some '{')) then
    if next.isNone || (d.isNested && (next = some ',' || next = some '}')) then
      (d.mergeDirs .trailingPath, false)
    else if next = some '/' then (d.mergeDirs .innerDirs, true)
    else (d.pushStars, false)
  else (d.pushStars, false)

/-- Reads the rest of a glob. Each step takes at least one character, so the length of the text is
enough `fuel`. -/
def readFrom : Nat → Draft → Option Char → Text → Except GlobFault Glob
  | 0, d, _, _ => d.finish
  | _, d, _, [] => d.finish
  | fuel + 1, d, before, c :: rest =>
    match c with
    | '?' => readFrom fuel (d.push .anyByte) (some c) rest
    | '*' =>
      match rest with
      | '*' :: following =>
        let (d, tookSeparator) := readStars d before following
        if tookSeparator then readFrom fuel d (some '/') following.tail
        else readFrom fuel d (some '*') following
      | _ => readFrom fuel (d.push .anything) (some c) rest
    | '[' => do
      let negated := rest.head? = some '!' || rest.head? = some '^'
      let (ranges, following) ← readSet true {} (if negated then rest.tail else rest)
      readFrom fuel (d.push (.oneOf negated ranges)) (some ']') following
    | '{' => readFrom fuel d.openBranches (some c) rest
    | '}' => do
      let d ← d.closeBranches
      readFrom fuel d (some c) rest
    | ',' => readFrom fuel (if d.isNested then d.nextBranch else d.push (.char c)) (some c) rest
    | '\\' =>
      match rest with
      | [] => .error .danglingEscape
      | e :: following => readFrom fuel (d.push (.char e)) (some e) following
    | _ => readFrom fuel (d.push (.char c)) (some c) rest

def read (pattern : Text) : Except GlobFault Glob :=
  readFrom pattern.length {} none pattern

end Glob
end Asymptote
