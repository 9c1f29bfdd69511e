import Asymptote.Text.Basic

/-! # Files
Paths as texts, trees of files and links, and the questions that a program asks about them. -/
namespace Asymptote

/-! ## Paths
Paths as they are written. They are put together and taken apart without a look at any file system,
so `..` and links stay as they are. -/

namespace Path

def isAbsolute (path : Text) : Bool :=
  path.head? = some '/'

/-- A path seen from a directory. An absolute one stands for itself; an empty one leaves a separator
behind the directory. -/
def join (base path : Text) : Text :=
  if isAbsolute path then path
  else if base.isEmpty || base.getLast? = some '/' then base ++ path
  else base ++ '/' :: path

def trimParts (parts : List Text) : List Text :=
  match parts with
  | [] => []
  | first :: others =>
    first :: (others.reverse.dropWhile fun part => part.isEmpty || part = ['.']).reverse

def ofParts (parts : List Text) : Text :=
  if parts = [[]] then ['/'] else List.intercalate ['/'] parts

def parent? (path : Text) : Option Text :=
  match trimParts (Text.pieces '/' path) with
  | [[]] => none
  | [_] => some []
  | parts => some (ofParts (trimParts parts.dropLast))

end Path

/-! ## File trees
A directory with all that is below it, and finding one's way through it: `..` leaves the directory
that was reached, and links are followed until too many of them have been met. -/

inductive FileTree where
  | file (text? : Option Text)
  | link (target : Text)
  | directory (entries : List (Text × FileTree))

inductive FileKind where
  | file
  | directory
  deriving DecidableEq, Repr

inductive ReadFault where
  | notFound
  | notDirectory
  | isDirectory
  | linkLoop
  | invalidText
  | denied
  deriving DecidableEq, Repr

namespace FileTree

def entry? (t : FileTree) (name : Text) : Option FileTree :=
  match t with
  | directory entries => (entries.find? (·.1 = name)).map (·.2)
  | _ => none

def at? (t : FileTree) : List Text → Option FileTree
  | [] => some t
  | name :: names => (t.entry? name).bind fun below => at? below names

/-- Where a walk along the parts of a path ends. The place is a list of names from the root. -/
inductive Walk where
  | arrived (place : List Text)
  | failed (fault : ReadFault)
  | diverted (place : List Text) (target : Text) (rest : List Text)

def walk (root : FileTree) (place : List Text) : List Text → Walk
  | [] => .arrived place
  | part :: rest =>
    if part.isEmpty || part = ['.'] then walk root place rest
    else if part = ['.', '.'] then walk root place.dropLast rest
    else
      match root.at? (place ++ [part]) with
      | none => .failed .notFound
      | some (directory _) => walk root (place ++ [part]) rest
      | some (link target) => .diverted place target rest
      | some (file _) => if rest.isEmpty then .arrived (place ++ [part]) else .failed .notDirectory

def resolveFrom (root : FileTree) : Nat → List Text → List Text → Except ReadFault (List Text)
  | 0, _, _ => .error .linkLoop
  | fuel + 1, place, parts =>
    match walk root place parts with
    | .arrived place => .ok place
    | .failed fault => .error fault
    | .diverted place target rest =>
      resolveFrom root fuel (if Path.isAbsolute target then [] else place)
        (Text.pieces '/' target ++ rest)

def maxLinks : Nat := 40

def resolve (root : FileTree) (path : Text) : Except ReadFault (List Text) :=
  if path.isEmpty then .error .notFound
  else resolveFrom root (maxLinks + 1) [] (Text.pieces '/' path)

def kind? (root : FileTree) (path : Text) : Option FileKind :=
  match root.resolve path with
  | .error _ => none
  | .ok place =>
    match root.at? place with
    | some (directory _) => some .directory
    | some (file _) => some .file
    | _ => none

def read (root : FileTree) (path : Text) : Except ReadFault Text := do
  let place ← root.resolve path
  match root.at? place with
  | some (file (some text)) => .ok text
  | some (file none) => .error .invalidText
  | some (directory _) => .error .isDirectory
  | _ => .error .notFound

def subtree (root : FileTree) (path : Text) : FileTree :=
  match root.resolve path with
  | .error _ => directory []
  | .ok place => (root.at? place).getD (directory [])

/-- The absolute path without links that leads to the same place, the path itself if it leads
nowhere. -/
def realPath (root : FileTree) (path : Text) : Text :=
  match root.resolve path with
  | .error _ => path
  | .ok place => Path.ofParts ([] :: place)

end FileTree

/-! ## Access to files
What a program may ask about files. The answers come from a file tree or from the machine. -/

/-- Questions about the files seen from a working directory; relative paths start there. -/
structure FileAccess (m : Type → Type) where
  workingDirectory : Text
  kind? : Text → m (Option FileKind)
  read : Text → m (Except ReadFault Text)
  /-- What stands below a directory, links not followed. Only `read` tells what is in a file. -/
  tree : Text → m FileTree

namespace FileAccess

variable {m : Type → Type} [Monad m] (files : FileAccess m)

def exists? (path : Text) : m Bool := do
  return (← files.kind? path).isSome

def isFile (path : Text) : m Bool := do
  return (← files.kind? path) = some .file

def isDirectory (path : Text) : m Bool := do
  return (← files.kind? path) = some .directory

def absolute (path : Text) : Text :=
  Path.join files.workingDirectory path

end FileAccess

def FileTree.access (root : FileTree) (directory : Text) : FileAccess Id :=
  let start := root.realPath directory
  let absolute (path : Text) : Text := if path.isEmpty then path else Path.join start path
  { workingDirectory := start
    kind? := fun path => root.kind? (absolute path)
    read := fun path => root.read (absolute path)
    tree := fun path => root.subtree (absolute path) }

end Asymptote
