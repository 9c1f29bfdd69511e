import Asymptote.Config
import Asymptote.FileTree

/-! # Projects
From a path to the settings, the source files and the engine for them. -/
namespace Asymptote

/-! ## The settings of a project
Where a project starts, and the configuration that is found there or named. -/

inductive SettingsFailure where
  | unreadable (path : Text) (cause : ReadFault)
  | malformed (path : Text) (cause : Json.Fault)
  | invalid (path : Text) (cause : ConfigFault)
  | refused (cause : ConfigFault)

def SettingsFailure.message : SettingsFailure → String
  | unreadable path _ => "failed to read config file: " ++ String.ofList path
  | malformed path _ => "failed to parse config file: " ++ String.ofList path
  | invalid path _ => "invalid config in: " ++ String.ofList path
  | refused cause => cause.message

namespace Settings

/-- The settings that a configuration file gives. A relative path to ground truth starts at the
directory of the file. -/
def ofDocument (path document : Text) : Except SettingsFailure Settings := do
  let config ← (Config.read document).mapError (.malformed path)
  let settings ← config.resolve.mapError (.invalid path)
  let base := (Path.parent? path).getD ['.']
  .ok { settings with
    groundTruth? := settings.groundTruth?.map (Path.join base)
    source? := some path }

def default : Except SettingsFailure Settings :=
  (Config.resolve {}).mapError .refused

def fileNames : List Text :=
  [".bigorc.json", "bigo.config.json"].map String.toList

variable {m : Type → Type} [Monad m] (files : FileAccess m)

def firstExisting? : List Text → m (Option Text)
  | [] => return none
  | path :: others => do
    if ← files.exists? path then return some path else firstExisting? others

def load (root : Text) (named? : Option Text) : m (Except SettingsFailure Settings) := do
  let found? ←
    match named? with
    | some path => pure (some path)
    | none => firstExisting? files (fileNames.map (Path.join root))
  match found? with
  | none => return default
  | some path =>
    match ← files.read path with
    | .error cause => return .error (.unreadable path cause)
    | .ok document => return ofDocument path document

end Settings

namespace Project

variable {m : Type → Type} [Monad m] (files : FileAccess m)

def ancestors : Nat → Text → List Text
  | 0, path => [path]
  | fuel + 1, path =>
    match Path.parent? path with
    | none => [path]
    | some above => path :: ancestors fuel above

def repository? : List Text → m (Option Text)
  | [] => return none
  | path :: others => do
    if ← files.exists? (Path.join path ".git".toList) then return some path
    else repository? others

def root (path : Text) : m Text := do
  let start := if ← files.isFile path then (Path.parent? path).getD path else path
  return (← repository? files (ancestors start.length start)).getD start

end Project

/-! ## Source files
The files below a directory that are worth an analysis: those of known languages, outside
directories with build output or others' code, and not reached through links. -/

namespace FileTree

def isSourceName (name : Text) : Bool :=
  !name.endsWith ".d.ts".toList && (Language.ofPath? name).isSome

def isSkippedName (name : Text) : Bool :=
  name.head? = some '.' ||
    ["node_modules", "dist", "build", "target", "__pycache__"].any (·.toList = name)

mutual

/-- The source files at a name, each by the names on the way to it. -/
def sourcesAt (name : Text) : FileTree → List (List Text)
  | file _ => if isSourceName name then [[name]] else []
  | link _ => []
  | directory entries =>
    if isSkippedName name then [] else (sourcesAmong entries).map (name :: ·)

def sourcesAmong : List (Text × FileTree) → List (List Text)
  | [] => []
  | (name, tree) :: others => sourcesAt name tree ++ sourcesAmong others

end

def sources : FileTree → List (List Text)
  | directory entries => (sourcesAmong entries).mergeSort fun a b => !decide (b < a)
  | _ => []

end FileTree

structure SourceFile where
  path : Text
  shown : Text
  deriving DecidableEq, Repr

namespace SourceFile

def ofNames (directory : Text) (names : List Text) : SourceFile :=
  ⟨names.foldl Path.join directory, List.intercalate ['/'] names⟩

def ofTree (directory : Text) (filter? : Option PathFilter) (tree : FileTree) : List SourceFile :=
  (tree.sources.map (ofNames directory)).filter fun f => filter?.all (·.accepts f.shown)

structure Missing where
  path : Text

def Missing.message (e : Missing) : String :=
  "path does not exist: " ++ String.ofList e.path

variable {m : Type → Type} [Monad m]

/-- The source files at a path. A file that is named counts if it is in a known language, whatever
the filter says. -/
def collect (files : FileAccess m) (path : Text) (filter? : Option PathFilter) :
    m (Except Missing (List SourceFile)) := do
  match ← files.kind? path with
  | none => return .error ⟨path⟩
  | some .file =>
    let name := (Language.fileName? path).getD []
    return .ok (if FileTree.isSourceName name then [⟨path, path⟩] else [])
  | some .directory => return .ok (ofTree path filter? (← files.tree path))

end SourceFile

/-! ## The engine of a project
The engine with the settings of a project and with its ground truth behind the built-in records. -/

inductive EngineFailure where
  | unreadable (path : Text) (cause : ReadFault)
  | invalid (path : Text) (cause : GroundTruth.DatasetFault)
  | unmergeable (path : Text) (cause : GroundTruth.EntryFault)

def EngineFailure.message : EngineFailure → String
  | unreadable path _ => "failed to read ground truth dataset: " ++ String.ofList path
  | invalid path _ => "invalid ground truth dataset: " ++ String.ofList path
  | unmergeable path _ => "cannot merge ground truth dataset: " ++ String.ofList path

namespace Engine

def tableWith (path document : Text) : Except EngineFailure GroundTruth.Table := do
  let extra ← (GroundTruth.Table.read document).mapError (.invalid path)
  (GroundTruth.builtin.merged extra).mapError (.unmergeable path)

variable {m : Type → Type} [Monad m]

def load (files : FileAccess m) (s : Settings) : m (Except EngineFailure Engine) := do
  match s.groundTruth? with
  | none => return .ok { settings := s.engineSettings }
  | some path =>
    match ← files.read path with
    | .error cause => return .error (.unreadable path cause)
    | .ok document =>
      return (tableWith path document).map fun groundTruth =>
        { groundTruth, settings := s.engineSettings }

end Engine
end Asymptote
