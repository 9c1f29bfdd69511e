import Asymptote.Command.Run

/-! # The program
Runs the command that the arguments ask for on the files of the machine. What it prints goes to
standard output, the reason for a failure to standard error. -/
namespace Asymptote.Machine

def readFault : IO.Error → ReadFault
  | .noFileOrDirectory .. => .notFound
  | .permissionDenied .. => .denied
  | _ => .isDirectory

def kind? (path : Text) : IO (Option FileKind) := do
  let location := (← IO.currentDir) / String.ofList path
  try
    match (← location.metadata).type with
    | .file => return some .file
    | .dir => return some .directory
    | _ => return none
  catch _ => return none

def read (path : Text) : IO (Except ReadFault Text) := do
  try
    match String.fromUTF8? (← IO.FS.readBinFile (String.ofList path)) with
    | some text => return .ok text.toList
    | none => return .error .invalidText
  catch e => return .error (readFault e)

partial def tree (path : Text) : IO FileTree := do
  let location := (← IO.currentDir) / String.ofList path
  let mut entries := []
  for entry in ← location.readDir do
    match (← entry.path.symlinkMetadata).type with
    | .dir =>
      let below ← tree (Path.join path entry.fileName.toList)
      entries := entries ++ [(entry.fileName.toList, below)]
    | .file => entries := entries ++ [(entry.fileName.toList, .file none)]
    | _ => pure ()
  return .directory entries

def files : IO (FileAccess IO) := do
  let here ← IO.FS.realPath (← IO.currentDir)
  return { workingDirectory := here.toString.toList, kind?, read, tree }

end Asymptote.Machine

def main (args : List String) : IO UInt32 := do
  match ← Asymptote.Command.execute (← Asymptote.Machine.files) args with
  | .ok outcome =>
    IO.print outcome.output
    return outcome.exitCode.toUInt32
  | .error failure =>
    IO.eprintln failure.message
    return failure.exitCode.toUInt32
