import Asymptote.Command.Arguments
import Asymptote.Project
import Asymptote.Report

/-! # Running commands
What each command prints and whether it succeeds. A command that fails prints nothing; a claim that
does not stand is printed with its corrections but is no success. -/
namespace Asymptote

structure Outcome where
  output : String
  success : Bool := true
  deriving DecidableEq, Repr

inductive CommandFailure where
  | usage (fault : UsageFault)
  | missing (path : Text)
  | unreadable (path : Text) (cause : ReadFault)
  | settings (cause : SettingsFailure)
  | engine (cause : EngineFailure)
  | claims (path : Text) (cause : Json.Fault)
  | emptyTriple

namespace CommandFailure

def message : CommandFailure → String
  | usage fault => fault.message
  | missing path => "path does not exist: " ++ String.ofList path
  | unreadable path _ => "failed to read " ++ String.ofList path
  | settings cause => "failed to load configuration: " ++ cause.message
  | engine cause => "failed to build analysis engine: " ++ cause.message
  | claims path _ => "invalid claims file: " ++ String.ofList path
  | emptyTriple => "triple needs at least one of --brute, --better, --optimal or --claims"

def exitCode : CommandFailure → Nat
  | usage _ => 2
  | _ => 1

end CommandFailure

def Outcome.exitCode (o : Outcome) : Nat :=
  if o.success then 0 else 1

def resolveLanguage (tag? : Option String) (path? : Option Text) (s : Settings) (code : Text) :
    Language :=
  match tag? with
  | some tag => Language.ofTag tag.toList
  | none => (path?.bind Language.ofPath? <|> s.language?).getD (Language.infer code)

def OutputFormat.write (format : OutputFormat) (text : String) (document : Json) : String :=
  match format with
  | .text => text
  | .json => document.pretty ++ "\n"

namespace Command

variable {m : Type → Type} [Monad m] (files : FileAccess m)

abbrev Attempt (m : Type → Type) (α : Type) := ExceptT CommandFailure m α

def attempt {α ε : Type} (fault : ε → CommandFailure) (action : m (Except ε α)) : Attempt m α :=
  ExceptT.mk do return (← action).mapError fault

def readSnippet (path : Text) : Attempt m Text :=
  attempt (.unreadable path) (files.read path)

def prepare (anchor : Text) (config? : Option String) : Attempt m (Settings × Engine) := do
  let root ← ExceptT.lift (Project.root files anchor)
  let s ← attempt .settings (Settings.load files root (config?.map String.toList))
  let e ← attempt .engine (Engine.load files s)
  return (s, e)

def analyzeFile (e : Engine) (s : Settings) (language? title? : Option String)
    (source : SourceFile) : m (Option FileReport) := do
  match ← files.read source.path with
  | .error _ => return none
  | .ok code =>
    let language := resolveLanguage language? (some source.path) s code
    let shown := source.shown.map fun c => if c = '\\' then '/' else c
    return some ⟨String.ofList shown, language.name,
      e.analyze code language (title?.map String.toList)⟩

def analyzeFiles (e : Engine) (s : Settings) (language? title? : Option String) :
    List SourceFile → m (List FileReport)
  | [] => return []
  | source :: others => do
    let report? ← analyzeFile files e s language? title? source
    return report?.toList ++ (← analyzeFiles e s language? title? others)

def sourcesAt (path : Text) (s : Settings) : Attempt m (List SourceFile) := do
  if ← ExceptT.lift (files.isFile path) then return [⟨path, path⟩]
  else
    attempt (fun (missing : SourceFile.Missing) => .missing missing.path)
      (SourceFile.collect files path (some s.filter))

def runAnalyze (path : String) (language? title? : Option String) (format : OutputFormat)
    (config? : Option String) : Attempt m Outcome := do
  let path := files.absolute path.toList
  if !(← ExceptT.lift (files.exists? path)) then throw (.missing path)
  let (s, e) ← prepare files path config?
  let sources ← sourcesAt files path s
  let reports ← ExceptT.lift (analyzeFiles files e s language? title? sources)
  let reports := FileReport.sorted reports
  return ⟨format.write (FileReport.table reports) (.ofList FileReport.toJson reports), true⟩

def runCheck (file time space : String) (language? : Option String) (format : OutputFormat)
    (config? : Option String) : Attempt m Outcome := do
  let path := files.absolute file.toList
  let code ← readSnippet files path
  let (s, e) ← prepare files path config?
  let c := e.check code (resolveLanguage language? (some path) s code) ⟨time, space⟩
  return ⟨format.write c.text c.toJson, c.valid⟩

def readClaims (path? : Option String) : Attempt m (Triple Claim) := do
  match path? with
  | none => return {}
  | some path =>
    let document ← readSnippet files path.toList
    attempt (.claims path.toList) (pure (Claim.readTriple document))

def readCode (path? : Option Text) : Attempt m (Option Text) := do
  match path? with
  | none => return none
  | some path => return some (← readSnippet files path)

def runTriple (title? brute? better? optimal? claims? language? : Option String)
    (format : OutputFormat) (config? : Option String) : Attempt m Outcome := do
  let absolute (path? : Option String) : Option Text :=
    path?.map fun path => files.absolute path.toList
  let paths : Triple Text := ⟨absolute brute?, absolute better?, absolute optimal?⟩
  if paths.isEmpty && claims?.isNone then throw .emptyTriple
  let firstPath? := paths.toList.head?.map (·.2)
  let (s, e) ← prepare files (firstPath?.getD files.workingDirectory) config?
  let code : Triple Text :=
    ⟨← readCode files paths.bruteForce, ← readCode files paths.better,
      ← readCode files paths.optimal⟩
  let claims ← readClaims files claims?
  let firstCode := (code.toList.head?.map (·.2)).getD []
  let language := resolveLanguage language? firstPath? s firstCode
  let c := e.reconcile (title?.map String.toList) language code claims
  return ⟨format.write c.text c.toJson, c.valid⟩

/-- The settings in the working directory, whatever repository it belongs to. -/
def loadHere (path? : Option String) : Attempt m Settings :=
  attempt .settings (Settings.load files files.workingDirectory (path?.map String.toList))

def runValidateConfig (path? : Option String) : Attempt m Outcome := do
  let s ← loadHere files path?
  let _ ← attempt .engine (Engine.load files s)
  match s.source? with
  | some path => return ⟨"Config valid: " ++ String.ofList path ++ "\n", true⟩
  | none => return ⟨"No config file found. Using defaults.\n", true⟩

def settingsText (s : Settings) : String :=
  String.join [
    "Configuration:\n  Source: ",
    (s.source?.map String.ofList).getD "defaults (no config file found)",
    "\n\nAnalysis:\n  fingerprint_threshold: ",
    ConfigFault.realText s.fingerprintThreshold,
    "\n  claim_confidence: ",
    ConfigFault.realText s.claimConfidence,
    "\n  language: ",
    (s.language?.map Language.name).getD "inferred",
    "\n  disabled_hazards: ",
    if s.disabledHazards.isEmpty then "none" else ", ".intercalate s.disabledHazards,
    "\n  ground_truth: ",
    (s.groundTruth?.map String.ofList).getD "built-in only",
    "\n\nFilters:\n  include: ",
    if s.filter.included?.isSome then "custom patterns" else "all supported files",
    "\n  exclude: ",
    String.ofList (Nat.toDigits 10 s.filter.excluded.length),
    " patterns\n"]

def runShowConfig (path? : Option String) : Attempt m Outcome := do
  let s ← loadHere files path?
  return ⟨settingsText s, true⟩

def run : Command → Attempt m Outcome
  | analyze path language? title? format config? =>
    runAnalyze files path language? title? format config?
  | check file time space language? format config? =>
    runCheck files file time space language? format config?
  | triple title? brute? better? optimal? claims? language? format config? =>
    runTriple files title? brute? better? optimal? claims? language? format config?
  | validateConfig path? => runValidateConfig files path?
  | showConfig path? => runShowConfig files path?

def execute (arguments : List String) : m (Except CommandFailure Outcome) := do
  match read arguments with
  | .error fault => return .error (.usage fault)
  | .ok command => (run files command).run

end Command
end Asymptote
