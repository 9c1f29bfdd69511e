import Asymptote.Engine
import Asymptote.Glob

/-! # Configuration
What a project may set: which files count, how sure a match and a claim have to be, which hazards
are skipped, where more ground truth is and which language is meant by default. A configuration as
it is written is checked and becomes `Settings`. -/
namespace Asymptote

structure Config where
  included : List String := []
  excluded : List String := []
  fingerprintThreshold? : Option Float := none
  claimConfidence? : Option Float := none
  disabledHazards : List String := []
  groundTruth? : Option String := none
  language? : Option String := none
  deriving Repr

inductive ConfigFault where
  | fingerprintThreshold (value : Float)
  | claimConfidence (value : Float)
  | unknownHazard (name : String)
  | unknownLanguage (tag : String)
  | includedPattern (pattern : String) (cause : GlobFault)
  | excludedPattern (pattern : String) (cause : GlobFault)

namespace ConfigFault

def realStyle : Decimal.Style where
  isPositional _ := true
  keepsPoint := false
  tieUp := true

def realText (x : Float) : String :=
  String.ofList (Decimal.shortest realStyle x)

def quote (s : String) : String :=
  String.ofList (Text.quoted s.toList)

def message : ConfigFault → String
  | fingerprintThreshold x => "fingerprint_threshold must be in (0, 1] (got " ++ realText x ++ ")"
  | claimConfidence x => "claim_confidence must be in [0, 1] (got " ++ realText x ++ ")"
  | unknownHazard name => "disabled_hazards: unknown hazard " ++ quote name
  | unknownLanguage tag => "language: unrecognized language tag " ++ quote tag
  | includedPattern pattern _ => "invalid include pattern: " ++ pattern
  | excludedPattern pattern _ => "invalid exclude pattern: " ++ pattern

end ConfigFault

structure PathFilter where
  included? : Option (List Glob) := none
  excluded : List Glob

namespace PathFilter

/-- Exclusion goes before inclusion; without patterns to include every path is included. -/
def accepts (f : PathFilter) (path : Text) : Bool :=
  !(f.excluded.any (·.accepts path)) && f.included?.all fun globs => globs.any (·.accepts path)

end PathFilter

structure Settings where
  filter : PathFilter
  fingerprintThreshold : Float := 0.5
  claimConfidence : Float := 0.5
  disabledHazards : List String := []
  groundTruth? : Option Text := none
  language? : Option Language := none
  source? : Option Text := none

def Settings.engineSettings (s : Settings) : EngineSettings :=
  ⟨s.fingerprintThreshold, s.claimConfidence, s.disabledHazards⟩

namespace Config

def defaultExcluded : List String :=
  ["**/node_modules/**", "**/target/**", "**/vendor/**", "**/dist/**", "**/build/**",
    "**/.git/**", "**/__pycache__/**"]

def readPatterns (fault : String → GlobFault → ConfigFault) (patterns : List String) :
    Except ConfigFault (List Glob) :=
  patterns.mapM fun pattern => (Glob.read pattern.toList).mapError (fault pattern)

def checkThreshold : Option Float → Except ConfigFault Unit
  | none => .ok ()
  | some x => if 0 < x && x ≤ 1 then .ok () else .error (.fingerprintThreshold x)

def checkConfidence : Option Float → Except ConfigFault Unit
  | none => .ok ()
  | some x => if 0 ≤ x && x ≤ 1 then .ok () else .error (.claimConfidence x)

def checkHazards (names : List String) : Except ConfigFault Unit :=
  match names.find? fun name => !Hazard.isKnown name with
  | none => .ok ()
  | some name => .error (.unknownHazard name)

def readLanguage : Option String → Except ConfigFault (Option Language)
  | none => .ok none
  | some tag =>
    let l := Language.ofTag tag.toList
    if l = .unknown then .error (.unknownLanguage tag) else .ok (some l)

/-- Checks a configuration, in the order in which the faults are listed. Own patterns to exclude
replace the default ones. -/
def resolve (c : Config) : Except ConfigFault Settings := do
  checkThreshold c.fingerprintThreshold?
  checkConfidence c.claimConfidence?
  checkHazards c.disabledHazards
  let language? ← readLanguage c.language?
  let included ← readPatterns .includedPattern c.included
  let excluded ← readPatterns .excludedPattern
    (if c.excluded.isEmpty then defaultExcluded else c.excluded)
  .ok {
    filter :=
      { included? := if c.included.isEmpty then none else some included
        excluded }
    fingerprintThreshold := c.fingerprintThreshold?.getD 0.5
    claimConfidence := c.claimConfidence?.getD 0.5
    disabledHazards := c.disabledHazards
    groundTruth? := c.groundTruth?.map String.toList
    language? }

end Config

/-! ## Configuration documents
Configurations read from JSON. -/

namespace Config

open Json (Fault Field Reader)

def reader : Reader Config :=
  Reader.record {} [
    .defaulted "include" (.list .string) fun c included => { c with included },
    .defaulted "exclude" (.list .string) fun c excluded => { c with excluded },
    .defaulted "fingerprint_threshold" (.optional .real) fun c fingerprintThreshold? =>
      { c with fingerprintThreshold? },
    .defaulted "claim_confidence" (.optional .real) fun c claimConfidence? =>
      { c with claimConfidence? },
    .defaulted "disabled_hazards" (.list .string) fun c disabledHazards =>
      { c with disabledHazards },
    .defaulted "ground_truth" (.optional .string) fun c groundTruth? => { c with groundTruth? },
    .defaulted "language" (.optional .string) fun c language? => { c with language? }]

def read (document : Text) : Except Fault Config :=
  reader.document document

end Config

end Asymptote
