import Asymptote.Consensus
import Asymptote.GroundTruth.Dataset
import Asymptote.Hazard.Table
import Asymptote.Verdict.Space
import Asymptote.Verdict.Time

/-! # The engine
The verdict on a snippet. Hazards come first and end the matter; otherwise the rules derive a time
and a space from the features, and the clamps check them. Ground truth that fits outranks both. -/
namespace Asymptote

structure EngineSettings where
  fingerprintThreshold : Float := 0.5
  claimConfidence : Float := 0.5
  disabledHazards : List String := []
  deriving Repr

structure Engine where
  groundTruth : GroundTruth.Table := GroundTruth.builtin
  settings : EngineSettings := {}

structure ClaimCheck where
  valid : Bool
  corrected : Analysis
  deriving Repr

structure Heuristic where
  verdict : Analysis
  amortized? : Option AmortizedVerdict

namespace Heuristic

def ruleConfidence (source? : Option CandidateSource) : Float :=
  match source? with
  | some source => if source.hasPriority then 0.85 else 0.75
  | none => 0.6

def ofFeatures (f : FeatureSet) : Analysis :=
  let time := f.time
  let space := f.spaceVerdict
  { time := time.complexity
    timeReason := time.explanation
    space := space.complexity
    spaceReason := space.explanation
    spaceMetrics := space.metrics
    pattern? := f.metrics.dominantPattern?
    confidence := ruleConfidence time.source?
    source := Layer.ruleEngine.name }

def ofSnippet (s : Snippet) (disabled : List String) : Heuristic :=
  match Hazard.find? s disabled with
  | some hazard => ⟨hazard.verdict, none⟩
  | none =>
    let forest := LoopForest.ofSnippet s
    let features := FeatureSet.ofForest s forest
    ⟨(ofFeatures features).verify features, AmortizedVerdict.detect? s forest⟩

end Heuristic

namespace Engine

def ofAmortized (v : AmortizedVerdict) : Analysis where
  time := v.time
  timeReason := v.reason
  space := v.space
  spaceReason := v.reason
  pattern? := some v.pattern
  confidence := amortizedConfidence
  source := "amortized:" ++ v.pattern

/-- A title always stands. A fingerprint stands only if some approach of the entry has the time that
analysis found. -/
def agrees (finding : GroundTruth.Finding) (heuristic : Analysis) : Bool :=
  finding.kind = .title || (finding.entry.closest heuristic.time).2.time = heuristic.time

def ofGroundTruth (finding : GroundTruth.Finding) (heuristic : Analysis) : Analysis :=
  let (slot, known) := finding.entry.closest heuristic.time
  let id := finding.entry.id
  let reason := id ++ " (" ++ slot.name ++ "): " ++ known.explanation
  let why := "ground truth for " ++ id
  { time := known.time
    timeReason := reason
    space := known.space
    spaceReason := reason
    pattern? := some id
    confidence := finding.confidence
    source := Layer.groundTruth.name
    corrections :=
      (if heuristic.time = known.time then []
        else [⟨.single, .time, heuristic.time.canonical, known.time.canonical, why⟩]) ++
      if heuristic.space = known.space then []
        else [⟨.single, .space, heuristic.space.canonical, known.space.canonical, why⟩] }

variable (e : Engine)

def lookup? (s : Snippet) (title : Option Text) : Option GroundTruth.Finding :=
  e.groundTruth.lookup? s title e.settings.fingerprintThreshold

def analyzeSnippet (s : Snippet) (title : Option Text) : Analysis :=
  let h := Heuristic.ofSnippet s e.settings.disabledHazards
  let truth := (e.lookup? s title).filter fun finding => agrees finding h.verdict
  let amortized := h.amortized?.map fun v =>
    ⟨.patternDetector, amortizedConfidence, ofAmortized v⟩
  let known := truth.map fun finding =>
    ⟨.groundTruth, finding.confidence, ofGroundTruth finding h.verdict⟩
  let opinions : List (Opinion Analysis) :=
    ⟨.ruleEngine, h.verdict.confidence, h.verdict⟩ :: (amortized.toList ++ known.toList)
  ((Opinion.rank opinions).map (·.candidate)).getD h.verdict

def analyze (code : Text) (l : Language) (title : Option Text) : Analysis :=
  e.analyzeSnippet (Snippet.ofCode l code) title

def claimCorrection (field : CorrectedField) (claimed : String) (reported : Complexity)
    (override : String) : List Correction :=
  match Complexity.read claimed.toList with
  | .ok c =>
    if c = reported then []
    else [⟨.single, field, c.canonical, reported.canonical, override⟩]
  | .error unknown => [⟨.single, field, claimed, reported.canonical, unknown.message⟩]

def check (code : Text) (l : Language) (claim : Claim) : ClaimCheck :=
  let a := e.analyze code l none
  let override (reason : String) : String := a.source ++ " overrides the claim: " ++ reason
  let corrections :=
    claimCorrection .time claim.time a.time (override a.timeReason) ++
      claimCorrection .space claim.space a.space (override a.spaceReason)
  ⟨corrections.isEmpty, a.noting corrections⟩

def evidence? (l : Language) (code : Option Text) (claim : Option Claim) : Option Evidence :=
  if code.isNone && claim.isNone then none
  else
    let heuristic := code.map fun c =>
      Heuristic.ofSnippet (Snippet.ofCode l c) e.settings.disabledHazards
    some
      { analysis? := heuristic.map (·.verdict)
        amortized? := heuristic.bind (·.amortized?)
        claim? := claim }

def tripleTruth? (title : Option Text) (l : Language) (code : Triple Text) :
    Option GroundTruth.Finding :=
  match title.bind e.groundTruth.byTitle? with
  | some entry => some ⟨entry, .title, 1.0⟩
  | none => (code.optimal <|> code.bruteForce).bind fun c => e.lookup? (Snippet.ofCode l c) none

def tripleEvidence (l : Language) (code : Triple Text) (claims : Triple Claim) : Triple Evidence :=
  ⟨e.evidence? l code.bruteForce claims.bruteForce, e.evidence? l code.better claims.better,
    e.evidence? l code.optimal claims.optimal⟩

def reconcile (title : Option Text) (l : Language) (code : Triple Text) (claims : Triple Claim) :
    Consensus :=
  Consensus.build (e.tripleTruth? title l code) (e.tripleEvidence l code claims)
    e.settings.claimConfidence

end Engine
end Asymptote
