import Asymptote.GroundTruth.Table
import Asymptote.Json

/-! # Consensus
The evidence about the three approaches to a problem, merged into one corrected solution: each slot
is decided by the layer of the highest authority that says something about it, and then the
progression of the decided costs is repaired. Main definition: `Consensus.build`. -/
namespace Asymptote

/-! ## Layers
Opinions about a solution come from layers of fixed authority. The layer of the highest authority
decides, the greatest confidence among equals, and the first of exact ties. -/

inductive Layer where
  | groundTruth
  | ruleEngine
  | patternDetector
  | externalClaim
  deriving DecidableEq, Repr

namespace Layer

/-- Lower goes first. -/
def priority : Layer → Nat
  | groundTruth => 1
  | ruleEngine => 2
  | patternDetector => 3
  | externalClaim => 4

def name : Layer → String
  | groundTruth => "ground_truth"
  | ruleEngine => "rule_engine"
  | patternDetector => "pattern_detector"
  | externalClaim => "external_claim"

def all : List Layer := [groundTruth, ruleEngine, patternDetector, externalClaim]

end Layer

structure Opinion (α : Type) where
  layer : Layer
  confidence : Float
  candidate : α

namespace Opinion

variable {α : Type}

/-- The opinion goes before another that was found earlier. -/
def beats (o best : Opinion α) : Bool :=
  o.layer.priority < best.layer.priority ||
    (o.layer.priority = best.layer.priority && best.confidence < o.confidence)

def prefer (best o : Opinion α) : Opinion α :=
  if o.beats best then o else best

def rank : List (Opinion α) → Option (Opinion α)
  | [] => none
  | first :: others => some (others.foldl prefer first)

end Opinion

/-! ## Evidence
What is known about one slot of a triple before it is decided, and the solution that each layer
makes of it. -/

structure Claim where
  time : String := ""
  space : String := ""
  deriving DecidableEq, Repr

structure Solution where
  time : Complexity
  space : Complexity
  reason : String
  algorithm? : Option String
  source : String
  confidence : Float
  deriving Repr

def amortizedConfidence : Float := 0.8

namespace Solution

def cheaper (a b : Solution) : Bool :=
  a.time < b.time || (a.time = b.time && a.space < b.space)

def sameCost (a b : Solution) : Bool :=
  a.time = b.time && a.space = b.space

def description (a : Solution) : String :=
  a.time.canonical ++ " time, " ++ a.space.canonical ++ " space"

def ofKnown (known : GroundTruth.Known) (confidence : Float) : Solution where
  time := known.time
  space := known.space
  reason := known.explanation
  algorithm? := some known.algorithm
  source := Layer.groundTruth.name
  confidence := confidence

def ofAnalysis (a : Analysis) : Solution where
  time := a.time
  space := a.space
  reason := a.timeReason
  algorithm? := a.pattern?
  source := a.source
  confidence := a.confidence

def ofAmortized (v : AmortizedVerdict) : Solution where
  time := v.time
  space := v.space
  reason := v.reason
  algorithm? := some v.pattern
  source := "amortized:" ++ v.pattern
  confidence := amortizedConfidence

def ofClaim (time space : Complexity) (confidence : Float) : Solution where
  time := time
  space := space
  reason := "claimed"
  algorithm? := none
  source := Layer.externalClaim.name
  confidence := confidence

end Solution

namespace Claim

def classes? (c : Claim) : Option (Complexity × Complexity) :=
  match Complexity.read c.time.toList, Complexity.read c.space.toList with
  | .ok time, .ok space => some (time, space)
  | _, _ => none

def unreadable : String := "unparseable"

def unreadableCorrections (slot : Approach) (c : Claim) : List Correction :=
  let correction (field : CorrectedField) (text : String) : List Correction :=
    match Complexity.read text.toList with
    | .ok _ => []
    | .error e => [⟨slot, field, text, unreadable, e.message⟩]
  correction .time c.time ++ correction .space c.space

end Claim

structure Evidence where
  analysis? : Option Analysis := none
  amortized? : Option AmortizedVerdict := none
  claim? : Option Claim := none

namespace Evidence

def isEmpty (e : Evidence) : Bool :=
  e.analysis?.isNone && e.amortized?.isNone && e.claim?.isNone

def opinions (e : Evidence) (slot : Approach) (truth : Option GroundTruth.Finding)
    (claimConfidence : Float) : List (Opinion Solution) :=
  let known := truth.bind fun t => (t.entry.approaches.get? slot).map fun k =>
    ⟨.groundTruth, t.confidence, Solution.ofKnown k t.confidence⟩
  let analyzed := e.analysis?.map fun a => ⟨.ruleEngine, a.confidence, Solution.ofAnalysis a⟩
  let amortized := e.amortized?.map fun v =>
    ⟨.patternDetector, amortizedConfidence, Solution.ofAmortized v⟩
  let claimed := (e.claim?.bind Claim.classes?).map fun (time, space) =>
    ⟨.externalClaim, claimConfidence, Solution.ofClaim time space claimConfidence⟩
  known.toList ++ analyzed.toList ++ amortized.toList ++ claimed.toList

end Evidence

/-! ## Deciding a slot
The opinion that ranks first decides a slot. Every claimed value that it overrides, and every
claimed text that cannot be read, leaves a correction. -/

structure Decision where
  verdict? : Option (Layer × Solution) := none
  corrections : List Correction := []

namespace Decision

def overrides (slot : Approach) (layer : Layer) (decided : Solution)
    (time space : Complexity) : List Correction :=
  let reason := layer.name ++ " overrides the claim"
  (if time = decided.time then []
    else [⟨slot, .time, time.canonical, decided.time.canonical, reason⟩]) ++
  if space = decided.space then []
    else [⟨slot, .space, space.canonical, decided.space.canonical, reason⟩]

/-- Decides a slot. Without any evidence for the slot nothing is decided, whatever the ground truth
says. -/
def ofEvidence (truth : Option GroundTruth.Finding) (claimConfidence : Float) (slot : Approach)
    (e : Evidence) : Decision :=
  if e.isEmpty then {}
  else
    let unreadable := (e.claim?.map (Claim.unreadableCorrections slot)).getD []
    match Opinion.rank (e.opinions slot truth claimConfidence) with
    | none => { corrections := unreadable }
    | some o =>
      let overridden :=
        match e.claim?.bind Claim.classes? with
        | none => []
        | some (time, space) => overrides slot o.layer o.candidate time space
      ⟨some (o.layer, o.candidate), unreadable ++ overridden⟩

end Decision

/-! ## Repairing the progression
From brute force over better to optimal the cost has to fall. After the slots are decided the triple
is repaired step by step, and each step records what it changes. -/

structure Progression where
  solution : Triple Solution
  corrections : List Correction := []
  notes : List String := []

namespace Progression

variable (p : Progression)

def dropBetter (better : Solution) (reason : String) : Progression :=
  { p with
    solution := { p.solution with better := none }
    corrections :=
      p.corrections ++ [⟨.better, .presence, better.description, "absent", reason⟩] }

def dropWithoutLadder (truth : Option GroundTruth.Finding) : Progression :=
  match truth, p.solution.better with
  | some t, some better =>
    if t.entry.hasLadder then p
    else
      p.dropBetter better
        (t.entry.id ++ " has no intermediate approach between brute force and optimal")
  | _, _ => p

def swapInverted : Progression :=
  match p.solution.bruteForce, p.solution.optimal with
  | some brute, some optimal =>
    if brute.cheaper optimal then
      { p with
        solution := { p.solution with bruteForce := some optimal, optimal := some brute }
        corrections := p.corrections ++
          [⟨.optimal, .presence, optimal.description, brute.description,
              "optimal ranked worse than brute force; swapped"⟩,
            ⟨.bruteForce, .presence, brute.description, optimal.description,
              "brute force ranked better than optimal; swapped"⟩] }
    else p
  | _, _ => p

def dropIdentical : Progression :=
  match p.solution.better, p.solution.optimal with
  | some better, some optimal =>
    if better.sameCost optimal then
      p.dropBetter better "better has the same time and space as optimal"
    else p
  | _, _ => p

def dropUnordered : Progression :=
  match p.solution.better with
  | none => p
  | some better =>
    let aboveOptimal := p.solution.optimal.all fun o => o.cheaper better
    let belowBrute := p.solution.bruteForce.all fun b => better.cheaper b
    if aboveOptimal && belowBrute then p
    else p.dropBetter better "better does not sit strictly between brute force and optimal"

def promoteBrute : Progression :=
  match p.solution.bruteForce, p.solution.better, p.solution.optimal with
  | some brute, none, none =>
    { p with
      solution := { p.solution with optimal := some brute }
      notes := p.notes ++ ["brute force is already optimal"] }
  | _, _, _ => p

def repair (truth : Option GroundTruth.Finding) : Progression :=
  (p.dropWithoutLadder truth).swapInverted.dropIdentical.dropUnordered.promoteBrute

end Progression

/-! ## Consensus
All evidence about a triple of approaches merged into one corrected solution. Main definition:
`Consensus.build`. -/

structure Consensus where
  /-- Every claim stands unchanged. -/
  valid : Bool
  /-- The layer of the highest authority that decided some slot. -/
  source : String
  /-- The lowest confidence that decided some slot. -/
  confidence : Float
  solution : Triple Solution
  corrections : List Correction
  notes : List String
  deriving Repr

namespace Consensus

def highest : List Layer → Option Layer
  | [] => none
  | first :: others =>
    some (others.foldl (fun best l => if l.priority < best.priority then l else best) first)

/-- The lesser of two confidences. One that is no number gives way to the other. -/
def lesser (a c : Float) : Float :=
  if a.isNaN || c < a then c else a

def lowest : List Float → Option Float
  | [] => none
  | first :: others => some (others.foldl lesser first)

def build (truth : Option GroundTruth.Finding) (evidence : Triple Evidence)
    (claimConfidence : Float) : Consensus :=
  let decisions := evidence.map (Decision.ofEvidence truth claimConfidence)
  let solution (d : Option Decision) : Option Solution := (d.bind (·.verdict?)).map (·.2)
  let slots := decisions.toList.map (·.2)
  let verdicts := slots.filterMap (·.verdict?)
  let repaired := Progression.repair
    { solution :=
        ⟨solution decisions.bruteForce, solution decisions.better, solution decisions.optimal⟩
      corrections := slots.flatMap (·.corrections) }
    truth
  { valid := repaired.corrections.isEmpty
    source := ((highest (verdicts.map (·.1))).map Layer.name).getD "none"
    confidence := (lowest (verdicts.map (·.2.confidence))).getD 0.0
    solution := repaired.solution
    corrections := repaired.corrections
    notes := repaired.notes }

end Consensus

/-! ## Claims documents
The claims about a triple read from JSON: an object with a member for each claimed slot. -/

namespace Claim

open Json (Fault Field Reader)

def reader : Reader Claim :=
  Reader.record {} [
    .required "time" .string fun c time => { c with time },
    .required "space" .string fun c space => { c with space }]

def tripleReader : Reader (Triple Claim) :=
  Reader.record {} [
    .defaulted "brute_force" (.optional reader) fun t bruteForce => { t with bruteForce },
    .defaulted "better" (.optional reader) fun t better => { t with better },
    .defaulted "optimal" (.optional reader) fun t optimal => { t with optimal }]

def readTriple (document : Text) : Except Fault (Triple Claim) :=
  tripleReader.document document

end Claim

end Asymptote
