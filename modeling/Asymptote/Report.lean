import Asymptote.Engine

/-! # Reports
Verdicts as documents and as text, for single snippets and for many files. -/
namespace Asymptote

/-! ## Verdicts as documents
The fields of every verdict in the order in which they are written. -/

namespace Complexity

def toJson (c : Complexity) : Json :=
  .string c.canonical

end Complexity

namespace SpaceMetrics

def toJson (m : SpaceMetrics) : Json :=
  .object [("peak", m.peak.toJson), ("total", m.total.toJson)]

end SpaceMetrics

namespace Correction

def toJson (c : Correction) : Json :=
  .object [
    ("approach", .string c.approach.name),
    ("field", .string c.field.name),
    ("old_value", .string c.oldValue),
    ("new_value", .string c.newValue),
    ("reason", .string c.reason)]

end Correction

namespace Analysis

def toJson (a : Analysis) : Json :=
  .object [
    ("time_complexity", a.time.toJson),
    ("time_complexity_reason", .string a.timeReason),
    ("space_complexity", a.space.toJson),
    ("space_complexity_reason", .string a.spaceReason),
    ("space_metrics", a.spaceMetrics.toJson),
    ("pattern", .ofOption .string a.pattern?),
    ("confidence", .real a.confidence),
    ("source", .string a.source),
    ("corrections_applied", .ofList Correction.toJson a.corrections)]

end Analysis

namespace ClaimCheck

def toJson (c : ClaimCheck) : Json :=
  .object [("valid", .bool c.valid), ("corrected_result", c.corrected.toJson)]

end ClaimCheck

namespace Solution

def toJson (s : Solution) : Json :=
  .object [
    ("time_complexity", s.time.toJson),
    ("space_complexity", s.space.toJson),
    ("reason", .string s.reason),
    ("algorithm", .ofOption .string s.algorithm?),
    ("source", .string s.source),
    ("confidence", .real s.confidence)]

end Solution

namespace Triple

variable {α : Type}

def toJson (encode : α → Json) (t : Triple α) : Json :=
  .object [
    ("brute_force", .ofOption encode t.bruteForce),
    ("better", .ofOption encode t.better),
    ("optimal", .ofOption encode t.optimal)]

end Triple

namespace Consensus

def toJson (c : Consensus) : Json :=
  .object [
    ("valid", .bool c.valid),
    ("source", .string c.source),
    ("confidence", .real c.confidence),
    ("solution", c.solution.toJson Solution.toJson),
    ("corrections", .ofList Correction.toJson c.corrections),
    ("notes", .ofList .string c.notes)]

end Consensus

/-! ## Verdicts as text
Verdicts for readers: reasons next to the classes, corrections indented below. Confidences have two
places. -/

def column (width : Nat) (s : String) : String :=
  s ++ String.ofList (List.replicate (width - s.length) ' ')

def confidenceText (confidence : Float) : String :=
  String.ofList (Decimal.fixed 2 confidence)

def CorrectedField.label : CorrectedField → String
  | time => "time"
  | space => "space"
  | presence => "presence"

namespace Correction

def text (c : Correction) : String :=
  "  corrected " ++ c.approach.name ++ " " ++ c.field.label ++ ": " ++ c.oldValue ++ " -> " ++
    c.newValue ++ " (" ++ c.reason ++ ")\n"

def texts (corrections : List Correction) : String :=
  String.join (corrections.map text)

end Correction

def verdictWord (valid : Bool) : String :=
  if valid then "VALID" else "CORRECTED"

namespace Analysis

def text (a : Analysis) : String :=
  "time:   " ++ a.time.canonical ++ "  (" ++ a.timeReason ++ ")\n" ++
    "space:  " ++ a.space.canonical ++ "  (" ++ a.spaceReason ++ ")\n" ++
    (if a.spaceMetrics.total = a.spaceMetrics.peak then ""
      else
        "        peak " ++ a.spaceMetrics.peak.canonical ++ ", total " ++
          a.spaceMetrics.total.canonical ++ "\n") ++
    (match a.pattern? with
      | none => ""
      | some pattern => "pattern: " ++ pattern ++ "\n") ++
    "source: " ++ a.source ++ " (confidence " ++ confidenceText a.confidence ++ ")\n" ++
    Correction.texts a.corrections

end Analysis

namespace ClaimCheck

def text (c : ClaimCheck) : String :=
  verdictWord c.valid ++ "\n" ++ c.corrected.text

end ClaimCheck

namespace Consensus

def row (slot time space source : String) : String :=
  column 12 slot ++ " " ++ column 14 time ++ " " ++ column 14 space ++ " " ++ source ++ "\n"

def slotRow (c : Consensus) (slot : Approach) : String :=
  match c.solution.get? slot with
  | none => row slot.name "-" "-" "-"
  | some s => row slot.name s.time.canonical s.space.canonical s.source

def text (c : Consensus) : String :=
  verdictWord c.valid ++ " (source " ++ c.source ++ ", confidence " ++
    confidenceText c.confidence ++ ")\n" ++
    row "APPROACH" "TIME" "SPACE" "SOURCE" ++
    c.slotRow .bruteForce ++ c.slotRow .better ++ c.slotRow .optimal ++
    Correction.texts c.corrections ++
    String.join (c.notes.map fun note => "  note: " ++ note ++ "\n")

end Consensus

/-! ## Reports on files
The verdicts on several files in a fixed order, as a table or as a document. -/

structure FileReport where
  file : String
  language : String
  result : Analysis
  deriving Repr

namespace FileReport

/-- The report does not go behind another: the file decides, then the language. -/
def precedes (a b : FileReport) : Bool :=
  a.file < b.file || (a.file = b.file && !(b.language < a.language))

def sorted (reports : List FileReport) : List FileReport :=
  reports.mergeSort precedes

def sourceWidth : Nat := 24

def sourceCell (source : String) : String :=
  if sourceWidth < source.length then
    String.ofList (source.toList.take (sourceWidth - 3)) ++ "..."
  else source

def row (time space confidence source file : String) : String :=
  column 14 time ++ " " ++ column 14 space ++ " " ++ column 6 confidence ++ " " ++
    column sourceWidth source ++ " " ++ file ++ "\n"

def text (r : FileReport) : String :=
  row r.result.time.canonical r.result.space.canonical (confidenceText r.result.confidence)
    (sourceCell r.result.source) r.file ++ Correction.texts r.result.corrections

def table (reports : List FileReport) : String :=
  row "TIME" "SPACE" "CONF" "SOURCE" "FILE" ++ String.join (reports.map text)

def toJson (r : FileReport) : Json :=
  .object [
    ("file", .string r.file),
    ("language", .string r.language),
    ("result", r.result.toJson)]

def document (reports : List FileReport) : String :=
  (Json.ofList toJson reports).pretty

end FileReport
end Asymptote
