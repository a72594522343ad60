/-
**The stages of an artifact review, and the contracts of their outputs.**

* `Stage` — the five stages; `Stage.schema` — `STAGE_OUTPUT_SCHEMAS`.
* `itemsOf`, `textOf`, `flagOf` — the values of an output, by their keys.
* `get?_status_of_accepts` — an output that meets its schema has no status.
-/

import Audisor.Json.Schema

namespace Audisor.ArtifactFlow

open Json

/-! ### Stages -/

/-- `STAGES`. -/
inductive Stage where
  | gapFinding | gapFixing | evaluation | successCriteria | fixtureDesign
  deriving DecidableEq, Repr

def Stage.value : Stage → String
  | .gapFinding => "gap_finding"
  | .gapFixing => "gap_fixing"
  | .evaluation => "evaluation"
  | .successCriteria => "success_criteria"
  | .fixtureDesign => "fixture_design"

/-- `stage in _REPAIRABLE_STAGES`. -/
def Stage.isRepairable : Stage → Bool
  | .gapFinding | .gapFixing => true
  | .evaluation | .successCriteria | .fixtureDesign => false

/-- `_MAX_REPAIRED_FIELDS`. -/
def maxRepairedFields : Nat := 8

/-- `REPAIR_POLICY`. -/
def repairPolicy : String := "recorded-removal-v1"

/-! ### Schemas -/

/-- `_EVIDENCE_BASIS`. -/
def evidenceBasis : Schema := .text 1

/-- `_UNRESOLVED_GAP_ITEM`. -/
def unresolvedGapItem : Schema := .record
  ["gap", "why_unresolved", "required_to_resolve", "successful_resolution"]
  [("gap", .text 1), ("why_unresolved", .text 1), ("required_to_resolve", .list 0 (.text 1)),
    ("successful_resolution", .text 1)]

def gapItem : Schema := .record ["gap"]
  [("gap", .text 1),
    ("category", .oneOf ["missing", "weak", "unsupported", "contradictory", "risky"]),
    ("evidence_basis", evidenceBasis)]

def fixItem : Schema := .record ["gap", "fix"]
  [("gap", .text 1), ("fix", .text 1), ("evidence_basis", evidenceBasis)]

def findingItem : Schema := .record ["finding"]
  [("finding", .text 1), ("evidence", .list 0 (.text 1)), ("required_to_resolve", .list 0 (.text 1)),
    ("successful_resolution", .text 1)]

def criterionItem : Schema := .record ["criterion", "validation"]
  [("criterion", .text 1), ("validation", .text 1)]

def fixtureItem : Schema := .record ["name", "expectation"]
  [("name", .text 1), ("expectation", .text 1), ("setup", .text 0), ("criterion", .text 0)]

def Stage.required : Stage → List String
  | .gapFinding => ["gaps"]
  | .gapFixing => ["fixes", "unresolved", "improved_artifact"]
  | .evaluation => ["passed", "findings", "summary"]
  | .successCriteria => ["criteria"]
  | .fixtureDesign => ["fixture_cases"]

def Stage.properties : Stage → List (String × Schema)
  | .gapFinding => [("gaps", .list 0 gapItem)]
  | .gapFixing =>
    [("fixes", .list 0 fixItem), ("unresolved", .list 0 unresolvedGapItem),
      ("improved_artifact", .text 0)]
  | .evaluation =>
    [("passed", .flag), ("summary", .text 1), ("findings", .list 0 findingItem)]
  | .successCriteria => [("criteria", .list 1 criterionItem)]
  | .fixtureDesign => [("fixture_cases", .list 1 fixtureItem)]

/-- `STAGE_OUTPUT_SCHEMAS[stage]`. -/
def Stage.schema (stage : Stage) : Schema := .record stage.required stage.properties

/-! ### Reading an output -/

/-- `list(fields[key])`, of a list. -/
def itemsOf (fields : Dict) (key : String) : List Json :=
  match get? fields key with
  | some (.arr items) => items
  | _ => []

/-- `fields[key]`, of a text. -/
def textOf (fields : Dict) (key : String) : String :=
  match get? fields key with
  | some (.str text) => text
  | _ => ""

/-- `fields[key]`, of a boolean. -/
def flagOf (fields : Dict) (key : String) : Bool :=
  match get? fields key with
  | some (.bool value) => value
  | _ => false

/-- `item[key]`, of an item that is an object with a text. -/
def itemText (key : String) : Json → String
  | .obj fields => textOf fields key
  | _ => ""

/-- `fields.get("status") == "error"`. -/
def isError (fields : Dict) : Bool := get? fields "status" == some (.str "error")

/-- **An output that meets its schema has no status.** -/
theorem get?_status_of_accepts {stage : Stage} {fields : Dict}
    (accepted : stage.schema.accepts (.obj fields) = true) : get? fields "status" = none := by
  refine Schema.get?_eq_none_of_accepts accepted fun property member name => ?_
  revert property
  cases stage <;> simp [Stage.properties]

theorem isError_of_accepts {stage : Stage} {fields : Dict}
    (accepted : stage.schema.accepts (.obj fields) = true) : isError fields = false := by
  rw [isError, get?_status_of_accepts accepted]
  rfl

end Audisor.ArtifactFlow
