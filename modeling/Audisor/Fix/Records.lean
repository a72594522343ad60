/-
**The records of a Fix operation.**

* `Finding`, `FixScopedManifest`, `Statement`, `PlanStep`, `ImplementationPlan` — what the scan and the
  planner hand over. `FindingCheck`, `ValidationSpec`, `SuccessDefinition` — what the model answers.
* `FixScopedManifest.validate`, `ImplementationPlan.validate` — the checks of the two records, with the
  messages of their errors.
* `AcceptedFixOperation` — what is dispatched.
* `plain` — a record as `_plain` writes it.
-/

import Audisor.Json.Value
import Mathlib.Data.List.AList

namespace Audisor.Fix

open Json

/-! ### Dictionaries -/

/-- A Python `dict` with keys of text and values of one type. -/
abbrev Table (α : Type) := AList fun _ : String => α

def textsJson (texts : List String) : Json := .arr (texts.map .str)

def tableJson {α : Type} (write : α → Json) (table : Table α) : Json :=
  .obj (table.entries.map fun entry => (entry.1, write entry.2))

/-! ### Findings and statements -/

/-- One finding of the scan. -/
structure Finding where
  id : String
  type : String
  file : String
  severity : String
  evidence : Json

def Finding.plain (finding : Finding) : Json :=
  .obj [("id", .str finding.id), ("type", .str finding.type), ("file", .str finding.file),
    ("severity", .str finding.severity), ("evidence", finding.evidence)]

/-- `finding.evidence if isinstance(finding.evidence, dict) else {}`. -/
def Finding.evidenceFields (finding : Finding) : Dict :=
  match finding.evidence with
  | .obj fields => fields
  | _ => []

structure Statement where
  type : String
  content : Dict
  findingsRefHash : String
  manifestRefHash : String

def Statement.plain (statement : Statement) : Json :=
  .obj [("type", .str statement.type), ("content", .obj statement.content),
    ("findings_ref_hash", .str statement.findingsRefHash),
    ("manifest_ref_hash", .str statement.manifestRefHash)]

/-! ### The manifest -/

/-- The files a fix may touch and read. -/
structure FixScopedManifest where
  files : List String
  dependencyClosure : List String
  inputHash : String
  fileHashes : Table String
  dependencyEvidence : Table (List Dict)

def evidenceKeys : List String :=
  ["originating_finding_id", "dependency_source", "dependency_target", "inclusion_reason",
    "resolution_evidence"]

/-- A record has exactly these keys, with a text that is not empty under each. -/
def isEvidenceRecord (record : Dict) : Bool :=
  (record.all fun field => field.1 ∈ evidenceKeys) &&
    evidenceKeys.all fun key =>
      match get? record key with
      | some (.str text) => text ≠ ""
      | _ => false

/-- `set(first) == set(second)`. -/
def sameSet (first second : List String) : Bool :=
  (first.all fun item => item ∈ second) && second.all fun item => item ∈ first

/-- The texts `SHA-256` writes. -/
def isHexDigest (text : String) : Bool :=
  text.length == 64 && text.toList.all fun c => c.isDigit || ('a' ≤ c && c ≤ 'f')

/-- `manifest.validate()`. -/
def FixScopedManifest.validate (manifest : FixScopedManifest) : Except String Unit :=
  if manifest.inputHash = "" ∨ ¬ manifest.files.Nodup then .error "invalid scoped manifest"
  else if ¬ manifest.files.all fun file => file ∈ manifest.dependencyClosure then
    .error "scoped files must be in dependency closure"
  else if manifest.fileHashes.keys ≠ [] ∧
      ¬ sameSet manifest.fileHashes.keys manifest.dependencyClosure then
    .error "scoped file hashes must match dependency closure"
  else if ¬ manifest.fileHashes.entries.all fun entry => isHexDigest entry.2 then
    .error "scoped file hashes must be SHA-256 values"
  else if ¬ manifest.dependencyEvidence.keys.all fun path => path ∈ manifest.dependencyClosure then
    .error "dependency evidence contains an out-of-scope file"
  else
    match manifest.dependencyEvidence.entries.find? fun entry => !entry.2.all isEvidenceRecord with
    | some entry => .error ("invalid dependency evidence:" ++ entry.1)
    | none => .ok ()

def FixScopedManifest.plain (manifest : FixScopedManifest) : Json :=
  .obj [("files", textsJson manifest.files),
    ("dependency_closure", textsJson manifest.dependencyClosure),
    ("input_hash", .str manifest.inputHash), ("file_hashes", tableJson .str manifest.fileHashes),
    ("dependency_evidence",
      tableJson (fun records => .arr (records.map .obj)) manifest.dependencyEvidence)]

/-! ### The plan -/

/-- One step of a plan. A model may state any value as its acceptance criterion. -/
structure PlanStep where
  id : String
  action : String
  targetFile : String
  originatingFindingId : String
  acceptanceCriterion : Json

def PlanStep.plain (step : PlanStep) : Json :=
  .obj [("id", .str step.id), ("action", .str step.action), ("target_file", .str step.targetFile),
    ("originating_finding_id", .str step.originatingFindingId),
    ("acceptance_criterion", step.acceptanceCriterion)]

structure MinorIssue where
  type : String
  stepId : String
  detail : String

def MinorIssue.plain (issue : MinorIssue) : Json :=
  .obj [("type", .str issue.type), ("step_id", .str issue.stepId), ("detail", .str issue.detail)]

structure ImplementationPlan where
  steps : List PlanStep
  targetFiles : List String
  isQualified : Bool
  minorIssues : List MinorIssue

/-- `plan.validate(manifest)`. -/
def ImplementationPlan.validate (plan : ImplementationPlan) (manifest : FixScopedManifest) :
    Except String Unit :=
  if plan.steps.isEmpty ∨ plan.targetFiles = [] then .error "plan_incomplete"
  else if ¬ plan.isQualified then .error "plan is not qualified"
  else if ¬ plan.steps.all fun step => step.targetFile ∈ manifest.files then
    .error "plan target is outside scoped manifest"
  else if ¬ sameSet plan.targetFiles (plan.steps.map PlanStep.targetFile) then
    .error "plan target_files mismatch"
  else if ¬ plan.steps.all fun step => step.originatingFindingId ≠ "" then
    .error "originating_finding_id is required"
  else .ok ()

def ImplementationPlan.plain (plan : ImplementationPlan) : Json :=
  .obj [("steps", .arr (plan.steps.map PlanStep.plain)),
    ("target_files", textsJson plan.targetFiles), ("is_qualified", .bool plan.isQualified),
    ("minor_issues", .arr (plan.minorIssues.map MinorIssue.plain))]

/-! ### The success definition -/

structure FindingCheck where
  findingId : String
  resolutionMethod : String
  check : String
  expectedResult : String

def FindingCheck.plain (check : FindingCheck) : Json :=
  .obj [("finding_id", .str check.findingId), ("resolution_method", .str check.resolutionMethod),
    ("check", .str check.check), ("expected_result", .str check.expectedResult)]

structure ValidationSpec where
  id : String
  commandOrAssertion : String
  expectedResult : String

def ValidationSpec.plain (validation : ValidationSpec) : Json :=
  .obj [("id", .str validation.id), ("command_or_assertion", .str validation.commandOrAssertion),
    ("expected_result", .str validation.expectedResult)]

structure SuccessDefinition where
  findingChecks : List FindingCheck
  validations : List ValidationSpec
  mustNotRegress : List String
  successRule : String

/-! ### The operation -/

/-- What is dispatched. `aflowAnalysisRequestPresent` tells a request that was not supplied from one
that was supplied as `null`. -/
structure AcceptedFixOperation where
  operationId : String
  findings : List Finding
  manifest : FixScopedManifest
  statements : Vector Statement 3
  plan : ImplementationPlan
  workspaceIdentity : Dict
  authorityContext : Dict
  aflowAnalysisRequest : Option Dict
  authorityDecisions : Option (Table Json)
  aflowAnalysisRequestPresent : Bool

/-! ### What the checks give -/

/-- **The targets of a validated plan are files of the manifest.** -/
theorem ImplementationPlan.target_mem {plan : ImplementationPlan} {manifest : FixScopedManifest}
    (valid : plan.validate manifest = .ok ()) {step : PlanStep} (member : step ∈ plan.steps) :
    step.targetFile ∈ manifest.files := by
  rw [validate] at valid
  split_ifs at valid with empty qualified inside
  simpa using List.all_eq_true.mp inside step member

end Audisor.Fix
