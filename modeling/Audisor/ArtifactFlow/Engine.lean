/-
**The engine of artifact reviews.**

* `FlowOp` — what a run asks: the stage worker, the clock, the persisted results, the marker of an
  active run.
* `executeStage` — one stage: bounded errors, recorded repair, strict validation.
* `runStagePipeline` — the stages, the barrier of unresolved gaps, and the one repair cycle.
* `finish` — what every exit adds to a result, and persists.
* **`runArtifactLifecycle`** — one review.
-/

import Audisor.Aflow.Hashing
import Audisor.ArtifactFlow.StageContracts
import Audisor.Interaction.Program
import Audisor.Json.Str
import Audisor.Lifecycle.Contracts

namespace Audisor.ArtifactFlow

open Interaction Json
open Audisor.Aflow (Sha256 remove)
open Audisor.Lifecycle (Raised keyError holdsText)

/-! ### What a run asks -/

/-- How a worker answers a stage. -/
inductive WorkerAnswer where
  | output (value : Json)
  | late
  | provider (code detail internalDetail : String)
  | raised (typeName message : String)

/-- What `read_last_result` gives, or its `PersistedResultError`. -/
inductive LastResult where
  | absent
  | found (result : Dict)
  | damaged (detail statePath failure : String)

/-- The error of a configuration or of a readiness check that does not admit a submission. -/
structure Refusal where
  stage : String
  issueCode : String
  detail : String

/-- What a worker reports of its progress in a stage. -/
structure Progress where
  provider : String
  attempt : Int
  elapsedSeconds : Json
  remainingSeconds : Json
  updatedAt : String

/-- A question of a run. The names of markers are those of their files. -/
inductive FlowOp where
  | progressReports (stage : Stage)
  | runStage (stage : Stage) (payload : Dict)
  | clock
  | newRunId
  | lastResult (artifactId : String)
  | admission
  | snapshot (trigger : Dict) (digest runId : String) (revision : Json)
  | recordRun (result : Dict)
  | createIssue (result : Dict)
  | linkRetry (runId : String)
  | persistResult (artifactId : String) (result : Dict)
  | markerIsFile (name : String)
  | markerIsFresh (name : String)
  | readMarker (name : String)
  | truncateMarker (name : String)
  | writeMarker (name : String) (marker : Dict)
  | replaceMarker (name : String) (marker : Dict)
  | unlinkMarker (name : String)

/-- What a question is answered with. A step on a marker that raises an `OSError` is answered with
`none` or `false`. -/
def FlowOp.Answer : FlowOp → Type
  | .progressReports _ => List Progress
  | .runStage _ _ => WorkerAnswer
  | .clock | .newRunId => String
  | .lastResult _ => LastResult
  | .admission => Option Refusal
  | .snapshot _ _ _ _ => Option String
  | .recordRun _ | .createIssue _ | .linkRetry _ => Option Raised
  | .persistResult _ _ => Option String
  | .markerIsFile _ => Bool
  | .markerIsFresh _ => Option Bool
  | .readMarker _ => Dict
  | .truncateMarker _ | .writeMarker _ _ | .replaceMarker _ _ => Bool
  | .unlinkMarker _ => Unit

abbrev flowSignature : Signature := ⟨FlowOp, FlowOp.Answer⟩

/-- A computation of a run. -/
abbrev Flow := Program flowSignature Raised

def ask (op : FlowOp) : Flow op.Answer := .ask (S := flowSignature) op .done

def raiseIf : Option Raised → Flow Unit
  | some error => .raise error
  | none => return ()

/-- What a run takes from its host. -/
structure Host where
  sha : Sha256
  repr : PythonRepr
  /-- The directory of the persisted results. -/
  artifactsDir : String
  /-- The time limit of a stage, as it is printed. -/
  stageTimeout : String
  /-- The path and the message of the first violation of a schema, by its path. -/
  firstViolation : Stage → Dict → String × String

variable (host : Host)

/-! ### Identity -/

/-- `_canonical_content(text)`. -/
def canonicalContent (text : String) : String := String.ofList (Text.universalNewlines text.toList)

/-- `_content_digest(content)`. -/
def contentDigest (content : String) : String := host.sha.hexdigest (canonicalContent content)

/-- `_submission_digest(content, trigger)`. -/
def submissionDigest (content : String) (trigger : Dict) : String :=
  host.sha.hexdigest ((sortKeys (settled (.obj
    [("content", .str (canonicalContent content)),
      ("artifact_type", getD trigger "artifact_type" .null),
      ("intent", getD trigger "intent" .null),
      ("context", getD trigger "context" .null)]))).dumps { ensureAscii := false })

/-- `text.strip()` is empty. -/
def isBlank (text : String) : Bool := (Text.strip text.toList).isEmpty

/-! ### Stages -/

/-- The evidence that a run gathers. -/
structure Evidence where
  repairs : List Json := []
  repairCycles : Nat := 0
  evaluationRepair : Option Dict := none

/-- A computation that gathers evidence. -/
abbrev Staged := StateT Evidence Flow

def stageError (stage : Stage) (issueCode detail : String) : Dict :=
  [("status", .str "error"), ("stage", .str stage.value), ("issue_code", .str issueCode),
    ("detail", .str detail)]

def validated (stage : Stage) (fields : Dict) : Dict :=
  if stage.schema.accepts (.obj fields) then fields
  else stageError stage "stage_schema_error" ("worker output failed stage schema at " ++
    (host.firstViolation stage fields).1 ++ ": " ++ (host.firstViolation stage fields).2)

/-- `_prune_to_schema(STAGE_OUTPUT_SCHEMAS[stage], dict(output))`. -/
def pruneOutput (stage : Stage) (fields : Dict) : Dict × List Json :=
  match stage.schema.prune "$" (.obj fields) with
  | (.obj kept, removed) =>
    (kept, removed.map fun entry => .obj [("path", .str entry.1), ("removed", entry.2)])
  | _ => (fields, [])

/-- What becomes of the answer of a worker: the output or an error, and what was removed. -/
def stageOutcome (stage : Stage) : WorkerAnswer → Dict × List Json
  | .late =>
    (stageError stage "provider_timeout" ("stage timed out after " ++ host.stageTimeout ++ "s"), [])
  | .provider code detail internalDetail =>
    (stageError stage code detail ++ [("provider_error_detail", .str internalDetail)], [])
  | .raised typeName message => (stageError stage "unknown" (typeName ++ ": " ++ message), [])
  | .output (.obj fields) =>
    if stage.isRepairable then
      let (repaired, removed) := pruneOutput stage fields
      if maxRepairedFields < removed.length then
        (stageError stage "stage_schema_error" ("worker output required removing " ++
          toString removed.length ++ " unknown fields (ceiling " ++ toString maxRepairedFields ++
          "); treating as malformed"), [])
      else (validated host stage repaired, removed)
    else (validated host stage fields, [])
  | .output _ => (stageError stage "stage_schema_error" "worker output is not an object", [])

def Progress.fields (stage : Stage) (progress : Progress) : Dict :=
  [("stage", .str stage.value), ("provider", .str progress.provider),
    ("provider_attempt", .int progress.attempt), ("elapsed_seconds", progress.elapsedSeconds),
    ("remaining_seconds", progress.remainingSeconds), ("updated_at", .str progress.updatedAt)]

/-- `update_active_progress(marker_path, ..)`. -/
def updateActiveProgress (marker : Option String) (stage : Stage) (progress : Progress) :
    Flow Unit :=
  match marker with
  | none => return ()
  | some name => do
    let there : Bool ← ask (.markerIsFile name)
    if there then
      let current : Dict ← ask (.readMarker name)
      let fields := (progress.fields stage).foldl (fun fields field => set fields field.1 field.2)
        current
      let _ ← ask (.replaceMarker name fields)

variable (marker : Option String)

/-- `_execute_stage(worker, stage, payload, ..)`: a managed worker reports its progress. -/
def executeStage (stage : Stage) (payload : Dict) : Staged Dict := do
  let reports ← (ask (.progressReports stage) : Flow (List Progress))
  reports.forM fun progress => (updateActiveProgress marker stage progress : Flow Unit)
  let answer ← (ask (.runStage stage payload) : Flow WorkerAnswer)
  let (outcome, removed) := stageOutcome host stage answer
  if removed ≠ [] then
    modify fun evidence => { evidence with
      repairs := evidence.repairs ++
        [.obj [("stage", .str stage.value), ("removed_fields", .arr removed)]] }
  return outcome

/-! ### Evaluation repair -/

/-- `_normalize_unresolved(entries)`. -/
def normalizeUnresolved (entries : List Json) : List Json :=
  entries.map fun entry =>
    match entry with
    | .obj fields => .obj
      [("gap", getD fields "gap" .null), ("why_unresolved", getD fields "why_unresolved" .null),
        ("required_to_resolve", .arr (itemsOf fields "required_to_resolve")),
        ("successful_resolution", getD fields "successful_resolution" .null)]
    | value => value

/-- `_evaluation_findings_as_unresolved(findings, why_unresolved)`. -/
def evaluationFindingsAsUnresolved (findings : List Json) (whyUnresolved : String) : List Json :=
  findings.map fun finding =>
    match finding with
    | .obj fields => .obj
      [("gap", getD fields "finding" .null), ("why_unresolved", .str whyUnresolved),
        ("required_to_resolve", .arr (itemsOf fields "required_to_resolve")),
        ("successful_resolution",
          getD fields "successful_resolution" (.str "the finding no longer applies to the artifact"))]
    | value => value

/-- One item of `_refix_contract(findings)`. -/
def refixItem (index : Nat) (fields : Dict) : Json :=
  let required := String.intercalate "; " ((itemsOf fields "required_to_resolve").map fun item =>
    match item with
    | .str text => text
    | _ => "")
  .obj
    [("finding_id", .str ("evaluation." ++ toString index)),
      ("deficiency", getD fields "finding" .null),
      ("evidence", .arr (itemsOf fields "evidence")),
      ("required_correction",
        .str (if required = "" then "correct the deficiency so it no longer applies" else required)),
      ("success_condition",
        getD fields "successful_resolution" (.str "the deficiency no longer applies to the artifact"))]

/-- `_refix_contract(findings)`. -/
def refixContract (findings : List Json) : List Json :=
  (findings.zipIdx 1).map fun (finding, index) =>
    match finding with
    | .obj fields => refixItem index fields
    | value => value

/-- `[{"gap": item["deficiency"]} for item in contract]`. -/
def deficiencies (contract : List Json) : List Json :=
  contract.map fun item => .obj [("gap", .str (itemText "deficiency" item))]

/-- `_unresolved_result(content, gap_findings, gap_fixes, unresolved_gaps)`. -/
def unresolvedResult (content : String) (gapFindings gapFixes unresolvedGaps : List Json) : Dict :=
  [("status", .str "unresolved_gap"), ("original_artifact", .str content),
    ("gap_findings", .arr gapFindings), ("gap_fixes", .arr gapFixes),
    ("unresolved_gaps", .arr unresolvedGaps), ("evaluation", .null), ("success_criteria", .null),
    ("fixture_cases", .null)]

def evaluationRecord (passed : Bool) (evaluated : Dict) : Dict :=
  [("passed", .bool passed), ("summary", getD evaluated "summary" .null),
    ("findings", .arr (itemsOf evaluated "findings"))]

/-- What a repair cycle hands on: a result that ends the run, or what the handoff goes on with. -/
inductive Repaired where
  | early (result : Dict)
  | passed (gapFixes : List Json) (improvedArtifact : String) (evaluated : Dict)

variable (common : Dict) (content : String) (gapFindings : List Json)

/-- `_verify_repair(..)`. -/
def verifyRepair (gapFixes : List Json) (refixed : Dict) (beforeRefix : String)
    (contract : List Json) (evaluated : Dict) : Staged Repaired := do
  if contentDigest host (textOf refixed "improved_artifact") = beforeRefix then
    return .early (unresolvedResult content gapFindings gapFixes
      (evaluationFindingsAsUnresolved (itemsOf evaluated "findings")
        "discovered during evaluation; repair cycle made no progress"))
  let gapFixes := gapFixes ++ itemsOf refixed "fixes"
  let improvedArtifact := textOf refixed "improved_artifact"
  let evaluated ← executeStage host marker .evaluation (common ++
    [("improved_artifact", .str improvedArtifact), ("gap_fixes", .arr gapFixes),
      ("verify_corrected", .arr contract)])
  if isError evaluated then return .early evaluated
  modify fun evidence => { evidence with
    evaluationRepair := evidence.evaluationRepair.map fun repair =>
      set repair "final_evaluation"
        (.obj (evaluationRecord (flagOf evaluated "passed") evaluated)) }
  if flagOf evaluated "passed" then return .passed gapFixes improvedArtifact evaluated
  return .early (unresolvedResult content gapFindings gapFixes
    (evaluationFindingsAsUnresolved (itemsOf evaluated "findings")
      "discovered during evaluation; unresolved after one repair cycle"))

/-- `_run_repair_cycle(..)`. -/
def runRepairCycle (gapFixes : List Json) (improvedArtifact : String) (evaluated : Dict) :
    Staged Repaired := do
  let contract := refixContract (itemsOf evaluated "findings")
  let beforeRefix := contentDigest host improvedArtifact
  let refixed ← executeStage host marker .gapFixing (common ++
    [("artifact", .str improvedArtifact), ("gaps", .arr (deficiencies contract)),
      ("refix_contract", .arr contract), ("previously_fixed", .arr gapFixes)])
  if isError refixed then return .early refixed
  modify fun evidence => { evidence with
    repairCycles := 1
    evaluationRepair := some
      [("findings", .arr contract), ("before_content_digest", .str beforeRefix),
        ("after_content_digest", .str (contentDigest host (textOf refixed "improved_artifact"))),
        ("gap_fixes", .arr (itemsOf refixed "fixes")), ("final_evaluation", .null)] }
  if itemsOf refixed "unresolved" ≠ [] then
    return .early (unresolvedResult content gapFindings gapFixes
      (normalizeUnresolved (itemsOf refixed "unresolved")))
  verifyRepair host marker common content gapFindings gapFixes refixed beforeRefix contract evaluated

/-! ### The pipeline -/

/-- `_run_handoff_stages(..)`. -/
def runHandoffStages (gapFixes : List Json) (improvedArtifact : String) (evaluation : Dict) :
    Staged Dict := do
  let criteria ← executeStage host marker .successCriteria (common ++
    [("improved_artifact", .str improvedArtifact), ("evaluation", .obj evaluation)])
  if isError criteria then return criteria
  let fixtures ← executeStage host marker .fixtureDesign (common ++
    [("improved_artifact", .str improvedArtifact),
      ("success_criteria", .arr (itemsOf criteria "criteria"))])
  if isError fixtures then return fixtures
  return [("status", .str "improved"), ("original_artifact", .str content),
    ("gap_findings", .arr gapFindings), ("gap_fixes", .arr gapFixes),
    ("improved_artifact", .str improvedArtifact), ("evaluation", .obj evaluation),
    ("success_criteria", .arr (itemsOf criteria "criteria")),
    ("fixture_cases", .arr (itemsOf fixtures "fixture_cases"))]

def runEvaluated (gapFixes : List Json) (improvedArtifact : String) (evaluated : Dict) :
    Staged Dict := do
  if flagOf evaluated "passed" then
    runHandoffStages host marker common content gapFindings gapFixes improvedArtifact
      (evaluationRecord true evaluated)
  else
    match ← runRepairCycle host marker common content gapFindings gapFixes improvedArtifact evaluated with
    | .early result => return result
    | .passed gapFixes improvedArtifact evaluated =>
      runHandoffStages host marker common content gapFindings gapFixes improvedArtifact
        (evaluationRecord true evaluated)

/-- **`_run_stage_pipeline(run_stage, common, content, state)`.** -/
def runStagePipeline : Staged Dict := do
  let found ← executeStage host marker .gapFinding (common ++ [("artifact", .str content)])
  if isError found then return found
  let gapFindings := itemsOf found "gaps"
  let fixed ← executeStage host marker .gapFixing (common ++
    [("artifact", .str content), ("gaps", .arr gapFindings)])
  if isError fixed then return fixed
  let gapFixes := itemsOf fixed "fixes"
  let improvedArtifact := textOf fixed "improved_artifact"
  if itemsOf fixed "unresolved" ≠ [] then
    return unresolvedResult content gapFindings gapFixes
      (normalizeUnresolved (itemsOf fixed "unresolved"))
  let evaluated ← executeStage host marker .evaluation (common ++
    [("improved_artifact", .str improvedArtifact), ("gap_fixes", .arr gapFixes)])
  if isError evaluated then return evaluated
  runEvaluated host marker common content gapFindings gapFixes improvedArtifact evaluated

/-! ### The end of a run -/

/-- The identity of a run that has started. -/
structure Started where
  digest : String
  contentDigest : String
  revision : Json
  runId : String
  startedAt : String

def withRepairs (evidence : Evidence) (result : Dict) : Dict :=
  if evidence.repairs = [] then result
  else set (set (set result "output_repaired" (.bool true)) "output_repairs" (.arr evidence.repairs))
    "repair_policy" (.str repairPolicy)

def identityFields (started : Started) (completedAt : String) (evidence : Evidence) : Dict :=
  [("submission_disposition", .str "started"), ("submission_digest", .str started.digest),
    ("content_digest", .str started.contentDigest), ("artifact_revision", started.revision),
    ("lifecycle_run_id", .str started.runId), ("started_at", .str started.startedAt),
    ("completed_at", .str completedAt), ("evaluation_repair_cycles", .int evidence.repairCycles)]

def withIdentity (started : Started) (completedAt : String) (evidence : Evidence) (result : Dict) :
    Dict :=
  let stamped := (identityFields started completedAt evidence).foldl
    (fun fields field => set fields field.1 field.2) result
  match evidence.evaluationRepair with
  | some repair => set stamped "evaluation_repair" (.obj repair)
  | none => stamped

def withoutInternals (result : Dict) : Dict :=
  remove (remove result "provider_error_detail") "issue_code"

/-- `persist_run_evidence`, `create_root_cause_issue` for an error, and the link of a retry. -/
def recordEnd (runId : Option String) (result : Dict) : Flow Unit := do
  raiseIf (← ask (.recordRun result))
  if isError result then raiseIf (← ask (.createIssue result))
  match runId with
  | some runId => raiseIf (← ask (.linkRetry runId))
  | none => return ()

/-- **`_LifecycleRunState.finish(result)`.** `artifactId` is a valid id. -/
def finish (artifactId : Option String) (started : Option Started) (evidence : Evidence)
    (result : Dict) : Flow Dict := do
  let result := withRepairs evidence result
  let result ← match started with
    | some started => do
      let completedAt : String ← ask .clock
      pure (withIdentity started completedAt evidence result)
    | none => pure result
  match artifactId with
  | some id => do
    let result := set result "artifact_id" (.str id)
    recordEnd (started.map Started.runId) result
    let result := withoutInternals result
    let _ ← ask (.persistResult id result)
    match marker with
    | some name => ask (.unlinkMarker name)
    | none => pure ()
    return result
  | none => do
    recordEnd none result
    return withoutInternals result

/-! ### A run -/

/-- The characters that a file name keeps of an artifact id. -/
def isPlainChar (c : Char) : Bool := c.isAlphanum || c == '.' || c == '_' || c == '-'

/-- `_sanitize_artifact_id(artifact_id)`. -/
def sanitizeArtifactId (artifactId : String) : String :=
  String.ofList ((artifactId.toList.map fun c => if isPlainChar c then c else '-').take 80)

/-- The name of `_active_run_marker_path(root, artifact_id)`. -/
def markerName (artifactId : String) : String := sanitizeArtifactId artifactId ++ ".running"

/-- What the guard says. -/
inductive Guarded where
  | active (result : Dict)
  | marked (name : String)
  | unguarded

def markerOf (started : Started) : Dict :=
  [("lifecycle_run_id", .str started.runId), ("submission_digest", .str started.digest),
    ("started_at", .str started.startedAt)]

def activeRunError (artifactId digest : String) (active : Dict) : Dict :=
  let runId := getD active "lifecycle_run_id" (.str "unknown")
  [("status", .str "error"), ("stage", .str "active_run"),
    ("detail", .str ("an identical submission is already running (lifecycle_run_id " ++
      strOf host.repr runId ++ "); reattach with aflow_last_result after it finishes")),
    ("artifact_id", .str artifactId), ("submission_digest", .str digest), ("lifecycle_run_id", runId)]

def writeActiveMarker (name : String) (started : Started) : Flow Guarded := do
  let opened : Bool ← ask (.truncateMarker name)
  if opened then
    let written : Bool ← ask (.writeMarker name (markerOf started))
    return if written then .marked name else .unguarded
  else return .unguarded

/-- **`_guard_active_run(root, artifact_id, digest, run_id, started_at)`.** -/
def guardActiveRun (artifactId : String) (started : Started) : Flow Guarded := do
  let name := markerName artifactId
  let there : Bool ← ask (.markerIsFile name)
  if there then
    let age : Option Bool ← ask (.markerIsFresh name)
    match age with
    | none => return .unguarded
    | some fresh =>
      let active : Dict ← ask (.readMarker name)
      if fresh && holdsText active "submission_digest" started.digest then
        return .active (activeRunError host artifactId started.digest active)
      else writeActiveMarker name started
  else writeActiveMarker name started

/-- The revision of a submission, after a persisted result. -/
def nextRevision (previous : Dict) (contentDigest : String) : Json :=
  let kept := holdsText previous "content_digest" contentDigest
  match get? previous "artifact_revision" with
  | some (.int revision) =>
    if 1 ≤ revision then .int (if kept then revision else revision + 1) else .int 1
  | some (.bool true) => if kept then .bool true else .int 2
  | _ => .int 1

def isReviewOutcome (result : Dict) : Bool :=
  holdsText result "status" "improved" || holdsText result "status" "unresolved_gap"

def replayed (previous : Dict) : Dict := set previous "submission_disposition" (.str "replayed")

def damagedError (artifactId detail statePath failure : String) : Dict :=
  [("status", .str "error"), ("stage", .str "persisted_state"), ("detail", .str detail),
    ("artifact_id", .str artifactId), ("state_path", .str statePath), ("failure", .str failure)]

/-- What the persisted results say of a submission: a result that ends the run, or its revision. -/
inductive Prior where
  | early (result : Dict)
  | revision (revision : Json)

/-- What the newest persisted result says of a submission. -/
def priorOf (artifactId digest contentDigest : String) : LastResult → Prior
  | .damaged detail statePath failure => .early (damagedError artifactId detail statePath failure)
  | .absent => .revision (.int 1)
  | .found previous =>
    if holdsText previous "submission_digest" digest && isReviewOutcome previous then
      .early (replayed previous)
    else .revision (nextRevision previous contentDigest)

/-- `_resolve_prior_state(artifact_id, digest, content_digest, state_root)`. -/
def resolvePriorState (artifactId digest contentDigest : String) : Flow Prior := do
  let last : LastResult ← ask (.lastResult artifactId)
  return priorOf artifactId digest contentDigest last

def missingKey (trigger : Dict) : Option String :=
  ["artifact_id", "artifact_type", "status", "content", "intent", "context"].find? fun key =>
    !hasKey trigger key

def runAdmitted (trigger : Dict) (artifactId content : String) (started : Started) : Flow Dict := do
  match missingKey trigger with
  | some key => .raise (keyError key)
  | none =>
    match ← (ask (.snapshot trigger started.digest started.runId started.revision) :
        Flow (Option String)) with
    | some error =>
      finish none (some artifactId) (some started) {} [("status", .str "error"),
        ("stage", .str "configuration"), ("issue_code", .str "persisted_state_corrupt"),
        ("detail", .str ("immutable submission snapshot could not be persisted: " ++ error))]
    | none =>
      let run (marker : Option String) : Flow Dict := do
        let (result, evidence) ← runStagePipeline host marker
          [("artifact_id", .str artifactId), ("artifact_type", getD trigger "artifact_type" .null),
            ("intent", getD trigger "intent" .null), ("context", getD trigger "context" .null)]
          content {}
        finish marker (some artifactId) (some started) evidence result
      match ← guardActiveRun host artifactId started with
      | .active early => do
        raiseIf (← ask (.createIssue early))
        return early
      | .marked name => run (some name)
      | .unguarded => run none

def runSubmission (trigger : Dict) (artifactId content : String) : Flow Dict := do
  let digest := submissionDigest host content trigger
  let contentDigest := contentDigest host content
  let startedAt : String ← ask .clock
  let runId : String ← ask .newRunId
  match ← resolvePriorState artifactId digest contentDigest with
  | .early result => do
    if isError result then raiseIf (← ask (.createIssue result))
    return result
  | .revision revision =>
    let started : Started := { digest, contentDigest, revision, runId, startedAt }
    match ← (ask .admission : Flow (Option Refusal)) with
    | some refusal =>
      finish none (some artifactId) (some started) {} [("status", .str "error"),
        ("stage", .str refusal.stage), ("issue_code", .str refusal.issueCode),
        ("detail", .str refusal.detail)]
    | none => runAdmitted host trigger artifactId content started

def validArtifactId (trigger : Dict) : Option String :=
  match get? trigger "artifact_id" with
  | some (.str id) => if isBlank id then none else some id
  | _ => none

/-- The content of a trigger, where there is something to review. -/
def reviewContent (trigger : Dict) : Option String :=
  match get? trigger "content" with
  | some (.str content) => if isBlank content then none else some content
  | _ => none

def skipResult (reason : String) : Dict := [("status", .str "skip"), ("reason", .str reason)]

/-- **`run_artifact_lifecycle(trigger, worker, ..)`.** -/
def runArtifactLifecycle (trigger : Json) : Flow Dict :=
  match trigger with
  | .obj trigger =>
    let skip (reason : String) := finish none (validArtifactId trigger) none {} (skipResult reason)
    if holdsText trigger "status" "draft_complete" then
      match reviewContent trigger with
      | some content =>
        match validArtifactId trigger with
        | some id => runSubmission host trigger id content
        | none => skip "artifact_id must be a non-empty string"
      | none => skip "content is empty; nothing to review"
    else
      skip ("status is " ++ host.repr.text (getD trigger "status" .null) ++
        "; lifecycle runs only on 'draft_complete'")
  | _ => return skipResult "trigger must be a JSON object"

end Audisor.ArtifactFlow
