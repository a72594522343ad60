/-
**The persisted results of artifact reviews, and histories of reviews.**

* `FileContent`, `readLastResult` — the result files of a state root, and the newest of an artifact.
* `latest` — the file of the artifact that sorts last. `readLastResult_eq` — it decides.
* `flowEnvironment` — how the files answer a run, and what a run makes of them.
* `Reviews` — what some runs, one after the other, have left.
-/

import Audisor.ArtifactFlow.Engine
import Audisor.Interaction.Outcome

namespace Audisor.ArtifactFlow

open Interaction Json
open Audisor.Lifecycle (Raised holdsText)

variable (host : Host)

/-! ### Files -/

/-- What a file of the directory holds. -/
inductive FileContent where
  | result (fields : Dict)
  | noObject
  | corrupt (error : String)

/-- The files of the directory, the last written first. -/
abbrev ResultFiles := List (String × FileContent)

/-- `path.name.startswith(prefix) and path.suffix == ".json"`. -/
def isCandidate (artifactId name : String) : Bool :=
  (sanitizeArtifactId artifactId ++ "-").toList.isPrefixOf name.toList &&
    ".json".toList.isSuffixOf name.toList

/-- The files that may hold results of the artifact, by their names, the last first. -/
def candidates (artifactId : String) (files : ResultFiles) : ResultFiles :=
  (files.filter fun file => isCandidate artifactId file.1).insertionSort fun a b => b.1 ≤ a.1

/-- The file is damaged, or holds a result of the artifact. -/
def FileContent.concerns (artifactId : String) : FileContent → Bool
  | .result fields => holdsText fields "artifact_id" artifactId
  | .noObject | .corrupt _ => true

/-- `data.get("status") in RESULT_STATUSES`. -/
def hasResultStatus (fields : Dict) : Bool :=
  isReviewOutcome fields || holdsText fields "status" "skip" || holdsText fields "status" "error"

/-- What `read_last_result` makes of a file that concerns the artifact. -/
def FileContent.read (name : String) : FileContent → LastResult
  | .corrupt error => .damaged ("persisted result " ++ name ++ " is corrupt: " ++ error)
      (host.artifactsDir ++ "/" ++ name) "corrupt"
  | .noObject => .damaged ("persisted result " ++ name ++ " is not a result object")
      (host.artifactsDir ++ "/" ++ name) "corrupt"
  | .result fields =>
    if hasResultStatus fields then .found fields
    else .damaged ("persisted result " ++ name ++ " is incomplete: missing or invalid status")
      (host.artifactsDir ++ "/" ++ name) "incomplete"

/-- The loop of `read_last_result`. -/
def readCandidates (artifactId : String) : ResultFiles → LastResult
  | [] => .absent
  | (name, content) :: rest =>
    if content.concerns artifactId then content.read host name else readCandidates artifactId rest

/-- **`read_last_result(artifact_id, state_root=..)`.** -/
def readLastResult (artifactId : String) (files : ResultFiles) : LastResult :=
  readCandidates host artifactId (candidates artifactId files)

def resultName (artifactId stamp : String) : String :=
  sanitizeArtifactId artifactId ++ "-" ++ stamp ++ ".json"

/-- `_persist_result`: the file replaces one of its name. -/
def persisted (artifactId stamp : String) (result : Dict) (files : ResultFiles) : ResultFiles :=
  (resultName artifactId stamp, .result result) ::
    files.filter fun file => file.1 ≠ resultName artifactId stamp

/-- The file of the artifact, damaged or not, that sorts last. -/
def latest (artifactId : String) (files : ResultFiles) : Option (String × FileContent) :=
  (candidates artifactId files).find? fun file => file.2.concerns artifactId

/-- **The last file decides** what is read. -/
theorem readLastResult_eq (artifactId : String) (files : ResultFiles) :
    readLastResult host artifactId files =
      match latest artifactId files with
      | some (name, content) => content.read host name
      | none => .absent := by
  rw [readLastResult, latest]
  induction candidates artifactId files with
  | nil => rfl
  | cons file rest ih =>
    obtain ⟨name, content⟩ := file
    rw [readCandidates, List.find?_cons]
    cases concerned : content.concerns artifactId with
    | true => rfl
    | false => exact ih

theorem mem_candidates {artifactId : String} {files : ResultFiles} {file : String × FileContent} :
    file ∈ candidates artifactId files ↔ file ∈ files ∧ isCandidate artifactId file.1 = true := by
  rw [candidates, List.mem_insertionSort, List.mem_filter]

theorem mem_of_latest {artifactId : String} {files : ResultFiles} {file : String × FileContent}
    (last : latest artifactId files = some file) :
    file ∈ files ∧ isCandidate artifactId file.1 = true ∧ file.2.concerns artifactId = true := by
  obtain ⟨among, candidate⟩ := mem_candidates.mp (List.mem_of_find?_eq_some last)
  have concerned : file.2.concerns artifactId = true := by
    have found := List.find?_some last
    exact found
  exact ⟨among, candidate, concerned⟩

/-! ### The environment of a run -/

/-- A stage that was executed. -/
structure StageCall where
  stage : Stage
  payload : Dict
  answer : WorkerAnswer

def StageCall.output (call : StageCall) : Dict := (stageOutcome host call.stage call.answer).1

/-- The result files, and the stages that the run has executed, the last first. -/
structure FlowWorld where
  files : ResultFiles
  calls : List StageCall := []

/-- **The result files answer a run.** What else it asks is answered in any way. -/
def flowEnvironment : Environment flowSignature FlowWorld where
  answers
    | w, .lastResult artifactId, answer => answer = readLastResult host artifactId w.files
    | _, _, _ => True
  next
    | w, .runStage stage payload, answer => { w with calls := ⟨stage, payload, answer⟩ :: w.calls }
    | w, .persistResult artifactId result, answer =>
      match (answer : Option String) with
      | some stamp => { w with files := persisted artifactId stamp result w.files }
      | none => w
    | w, _, _ => w

theorem flowEnvironment_total (w : FlowWorld) (op : FlowOp) :
    ∃ answer, (flowEnvironment host).answers w op answer := by
  cases op with
  | progressReports stage => exact ⟨([] : List Progress), trivial⟩
  | runStage stage payload => exact ⟨WorkerAnswer.late, trivial⟩
  | lastResult artifactId => exact ⟨readLastResult host artifactId w.files, rfl⟩
  | clock | newRunId => exact ⟨"", trivial⟩
  | markerIsFile name | truncateMarker name | writeMarker name marker | replaceMarker name marker =>
    exact ⟨false, trivial⟩
  | readMarker name => exact ⟨([] : Dict), trivial⟩
  | unlinkMarker name => exact ⟨(), trivial⟩
  | admission => exact ⟨(none : Option Refusal), trivial⟩
  | snapshot trigger digest runId revision | persistResult artifactId result =>
    exact ⟨(none : Option String), trivial⟩
  | markerIsFresh name => exact ⟨(none : Option Bool), trivial⟩
  | recordRun result | createIssue result | linkRetry runId =>
    exact ⟨(none : Option Raised), trivial⟩

/-! ### Histories -/

/-- A run that has come to its end. -/
structure Review where
  trigger : Json
  calls : List StageCall
  ended : Flow Dict

/-- **What some runs have left**, one after the other, the last first, from an empty directory. -/
inductive Reviews : List Review → ResultFiles → Prop
  | none : Reviews [] []
  | more {reviews : List Review} {files : ResultFiles} (before : Reviews reviews files)
      {trigger : Json} {w : FlowWorld} {ended : Flow Dict}
      (run : Exec (flowEnvironment host) { files } (runArtifactLifecycle host trigger) w ended)
      (stopped : ended.Ended) : Reviews (⟨trigger, w.calls, ended⟩ :: reviews) w.files

end Audisor.ArtifactFlow
