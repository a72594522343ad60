/-
**Which submissions replay their outcome.**

* `lastOutcome` — the review outcome of an artifact that was written last.
* `Replays` — every run of a submission returns that outcome, and executes no stage.
* **`replays_iff`** — a submission replays the outcome exactly where the last file of the artifact holds
  it: a skip or an error that was written after it hides it. `buried` — a skipped trigger does so.
-/

import Audisor.ArtifactFlow.Histories

namespace Audisor.ArtifactFlow

open Interaction Json
open Audisor.Lifecycle (holdsText holdsText_iff)

variable {host : Host} {trigger : Json} {files : ResultFiles} {fields outcome : Dict}
  {artifactId content : String}

/-! ### Outcomes -/

/-- The review outcome of the artifact that the file holds. -/
def FileContent.reviewOutcome (artifactId : String) : FileContent → Option Dict
  | .result fields =>
    if isReviewOutcome fields && holdsText fields "artifact_id" artifactId then some fields else none
  | .noObject | .corrupt _ => none

/-- **The most recent review outcome** of the artifact. -/
def lastOutcome (artifactId : String) (files : ResultFiles) : Option Dict :=
  files.findSome? fun file => file.2.reviewOutcome artifactId

/-- **The trigger replays the outcome**: however its run ends, it returns the outcome and has executed
no stage. -/
def Replays (host : Host) (files : ResultFiles) (trigger : Json) (outcome : Dict) : Prop :=
  Outcome (flowEnvironment host) { files } (runArtifactLifecycle host trigger) fun w ended =>
    ended = .done (replayed outcome) ∧ w.calls = []

def IsLast (artifactId : String) (files : ResultFiles) (outcome : Dict) : Prop :=
  ∃ name previous, latest artifactId files = some (name, .result previous) ∧
    replayed previous = replayed outcome

theorem of_lastOutcome (recent : lastOutcome artifactId files = some outcome) :
    (∃ name, (name, .result outcome) ∈ files) ∧ isReviewOutcome outcome = true ∧
      get? outcome "artifact_id" = some (.str artifactId) := by
  obtain ⟨⟨name, content⟩, among, held⟩ := List.exists_of_findSome?_eq_some recent
  cases content with
  | result own =>
    simp only [FileContent.reviewOutcome] at held
    split at held
    · rename_i holds
      obtain ⟨reviewed, owned⟩ := Bool.and_eq_true_iff.mp holds
      cases held
      exact ⟨⟨name, among⟩, reviewed, holdsText_iff.mp owned⟩
    · cases held
  | noObject => cases held
  | corrupt error => cases held

/-! ### Runs of a submission -/

theorem runArtifactLifecycle_eq (submission : Submission trigger fields artifactId content) :
    runArtifactLifecycle host trigger = runSubmission host fields artifactId content := by
  obtain ⟨rfl, status, something, valid⟩ := submission
  simp only [runArtifactLifecycle, status, something, valid, if_true]

/-- **A result that the persisted results give** ends the run. -/
theorem outcome_of_early {result : Dict} (submission : Submission trigger fields artifactId content)
    (prior : priorFor host fields artifactId content (readLastResult host artifactId files) =
      .early result) (unfailed : isError result = false) :
    Outcome (flowEnvironment host) { files } (runArtifactLifecycle host trigger) fun w ended =>
      ended = .done result ∧ w.calls = [] := by
  rw [runArtifactLifecycle_eq submission]
  refine outcome_ask fun startedAt _ => outcome_ask fun runId _ => outcome_ask fun last read => ?_
  have same : last = readLastResult host artifactId files := read
  subst same
  have early : priorOf artifactId (submissionDigest host content fields)
      (contentDigest host content) (readLastResult host artifactId files) = .early result := prior
  simp only [Program.andThen, Program.pure_eq, early]
  show Outcome _ _ (ite _ _ _) _
  rw [if_neg (by simp [unfailed])]
  exact outcome_done ⟨rfl, rfl⟩

theorem get?_replayed {result : Dict} {key : String} (other : key ≠ "submission_disposition") :
    get? (replayed result) key = get? result key := get?_set_of_ne _ _ other

theorem holdsText_replayed {result : Dict} {key text : String}
    (other : key ≠ "submission_disposition") :
    holdsText (replayed result) key text = holdsText result key text := by
  rw [holdsText, get?_replayed other, holdsText]

theorem isReviewOutcome_replayed (result : Dict) :
    isReviewOutcome (replayed result) = isReviewOutcome result := by
  rw [isReviewOutcome, holdsText_replayed (by decide), holdsText_replayed (by decide),
    isReviewOutcome]

theorem status_of_isReviewOutcome {result : Dict} (reviewed : isReviewOutcome result = true) :
    get? result "status" = some (.str "improved") ∨
      get? result "status" = some (.str "unresolved_gap") := by
  rw [isReviewOutcome, Bool.or_eq_true] at reviewed
  exact reviewed.imp holdsText_iff.mp holdsText_iff.mp

theorem isError_of_isReviewOutcome {result : Dict} (reviewed : isReviewOutcome result = true) :
    isError result = false := by
  rcases status_of_isReviewOutcome reviewed with improved | unresolved
  · rw [isError, improved]; rfl
  · rw [isError, unresolved]; rfl

/-- **Where the last file holds the outcome, it is replayed.** -/
theorem IsLast.replays (last : IsLast artifactId files outcome)
    (submission : Submission trigger fields artifactId content)
    (reviewed : isReviewOutcome outcome = true)
    (same : holdsText outcome "submission_digest" (submissionDigest host content fields) = true) :
    Replays host files trigger outcome := by
  obtain ⟨name, previous, found, alike⟩ := last
  have outcomeOf : isReviewOutcome previous = true := by
    rw [← isReviewOutcome_replayed, alike, isReviewOutcome_replayed]
    exact reviewed
  have digest : holdsText previous "submission_digest" (submissionDigest host content fields) = true := by
    rw [← holdsText_replayed (by decide), alike, holdsText_replayed (by decide)]
    exact same
  have read : readLastResult host artifactId files = .found previous := by
    rw [readLastResult_eq, found]
    show (if hasResultStatus previous then LastResult.found previous else _) = _
    rw [if_pos (by rw [hasResultStatus, outcomeOf]; rfl)]
  rw [Replays, ← alike]
  refine outcome_of_early submission ?_ ?_
  · rw [read, priorFor, priorOf, if_pos (by rw [digest, outcomeOf]; rfl)]
  · exact isError_of_isReviewOutcome ((isReviewOutcome_replayed previous).trans outcomeOf)

/-- **A run that returns the outcome as replayed** has found it in the last file. -/
theorem RunEnd.isLast {k : RunState} (ends : RunEnd host trigger k (replayed outcome))
    (submission : Submission trigger fields artifactId content)
    (seen : ∀ other last, k.seen = some (other, last) → last = readLastResult host other files) :
    IsLast artifactId files outcome := by
  have view := get?_set_self outcome "submission_disposition" (.str "replayed")
  cases ends with
  | skipped calls skip bare written =>
    cases (show get? (replayed outcome) _ = _ from view).symm.trans (bare _ (by decide))
  | replays fields' other content' submission' calls written previous found prior alike =>
    obtain ⟨rfl, rfl, rfl⟩ := submission.unique submission'
    obtain ⟨name, last⟩ := mem_of_found (seen _ _ found).symm
    exact ⟨name, previous, last, alike.symm⟩
  | refused calls written failed unstarted =>
    cases (show get? (replayed outcome) _ = _ from view).symm.trans unstarted
  | started fields' other content' submission' last found revision prior run identity completedAt
      evidence given alike written well =>
    rw [replayed] at alike
    rw [alike, get?_startedResult (by decide)] at view
    have other : (Json.str "started") = .str "replayed" := Option.some.inj view
    exact absurd (Json.str.inj other) (by decide)

/-- **An outcome in a history has the digest of a submission** that it has answered. -/
theorem submitted_of_lastOutcome {reviews : List Review} (history : Reviews host reviews files)
    (recent : lastOutcome artifactId files = some outcome) :
    ∃ review ∈ reviews, ∃ fields content, Submission review.trigger fields artifactId content ∧
      review.ended = .done outcome ∧
      holdsText outcome "submission_digest" (submissionDigest host content fields) = true := by
  obtain ⟨⟨name, among⟩, reviewed, owned⟩ := of_lastOutcome recent
  obtain ⟨review, member, k, other, stamp, result, wrote⟩ := history.wrote among
  cases wrote.file
  refine ⟨review, member, ?_⟩
  have unwritten : k.written ≠ none := fun absent => nomatch absent.symm.trans wrote.written
  cases wrote.ends with
  | skipped calls skip bare written =>
    rcases status_of_isReviewOutcome reviewed with improved | unresolved
    · exact absurd (text_unique improved skip) (by decide)
    · exact absurd (text_unique unresolved skip) (by decide)
  | replays fields id content submission calls absent previous seen prior same =>
    exact absurd absent unwritten
  | refused calls absent failed unstarted => exact absurd absent unwritten
  | started fields id content submission last seen revision prior run identity completedAt evidence
      given same written well =>
    rw [same, get?_startedResult_id] at owned
    cases owned
    refine ⟨fields, content, submission, wrote.ended, ?_⟩
    rw [holdsText_iff, same, get?_startedResult (by decide), ← identity.1]
    rfl

/-- **A submission replays the most recent outcome exactly where the last file of the artifact holds
it.** -/
theorem replays_iff (host : Host) {files : ResultFiles} {trigger : Json} {fields : Dict}
    {artifactId content : String} (submission : Submission trigger fields artifactId content)
    {outcome : Dict} (recent : lastOutcome artifactId files = some outcome)
    (same : holdsText outcome "submission_digest" (submissionDigest host content fields) = true) :
    Replays host files trigger outcome ↔ IsLast artifactId files outcome := by
  obtain ⟨-, reviewed, -⟩ := of_lastOutcome recent
  constructor
  · intro replays
    obtain ⟨w, ended, run, stopped⟩ := exists_outcome (flowEnvironment_total host)
      (runArtifactLifecycle host trigger) { files }
    obtain ⟨rfl, -⟩ := replays w ended run stopped
    obtain ⟨k, holds, ends, -⟩ := exec_runArtifactLifecycle run
    exact (ends _ rfl).isLast submission holds.seen
  · exact fun last => last.replays submission reviewed same

/-! ### A skip hides an outcome -/

/-- **A run, and a skipped trigger of its artifact.** -/
theorem reviews_skipped : Reviews plainHost
    [calmReview (gapWorker []) "1" (calmFiles (gapWorker []) "0" [] (draftTrigger "draft")) openTrigger,
      calmReview (gapWorker []) "0" [] (draftTrigger "draft")]
    (calmFiles (gapWorker []) "1" (calmFiles (gapWorker []) "0" [] (draftTrigger "draft"))
      openTrigger) :=
  reviews_calm (reviews_calm .none (gapWorker []) "0" _) (gapWorker []) "1" _

theorem openTrigger_skipped (submission : Submission openTrigger fields artifactId content) : False := by
  obtain ⟨object, status, -, -⟩ := submission
  cases object
  exact absurd status (by decide)

theorem outcome_of_first {files : ResultFiles} {reviews : List Review}
    (history : Reviews plainHost reviews files)
    (first : ∀ review ∈ reviews, review.trigger = draftTrigger "draft" ∨ review.trigger = openTrigger)
    (left : (lastOutcome "plan" files).isSome = true) :
    ∃ outcome, lastOutcome "plan" files = some outcome ∧
      holdsText outcome "submission_digest" (submissionDigest plainHost "draft" draftFields) = true := by
  obtain ⟨outcome, recent⟩ := Option.isSome_iff_exists.mp left
  obtain ⟨review, member, fields, content, submission, -, digest⟩ :=
    submitted_of_lastOutcome history recent
  rcases first review member with draft | skipped
  · rw [draft] at submission
    obtain ⟨rfl, -, rfl⟩ := submission_draft.unique submission
    exact ⟨outcome, recent, digest⟩
  · rw [skipped] at submission
    exact (openTrigger_skipped submission).elim

theorem not_replays_of_calls {worker : Stage → Dict} {stamp : String}
    (worked : (calmRun worker stamp files trigger).2.calls ≠ []) :
    ¬ Replays plainHost files trigger outcome := fun replays =>
  worked (replays _ _ (exec_calmRun worker stamp files trigger) (ended_calmRun worker stamp files trigger)).2

/-- **A skipped trigger hides the outcome**: the next identical submission executes its stages again. -/
theorem buried : ∃ reviews files fields outcome, Reviews plainHost reviews files ∧
    Submission (draftTrigger "draft") fields "plan" "draft" ∧
    lastOutcome "plan" files = some outcome ∧
    holdsText outcome "submission_digest" (submissionDigest plainHost "draft" fields) = true ∧
    ¬ Replays plainHost files (draftTrigger "draft") outcome := by
  obtain ⟨outcome, recent, digest⟩ := outcome_of_first reviews_skipped (by simp [calmReview])
    (by decide +kernel)
  have worked : (calmRun (gapWorker []) "2" (calmFiles (gapWorker []) "1"
    (calmFiles (gapWorker []) "0" [] (draftTrigger "draft")) openTrigger)
    (draftTrigger "draft")).2.calls ≠ [] := by decide +kernel
  exact ⟨_, _, draftFields, outcome, reviews_skipped, submission_draft, recent, digest,
    not_replays_of_calls worked⟩

/-- Right after the first run, its outcome is replayed where the last file holds it. -/
theorem replays_first : ∃ files outcome, Reviews plainHost
      [calmReview (gapWorker []) "0" [] (draftTrigger "draft")] files ∧
    lastOutcome "plan" files = some outcome ∧
    (Replays plainHost files (draftTrigger "draft") outcome ↔ IsLast "plan" files outcome) := by
  have history := reviews_calm .none (gapWorker []) "0" (draftTrigger "draft")
  obtain ⟨outcome, recent, digest⟩ := outcome_of_first history (by simp [calmReview])
    (by decide +kernel)
  exact ⟨_, outcome, history, recent, replays_iff plainHost submission_draft recent digest⟩

end Audisor.ArtifactFlow
