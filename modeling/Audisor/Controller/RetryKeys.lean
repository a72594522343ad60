/-
**How a retry of a review ends.**

* `overrides log` — how many reviews with a provider override a journal has.
* `Stuck record` — the operation was started, and no call resumes it.
* `RetryEnds` — the ends of a retry with a fresh key: refused with nothing saved, returned with its
  outcome recorded under the key, or raised with the operation stuck.
* **`retryRecord_ends`** — a retry of a record in provider recovery ends in one of these.
-/

import Audisor.Controller.Carrying
import Audisor.Controller.ReviewGate
import Audisor.Json.Order
import Audisor.Json.RoundTrip

namespace Audisor.Controller

open Interaction Json

variable {c : OperationController} {log log' : Log} {record next : OperationRecord}
  {operationId idempotencyKey provider : String}

/-- A review with a provider override. -/
abbrev Overriding : Option String → Prop := fun providerOverride => providerOverride.isSome = true

/-- How many reviews with an override a journal has. -/
abbrev overrides (log : Log) : Nat := asked (ControllerOp.Reviews Overriding) log

/-! ### What a record says of a key -/

/-- The record's operation was started, and no call resumes it. -/
structure Stuck (record : OperationRecord) : Prop where
  settled : Settled record
  started : record.state ≠ .received

def retryOutcome (provider : String) (result : OperationControllerResult) : Dict :=
  result.detail.foldl (fun fields field => set fields field.1 field.2)
    [("provider", .str provider), ("state", .str result.state.value)]

theorem retried_lookup (record : OperationRecord) (key provider : String)
    (result : OperationControllerResult) (idempotencyKey : String) :
    Artifacts.retry? (record.retried key provider result).artifacts idempotencyKey =
      if idempotencyKey = key then some ((Json.obj (retryOutcome provider result)).dumps {})
      else record.artifacts.retry? idempotencyKey := by
  show List.lookup idempotencyKey ((key, _) :: record.artifacts.aflowRetry) = _
  rw [List.lookup_cons]
  by_cases same : idempotencyKey = key
  · simp [same, retryOutcome]
  · have apart : (idempotencyKey == key) = false := beq_false_of_ne same
    rw [apart, if_neg same]
    rfl

theorem Continues.recorded (continues : Continues record next) (idempotencyKey : String) :
    next.artifacts.retry? idempotencyKey = record.artifacts.retry? idempotencyKey := by
  rw [ Artifacts.retry?, Artifacts.retry?, continues.retries]

/-! ### How a retry ends -/

/-- The ends of a retry from `log`. -/
inductive RetryEnds (log : Log) (record : OperationRecord) (idempotencyKey provider : String) :
    Log → Ctl OperationControllerResult → Prop
  | refused (p : Ctl OperationControllerResult) : RetryEnds log record idempotencyKey provider log p
  | returned {log' : Log} {latest : OperationRecord} {result : OperationControllerResult}
      (others : ∀ operationId, operationId ≠ record.operationId →
        stored log' operationId = stored log operationId)
      (unnamed : hasKey result.detail "provider" = false ∧ hasKey result.detail "state" = false)
      (continues : Continues record latest)
      (kept : stored log' record.operationId = some (latest.retried idempotencyKey provider result))
      (once : overrides log' ≤ overrides log + 1) :
      RetryEnds log record idempotencyKey provider log' (.done result)
  | raised {log' : Log} {latest : OperationRecord} {error : PyError}
      (others : ∀ operationId, operationId ≠ record.operationId →
        stored log' operationId = stored log operationId)
      (continues : Continues record latest) (stuck : Stuck latest)
      (kept : stored log' record.operationId = some latest)
      (once : overrides log' ≤ overrides log + 1) :
      RetryEnds log record idempotencyKey provider log' (.raise error)

/-- What holds of a round from `base` between its questions. -/
structure RoundInv (base : Log) (record : OperationRecord) (log : Log) (held : Held) : Prop where
  kept : stored log record.operationId = some held.record
  others : ∀ operationId, operationId ≠ record.operationId →
    stored log operationId = stored base operationId
  continues : Continues record held.record
  started : held.record.state ≠ .received
  spent : overrides log + held.credit = overrides base + 1

theorem RoundInv.step {base : Log} {held held' : Held} {op : ControllerOp} {answer : op.Answer}
    (holds : RoundInv base record log held) (move : (rounds Overriding).Move held op answer held') :
    RoundInv base record (⟨op, answer⟩ :: log) held' := by
  obtain ⟨leaves, continues, pays⟩ := move
  have further : Continues record held'.record := holds.continues.trans continues
  refine ⟨?_, fun operationId other => ?_, further, continues.started holds.started, ?_⟩
  · cases op with
    | save next =>
      have same : held'.record = next := leaves
      rw [stored_save, same, if_pos]
      rw [← same]
      exact further.operationId
    | _ =>
      rw [stored_of_reads (by trivial), holds.kept]
      exact congrArg some leaves.symm
  · cases op with
    | save next =>
      have same : held'.record = next := leaves
      rw [stored_save, if_neg, holds.others operationId other]
      rw [← same, further.operationId]
      exact fun equal => other equal.symm
    | _ => exact holds.others operationId other
  · rw [overrides, asked_cons]
    have spent : asked (ControllerOp.Reviews Overriding) log + held.credit =
      overrides base + 1 := holds.spent
    rcases pays with ⟨counts, paid⟩ | ⟨free, paid⟩
    · rw [if_pos counts]
      omega
    · rw [if_neg free]
      omega

/-- **A round of a retry ends as its machine does.** -/
theorem doReview_retry (settled : Settled record) (started : record.state ≠ .received)
    (kept : stored log record.operationId = some record) (depth : Nat) (plan : Json) (context : Dict)
    (providerOverride : Option String) :
    Outcome world log (doReview c depth record plan context providerOverride) fun log' p =>
      p.Ended ∧ ∃ held, RoundInv log record log' held ∧
        Follows (rounds Overriding) held p Unnamed := by
  intro log' p run ended
  have follows : Follows (rounds Overriding) ⟨record, 1⟩
      (doReview c depth record plan context providerOverride) Unnamed :=
    doReview_once (fun _ => nofun) depth settled
  have begun : RoundInv log record log ⟨record, 1⟩ := ⟨kept, fun _ _ => rfl, .refl _, started, rfl⟩
  obtain ⟨held, further, holds⟩ := Follows.exec_invariant (RoundInv log record)
    (fun _ _ _ _ _ before _ move => before.step move) run follows begun
  exact ⟨ended, held, holds, further⟩

/-- **How a retry of a record in provider recovery ends.** -/
theorem retryRecord_ends (recovering : record.state = .suspendedProviderRecovery)
    (operationVersion : Int) :
    Outcome world log (retryRecord c record operationVersion idempotencyKey provider)
      (RetryEnds log record idempotencyKey provider) := by
  unfold retryRecord
  dsimp only
  split
  · exact outcome_done (.refused _)
  · split
    · exact outcome_done (.refused _)
    · exact outcome_done (.refused _)
    · rename_i rawPlan _ _
      cases loadsValue (.str rawPlan) with
      | error error => exact outcome_raise (.refused _)
      | ok plan =>
        have allowed : record.Allows .reviewing :=
          OperationRecord.allows_of_state recovering (by decide)
        rw [Program.ofExcept_ok, Program.done_bind, moveTo,
          OperationRecord.transition_of_allows allowed]
        refine outcome_save (outcome_bind ?_)
        have reviewing : Settled (record.moved .reviewing ("aflow_retry:" ++ provider)) :=
          settled_moved (by decide)
        refine (doReview_retry reviewing (fun same => OperationState.noConfusion same)
          (stored_save_self _ _ _) _ _ _ _).mono ?_
        rintro log' p ⟨ended, held, holds, follows⟩
        have continues : Continues record held.record :=
          (Continues.of_moved (by decide)).trans holds.continues
        have same : held.record.operationId = record.operationId := continues.operationId
        have once : overrides log' ≤ overrides log + 1 := by
          have spent : overrides log' + held.credit = overrides log + 1 := holds.spent
          omega
        have others : ∀ operationId, operationId ≠ record.operationId →
            stored log' operationId = stored log operationId := by
          intro operationId other
          rw [holds.others operationId other, stored_save, if_neg]
          exact fun equal => other equal.symm
        cases p with
        | raise error =>
          exact outcome_raise (.raised others continues ⟨follows, holds.started⟩ holds.kept once)
        | done result =>
          refine outcome_load ?_
          have found : stored log' record.operationId = some held.record := holds.kept
          rw [OperationRecord.moved_operationId, found, Option.getD_some]
          refine outcome_save (outcome_done (.returned ?_ follows continues ?_ once))
          · intro operationId other
            rw [stored_save, if_neg]
            · exact others operationId other
            · exact fun equal => other (equal.symm.trans same)
          · rw [← same]
            exact stored_save_self _ _ _
        | ask op next => exact ended.elim

end Audisor.Controller
