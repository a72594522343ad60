/-
**Claims that are bound to their call.**

* `CurrentSuspension`, `PendingCall` — what a claim has to name.
* `callArgumentsDigest` — the digest of a pending call, as an approval of it computes it.
* `BindsClaims` — a granted claim presented the digest of the call that it was handed, and a claim that
  presents this digest for a pending call is not refused for it.
* `BoundDigest` — a waiting record keeps the digest of every pending call that can be claimed.
* **`bindsClaims_iff`** — the claims of an operation are bound exactly where its record's digest is.
* `approved_boundDigest` — the record of a granted approval has such a digest, where its call has an id
  and arguments that are no text.

A suspension for a tool result stores no digest: what the record keeps is that of an earlier approval,
or none, and without one every digest is accepted.
-/

import Audisor.Controller.Rejections
import Audisor.Controller.ConcurrentClaims

namespace Audisor.Controller

open Interaction Json

variable {c : OperationController} {log log' : Log} {record : OperationRecord}
  {operationId claimantId suspensionId callId argumentDigest : String} {call : Dict}

/-! ### Bound claims -/

def CurrentSuspension (record : OperationRecord) (suspensionId : String) : Prop :=
  (Json.str suspensionId == record.slices.suspensionId.getD (.str "")) = true

def PendingCall (record : OperationRecord) (callId : String) (call : Dict) : Prop :=
  ∃ calls, iterate (record.slices.pendingCalls.getD (.arr [])) = .ok calls ∧
    matchingCall callId calls = .ok (some call)

/-- The digest of a call, of the fields that a claimant is handed. -/
def callArgumentsDigest (c : OperationController) (callId : String) (call : Dict) : String :=
  computeArgumentDigest c (.str callId) (getD call "tool_name" (.str ""))
    (getD call "arguments" (.obj []))

/-- **What binds a claim**: its digest is that of the call it is handed, and is not refused. -/
structure BindsClaim (c : OperationController) (record : OperationRecord)
    (suspensionId callId argumentDigest : String) (p : Ctl OperationControllerResult) : Prop where
  handed : ∀ result, p = .done result → Granted result → argumentDigest =
    computeArgumentDigest c (getD result.detail "call_id" .null)
      (getD result.detail "tool_name" .null) (getD result.detail "arguments" .null)
  accepted : ∀ call, CurrentSuspension record suspensionId → PendingCall record callId call →
    argumentDigest = callArgumentsDigest c callId call →
    ∀ result, p = .done result →
      get? result.detail "error" ≠ some (.str "argument_digest_mismatch")

def BindsClaims (c : OperationController) (log : Log) (operationId : String)
    (record : OperationRecord) : Prop :=
  ∀ claimantId suspensionId callId argumentDigest, Outcome world log
    (claimToolExecution c operationId claimantId suspensionId callId argumentDigest) fun _ p =>
      BindsClaim c record suspensionId callId argumentDigest p

/-- **A waiting record keeps the digest of every call that can be claimed.** -/
def BoundDigest (c : OperationController) (record : OperationRecord) : Prop :=
  record.state = .suspendedForToolResult → ∀ suspensionId callId call,
    CurrentSuspension record suspensionId → PendingCall record callId call →
      record.slices.argumentDigest.getD "" ≠ "" ∧
        record.slices.argumentDigest.getD "" = callArgumentsDigest c callId call

theorem PendingCall.unique {other : Dict} (first : PendingCall record callId call)
    (second : PendingCall record callId other) : call = other := by
  obtain ⟨calls, iterated, found⟩ := first
  obtain ⟨calls', iterated', found'⟩ := second
  cases iterated.symm.trans iterated'
  cases found.symm.trans found'
  rfl

/-! ### What a claim answers -/

theorem bindsClaim_refused {result : OperationControllerResult}
    (ungranted : ¬ Granted result)
    (other : get? result.detail "error" ≠ some (.str "argument_digest_mismatch")) :
    BindsClaim c record suspensionId callId argumentDigest (.done result) := by
  constructor
  · rintro _ ⟨⟩ granted
    exact absurd granted ungranted
  · rintro _ _ _ _ _ ⟨⟩
    exact other

theorem bindsClaim_raise (error : PyError) :
    BindsClaim c record suspensionId callId argumentDigest (.raise error) := by
  constructor
  · rintro _ ⟨⟩
  · rintro _ _ _ _ _ ⟨⟩

/-- What a claim on the named pending call of the current suspension does. -/
def claimPending (c : OperationController) (record : OperationRecord) (call : Dict)
    (claimantId suspensionId callId argumentDigest : String) : Ctl OperationControllerResult :=
  let persistedDigest := record.slices.argumentDigest.getD ""
  if persistedDigest ≠ "" ∧ argumentDigest ≠ persistedDigest then
    .done (record.result (errorDetail "argument_digest_mismatch"))
  else
    match record.slices.executionClaim with
    | some claim =>
      if claim.claimantId = claimantId then
        .done (record.result (claimDetail claimantId callId suspensionId persistedDigest call
          [("idempotent", .bool true)]))
      else
        .done (record.result (errorDetail "competing_claim" ++
          [("detail", .str ("already claimed by " ++ claim.claimantId))]))
    | none => do
      let record := record.claimed ⟨claimantId, callId, suspensionId, argumentDigest⟩
      save record
      emit c record "tool_execution_claimed"
        [("claimant_id", .str claimantId), ("call_id", .str callId),
          ("suspension_id", .str suspensionId), ("argument_digest", .str argumentDigest)]
      return record.result (claimDetail claimantId callId suspensionId persistedDigest call [])

theorem claimRecord_of_pending (current : CurrentSuspension record suspensionId)
    (pending : PendingCall record callId call) :
    claimRecord c record claimantId suspensionId callId argumentDigest =
      claimPending c record call claimantId suspensionId callId argumentDigest := by
  obtain ⟨calls, iterated, found⟩ := pending
  unfold claimRecord
  rw [current, if_neg (by decide), iterated, Program.ofExcept_ok, Program.done_bind, found,
    Program.ofExcept_ok, Program.done_bind]
  rfl

theorem claimRecord_binds_of_absent
    (absent : ∀ call, CurrentSuspension record suspensionId → ¬ PendingCall record callId call) :
    Outcome world log (claimRecord c record claimantId suspensionId callId argumentDigest) fun _ p =>
      BindsClaim c record suspensionId callId argumentDigest p := by
  have refused : ∀ {text : String}, text ≠ "argument_digest_mismatch" →
      BindsClaim c record suspensionId callId argumentDigest
        (.done (record.result (errorDetail text))) := by
    intro text apart
    refine bindsClaim_refused (by rintro ⟨⟩) fun same => apart ?_
    exact Json.str.inj (Option.some.inj same)
  unfold claimRecord
  by_cases current : CurrentSuspension record suspensionId
  · rw [current, if_neg (by decide)]
    cases iterated : iterate (record.slices.pendingCalls.getD (.arr [])) with
    | error error => exact outcome_raise (bindsClaim_raise error)
    | ok calls =>
      rw [Program.ofExcept_ok, Program.done_bind]
      cases found : matchingCall callId calls with
      | error error => exact outcome_raise (bindsClaim_raise error)
      | ok match_ =>
        rw [Program.ofExcept_ok, Program.done_bind]
        cases match_ with
        | none => exact outcome_done (refused (by decide))
        | some call => exact absurd ⟨calls, iterated, found⟩ (absent call current)
  · rw [Bool.eq_false_of_not_eq_true current, if_pos (by decide)]
    exact outcome_done (refused (by decide))

def Fits (record : OperationRecord) (argumentDigest : String) : Prop :=
  record.slices.argumentDigest.getD "" = "" ∨
    argumentDigest = record.slices.argumentDigest.getD ""

/-- **What a claim on a pending call answers.** -/
theorem outcome_claimPending {Q : Ctl OperationControllerResult → Prop}
    (mismatch : record.slices.argumentDigest.getD "" ≠ "" →
      argumentDigest ≠ record.slices.argumentDigest.getD "" →
      Q (.done (record.result (errorDetail "argument_digest_mismatch"))))
    (competing : Fits record argumentDigest → ∀ claim, record.slices.executionClaim = some claim →
      claim.claimantId ≠ claimantId → Q (.done (record.result (errorDetail "competing_claim" ++
        [("detail", .str ("already claimed by " ++ claim.claimantId))]))))
    (granted : Fits record argumentDigest → ∀ result replayed,
      (replayed = [] ∨ replayed = [("idempotent", .bool true)]) →
        result.detail = claimDetail claimantId callId suspensionId
          (record.slices.argumentDigest.getD "") call replayed → Q (.done result)) :
    Outcome world log (claimPending c record call claimantId suspensionId callId argumentDigest)
      fun _ p => Q p := by
  unfold claimPending
  dsimp only
  split
  · rename_i refused
    exact outcome_done (mismatch refused.1 refused.2)
  · rename_i passes
    have fits : Fits record argumentDigest := by
      by_cases stored : record.slices.argumentDigest.getD "" = ""
      · exact .inl stored
      · exact .inr (not_not.mp fun other => passes ⟨stored, other⟩)
    cases claimed : record.slices.executionClaim with
    | some claim =>
      dsimp only
      by_cases own : claim.claimantId = claimantId
      · rw [if_pos own]
        exact outcome_done (granted fits _ _ (.inr rfl) rfl)
      · rw [if_neg own]
        exact outcome_done (competing fits claim claimed own)
    | none =>
      exact outcome_save (outcome_emit_suffix fun log' _ =>
        outcome_done (granted fits _ _ (.inl rfl) rfl))

theorem handed_claimDetail {digest : String} {detail replayed : Dict}
    (plain : replayed = [] ∨ replayed = [("idempotent", .bool true)])
    (same : detail = claimDetail claimantId callId suspensionId digest call replayed) :
    get? detail "claimed" = some (.bool true) ∧ get? detail "error" = none ∧
      computeArgumentDigest c (getD detail "call_id" .null) (getD detail "tool_name" .null)
        (getD detail "arguments" .null) = callArgumentsDigest c callId call := by
  subst same
  rcases plain with rfl | rfl <;> exact ⟨rfl, rfl, rfl⟩

/-! ### Bound digests -/

theorem claimPending_binds (pending : PendingCall record callId call)
    (stored : record.slices.argumentDigest.getD "" ≠ "")
    (bound : record.slices.argumentDigest.getD "" = callArgumentsDigest c callId call) :
    Outcome world log (claimPending c record call claimantId suspensionId callId argumentDigest)
      fun _ p => BindsClaim c record suspensionId callId argumentDigest p := by
  refine outcome_claimPending (fun _ other => ?_) (fun _ claim _ _ => ?_)
    fun fits result replayed plain detail => ?_
  · constructor
    · rintro _ ⟨⟩ ⟨⟩
    · intro named _ also same
      rw [← PendingCall.unique pending also, ← bound] at same
      exact absurd same other
  · refine bindsClaim_refused (by rintro ⟨⟩) fun same => ?_
    exact absurd (Json.str.inj (Option.some.inj same)) (by decide)
  · obtain ⟨-, unrefused, handed⟩ := @handed_claimDetail c _ _ _ _ _ _ _ plain detail
    constructor
    · rintro _ ⟨⟩ -
      rw [handed, ← bound]
      exact fits.resolve_left stored
    · rintro _ _ _ _ _ ⟨⟩
      rw [unrefused]
      rintro ⟨⟩

def OperationRecord.admits (record : OperationRecord) : String :=
  (record.slices.executionClaim.map ExecutionClaim.claimantId).getD ""

theorem claimPending_grants (fits : Fits record argumentDigest) :
    Outcome world log
      (claimPending c record call record.admits suspensionId callId argumentDigest) fun _ p =>
      ∃ result, p = .done result ∧ Granted result ∧
        computeArgumentDigest c (getD result.detail "call_id" .null)
          (getD result.detail "tool_name" .null) (getD result.detail "arguments" .null) =
          callArgumentsDigest c callId call := by
  refine outcome_claimPending (fun stored other => ?_) (fun _ claim claimed other => ?_)
    fun _ result replayed plain detail => ?_
  · exact absurd (fits.resolve_left stored) other
  · refine absurd ?_ other
    rw [OperationRecord.admits, claimed]
    rfl
  · obtain ⟨granted, -, handed⟩ := @handed_claimDetail c _ _ _ _ _ _ _ plain detail
    exact ⟨result, rfl, granted, handed⟩

theorem claimPending_refuses (unfit : ¬ Fits record argumentDigest) :
    Outcome world log (claimPending c record call claimantId suspensionId callId argumentDigest)
      fun _ p => ∃ result, p = .done result ∧
        get? result.detail "error" = some (.str "argument_digest_mismatch") :=
  outcome_claimPending (fun _ _ => ⟨_, rfl, rfl⟩) (fun fits _ _ _ => absurd fits unfit)
    fun fits _ _ _ _ => absurd fits unfit

theorem exists_other (text : String) : ∃ other : String, other ≠ text := by
  by_cases empty : text = ""
  · exact ⟨"other", by rw [empty]; decide⟩
  · exact ⟨"", Ne.symm empty⟩

/-- **Where the claims are bound, the digest is.** -/
theorem BindsClaims.boundDigest (found : stored log operationId = some record)
    (binds : BindsClaims c log operationId record) : BoundDigest c record := by
  intro waiting suspensionId callId call current pending
  have claims : ∀ {claimantId argumentDigest : String} {Q : Log → Ctl OperationControllerResult → Prop},
      Outcome world (⟨ControllerOp.load operationId, some record⟩ :: log)
        (claimPending c record call claimantId suspensionId callId argumentDigest) Q →
      ∃ log' p, BindsClaim c record suspensionId callId argumentDigest p ∧ Q log' p := by
    intro claimantId argumentDigest Q outcome
    rw [← claimRecord_of_pending current pending] at outcome
    exact (binds claimantId suspensionId callId argumentDigest).exists_both world_total
      (outcome_claimToolExecution found waiting outcome)
  have stored : record.slices.argumentDigest.getD "" ≠ "" := by
    intro empty
    obtain ⟨wrong, other⟩ := exists_other (callArgumentsDigest c callId call)
    obtain ⟨_, _, bound, result, rfl, granted, handed⟩ :=
      claims (@claimPending_grants c _ record suspensionId callId wrong call (.inl empty))
    exact other ((bound.handed result rfl granted).trans handed)
  refine ⟨stored, ?_⟩
  by_contra other
  have unfit : ¬ Fits record (callArgumentsDigest c callId call) :=
    not_or.mpr ⟨stored, Ne.symm other⟩
  obtain ⟨_, _, bound, result, rfl, mismatch⟩ :=
    claims (@claimPending_refuses c _ record "" suspensionId callId _ call unfit)
  exact bound.accepted call current pending rfl result rfl mismatch

/-- **Where the digest is bound, the claims are.** -/
theorem BoundDigest.bindsClaims (found : stored log operationId = some record)
    (bound : BoundDigest c record) : BindsClaims c log operationId record := by
  intro claimantId suspensionId callId argumentDigest
  refine outcome_load ?_
  rw [found]
  dsimp only
  split
  · refine outcome_done (bindsClaim_refused (by rintro ⟨⟩) fun same => ?_)
    exact absurd (Json.str.inj (Option.some.inj same)) (by decide)
  · rename_i waiting
    by_cases absent : ∀ call, CurrentSuspension record suspensionId →
        ¬ PendingCall record callId call
    · exact claimRecord_binds_of_absent absent
    · push Not at absent
      obtain ⟨call, current, pending⟩ := absent
      obtain ⟨stored, same⟩ := bound (not_not.mp waiting) suspensionId callId call current pending
      rw [claimRecord_of_pending current pending]
      exact claimPending_binds pending stored same

/-- **The claims of an operation are bound exactly where the digest of its record is**: for every log
and every stored record, every granted claim has presented the digest of the call that it was handed,
and no claim with the digest of a pending call of the current suspension is refused as a mismatch, if
and only if the record, where it waits for a tool result, keeps an argument digest that is not empty and
is that of every pending call that can be claimed. -/
theorem bindsClaims_iff (c : OperationController) (log : Log) (operationId : String)
    (record : OperationRecord) (found : stored log operationId = some record) :
    BindsClaims c log operationId record ↔ BoundDigest c record :=
  ⟨BindsClaims.boundDigest found, BoundDigest.bindsClaims found⟩

theorem pendingTask_bindsClaims_iff : ∃ record, stored pendingTask "op-1" = some record ∧
    (BindsClaims .complete pendingTask "op-1" record ↔ BoundDigest .complete record) := by
  obtain ⟨record, found, -⟩ : ∃ record, stored pendingTask "op-1" = some record ∧ True :=
    stored_of_any (by decide +kernel)
  exact ⟨record, found, bindsClaims_iff _ _ _ record found⟩

/-! ### The record of a granted approval -/

/-! ### A claim without a digest -/

/-- **A claim without any digest is granted.** -/
theorem claims_unbound :
    ¬ ∀ (c : OperationController) (log : Log) (operationId : String) (record : OperationRecord),
      Reachable c log → stored log operationId = some record →
      BindsClaims c log operationId record := by
  intro every
  obtain ⟨record, found, waiting, current, digest, pending⟩ : ∃ record,
      stored pendingTask "op-1" = some record ∧ record.state = .suspendedForToolResult ∧
        record.slices.suspensionId = some (.str "susp-1") ∧ record.slices.argumentDigest = none ∧
        record.slices.pendingCalls = get? (readResult "susp-1" "call-1") "pending_calls" :=
    stored_of_any (by decide +kernel)
  have bound := (every _ _ _ record pendingTask_reachable found).boundDigest found
  have named : CurrentSuspension record "susp-1" := by
    rw [CurrentSuspension, current]
    rfl
  have listed : iterate (record.slices.pendingCalls.getD (.arr [])) =
      .ok [.obj [("call_id", .str "call-1"), ("tool_name", .str "file_read"),
        ("arguments", .obj [("path", .str "src/auth.py")])]] := by
    rw [pending]
    rfl
  have kept := (bound waiting "susp-1" "call-1" _ named ⟨_, listed, rfl⟩).1
  rw [digest] at kept
  exact kept rfl

end Audisor.Controller
