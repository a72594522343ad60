/-
**The approval gate of a suspended operation.**

* `ApprovingDecision` — an `approval_decision` with a true `approved` that passes the checks of the
  suspension and of the digest.
* `StaysGated` — the operation still waits for the approval, or is cancelled, and no adapter was
  asked to resume.
* `GuardedRoute` — the resumption is an `approval_decision`, or tool results that a claimed
  suspension does not take.
* **`resume_gated_iff`** — every run of a resumption that is no approving decision keeps the operation
  gated, exactly on the guarded routes. The untyped route, and tool results for an unclaimed
  suspension, lead past the gate: `resumeTarget` has a target for a suspension for approval.
-/

import Audisor.Controller.Runs

namespace Audisor.Controller

open Interaction Json

variable {c : OperationController} {log log' : Log} {record : OperationRecord} {operationId : String}

/-! ### Decisions and routes -/

/-- A decision that grants the approval and passes every check. -/
def ApprovingDecision (c : OperationController) (record : OperationRecord) (resumeInput : Dict) :
    Prop :=
  resumeType resumeInput = .str "approval_decision" ∧
    (getD resumeInput "approved" (.bool false)).truthy = true ∧
    approvalSuspensionMatches record.slices (getD resumeInput "suspension_id" (.str "")) = true ∧
    approvalDigestMatches c record.slices (getD resumeInput "call_id" (.str "")) = true

def MatchesClaim (claim : ExecutionClaim) (result : Json) : Prop :=
  ∃ fields, result = .obj fields ∧ ((getD fields "call_id" (.str "")).truthy = true →
    (getD fields "call_id" (.str "") == .str claim.callId) = true)

/-- Results that the suspension takes: it is not claimed, or not consumed and each result matches
the claim. -/
def TakesResults (slices : Slices) (toolResults : Json) : Prop :=
  ∀ claim, slices.executionClaim = some claim →
    slices.suspensionConsumed.getD false = false ∧
      ∃ results, iterate toolResults = .ok results ∧ ∀ result ∈ results, MatchesClaim claim result

def GuardedRoute (record : OperationRecord) (resumeInput : Dict) : Prop :=
  resumeType resumeInput = .str "approval_decision" ∨
    resumeType resumeInput = .str "tool_result" ∧
      ¬ TakesResults record.slices (getD resumeInput "tool_results" (.arr []))

theorem mismatchedResult_eq_none_iff (claim : ExecutionClaim) (results : List Json) :
    mismatchedResult claim.callId results = .ok none ↔ ∀ result ∈ results, MatchesClaim claim result := by
  induction results with
  | nil => simp [mismatchedResult]
  | cons result rest ih =>
    rw [List.forall_mem_cons, ← ih, mismatchedResult]
    cases result with
    | obj fields =>
      simp only [asDict, MatchesClaim, Json.obj.injEq, exists_eq_left']
      cases named : (getD fields "call_id" (.str "")).truthy <;>
        cases same : getD fields "call_id" (.str "") == .str claim.callId <;>
          simp [named, same, bind, Except.bind]
    | _ => simp [asDict, MatchesClaim, bind, Except.bind]

/-- **What `refusedResults` lets through.** -/
theorem refusedResults_eq_none_iff (slices : Slices) (toolResults : Json) :
    refusedResults slices toolResults = .ok none ↔ TakesResults slices toolResults := by
  unfold refusedResults TakesResults
  cases claimed : slices.executionClaim with
  | none => simp
  | some claim =>
    simp only [Option.some.injEq, forall_eq']
    cases consumed : slices.suspensionConsumed.getD false with
    | true =>
      simp only [if_true, Bool.true_eq_false, false_and, iff_false]
      split <;> simp
    | false =>
      simp only [Bool.false_eq_true, if_false, true_and]
      cases items : iterate toolResults with
      | error error => simp [bind, Except.bind]
      | ok results =>
        simp only [bind, Except.bind, Except.ok.injEq, exists_eq_left']
        rw [← mismatchedResult_eq_none_iff]
        cases mismatchedResult claim.callId results with
        | error error => simp
        | ok found => cases found <;> simp

/-! ### The gate -/

def ResumesAdapter : Event controllerSignature → Prop
  | ⟨.resumePlan _ _, _⟩ | ⟨.resumeExecution _ _, _⟩ => True
  | _ => False

/-- Since `log`, no adapter was asked to resume, and the operation still waits or is cancelled. -/
def StaysGated (operationId : String) (log log' : Log) : Prop :=
  (∃ record, stored log' operationId = some record ∧
      (record.state = .suspendedForApproval ∨ record.state = .cancelledByUser)) ∧
    ∀ newer event older, log' = newer ++ event :: older → log <:+ older → ¬ ResumesAdapter event

def KeepsGate (operationId : String) : ControllerOp → Prop
  | .save record => record.operationId = operationId →
    record.state = .suspendedForApproval ∨ record.state = .cancelledByUser
  | .resumePlan _ _ | .resumeExecution _ _ => False
  | _ => True

theorem staysGated_of_keepsGate {new : Log} (found : stored log operationId = some record)
    (waiting : record.state = .suspendedForApproval)
    (keeps : ∀ event ∈ new, KeepsGate operationId event.op) :
    StaysGated operationId log (new ++ log) := by
  constructor
  · induction new with
    | nil => exact ⟨record, found, Or.inl waiting⟩
    | cons event rest ih =>
      obtain ⟨held, inside, state⟩ := ih fun event member => keeps event (List.mem_cons_of_mem _ member)
      have last := keeps event List.mem_cons_self
      obtain ⟨op, answer⟩ := event
      cases op with
      | save next =>
        rw [List.cons_append, stored_save]
        split
        · rename_i same
          exact ⟨next, rfl, last same⟩
        · exact ⟨held, inside, state⟩
      | _ => exact ⟨held, inside, state⟩
  · intro newer event older split part resumes
    have member : event ∈ new := by
      obtain ⟨between, rfl⟩ := part
      have same : new = newer ++ event :: between := by
        refine (List.append_left_inj log).mp ?_
        rw [split, List.append_assoc, List.cons_append]
      rw [same]
      exact List.mem_append_right _ List.mem_cons_self
    have kept := keeps event member
    obtain ⟨op, answer⟩ := event
    cases op with
    | resumePlan => exact kept
    | resumeExecution => exact kept
    | _ => exact resumes

theorem emit_asks {allowed : ControllerOp → Prop} {eventType : String} {payload : Dict}
    (appends : ∀ operationId state eventType payload,
      allowed (.append operationId state eventType payload)) :
    (emit c record eventType payload).Asks allowed := by
  unfold emit
  split
  · trivial
  · refine Program.Asks.bind ⟨appends _ _ _ _, fun _ => trivial⟩ fun _ => ?_
    split
    · exact ⟨appends _ _ _ _, fun _ => trivial⟩
    · trivial

theorem denyApproval_asks (callId : Json) :
    (denyApproval c record callId).Asks (KeepsGate record.operationId) := by
  unfold denyApproval
  rcases record.transition_cases .cancelledByUser "approval_denied" with
    ⟨_, done⟩ | ⟨_, message, failed⟩
  · simp only [done]
    refine Program.Asks.bind ⟨fun _ => Or.inr rfl, fun _ => trivial⟩ fun _ => ?_
    exact Program.Asks.bind (emit_asks fun _ _ _ _ => trivial) fun _ => trivial
  · simp only [failed]
    trivial

theorem handleApprovalDecision_asks {resumeInput : Dict}
    (decision : resumeType resumeInput = .str "approval_decision")
    (other : ¬ ApprovingDecision c record resumeInput) :
    (handleApprovalDecision c record resumeInput).Asks (KeepsGate record.operationId) := by
  unfold handleApprovalDecision
  dsimp only
  split
  · trivial
  · rename_i suspension
    split
    · split <;> trivial
    · split
      · trivial
      · rename_i digest
        split
        · exact denyApproval_asks _
        · rename_i approved
          refine absurd ⟨decision, ?_, ?_, ?_⟩ other
          · simpa using approved
          · simpa using suspension
          · simpa using digest

theorem handleToolResult_asks {resumeInput : Dict}
    (refused : ¬ TakesResults record.slices (getD resumeInput "tool_results" (.arr []))) :
    (handleToolResult c record resumeInput).Asks (KeepsGate record.operationId) := by
  rw [← refusedResults_eq_none_iff] at refused
  unfold handleToolResult
  dsimp only
  cases outcome : refusedResults record.slices (getD resumeInput "tool_results" (.arr [])) with
  | error error => trivial
  | ok detail =>
    cases detail with
    | none => exact absurd outcome refused
    | some detail => trivial

theorem resumeRecord_asks {resumeInput : Dict} (guarded : GuardedRoute record resumeInput)
    (other : ¬ ApprovingDecision c record resumeInput) :
    (resumeRecord c record resumeInput).Asks (KeepsGate record.operationId) := by
  unfold resumeRecord
  rcases guarded with decision | ⟨results, refused⟩
  · rw [if_pos decision]
    exact handleApprovalDecision_asks decision other
  · rw [if_neg (by rw [results]; decide), if_pos results]
    exact handleToolResult_asks refused

/-! ### Past the gate -/

theorem resumeRecord_passes {resumeInput : Dict} (waiting : record.state = .suspendedForApproval)
    (unguarded : ¬ GuardedRoute record resumeInput) :
    ∃ next rest, next.operationId = record.operationId ∧ next.state = resumeTarget record ∧
      resumeRecord c record resumeInput = save next >>= rest := by
  have suspended : record.state ∈ suspendedStates := by rw [waiting]; decide
  unfold GuardedRoute at unguarded
  rw [not_or, not_and_not_right] at unguarded
  obtain ⟨other, takes⟩ := unguarded
  unfold resumeRecord
  rw [if_neg other]
  by_cases results : resumeType resumeInput = .str "tool_result"
  · rw [if_pos results]
    have taken := (refusedResults_eq_none_iff _ _).mpr (takes results)
    unfold handleToolResult
    dsimp only
    rw [taken, Program.ofExcept_ok, Program.done_bind,
      OperationRecord.transition_of_allows (resumeTarget_allowed suspended)]
    exact ⟨(record.moved (resumeTarget record) "tool_result_submitted").consumed
      (getD resumeInput "tool_results" (.arr [])), _, by simp, by simp, rfl⟩
  · rw [if_neg results]
    unfold resumeUntyped
    rw [OperationRecord.transition_of_allows (resumeTarget_allowed suspended)]
    exact ⟨record.moved (resumeTarget record) "resumed with input", _, rfl, rfl, rfl⟩

theorem resumeTarget_of_approval (waiting : record.state = .suspendedForApproval) :
    resumeTarget record = .planning ∨ resumeTarget record = .sandboxRunning := by
  simp only [resumeTarget, waiting]
  split
  · exact Or.inr rfl
  · split
    · exact Or.inl rfl
    · exact Or.inr rfl

/-- A call of `resume` loads the suspended record, and goes on with it. -/
theorem exec_resume_iff (found : stored log operationId = some record)
    (suspended : record.state ∈ suspendedStates) (resumeInput : Option Dict)
    {p : Ctl OperationControllerResult} :
    Exec world log (resume c operationId resumeInput) log' p ↔
      log' = log ∧ p = resume c operationId resumeInput ∨
        Exec world (⟨ControllerOp.load operationId, some record⟩ :: log)
          (resumeRecord c record (resumeInput.getD [])) log' p := by
  have goesOn : (if record.state ∉ suspendedStates then
      (return ⟨operationId, record.state,
        errorDetail ("operation is not suspended (state=" ++ record.state.value ++ ")")⟩ : Ctl _)
      else resumeRecord c record (resumeInput.getD [])) =
        resumeRecord c record (resumeInput.getD []) := if_neg (not_not.mpr suspended)
  constructor
  · intro run
    cases run with
    | refl => exact Or.inl ⟨rfl, rfl⟩
    | ask answer answered rest =>
      cases (show answer = stored log operationId from answered)
      rw [found] at rest
      exact Or.inr (goesOn ▸ rest)
  · rintro (⟨rfl, rfl⟩ | run)
    · exact .refl _ _
    · rw [← goesOn] at run
      exact .ask (some record) found.symm run

theorem outcome_resume_iff (found : stored log operationId = some record)
    (suspended : record.state ∈ suspendedStates) (resumeInput : Dict)
    {Q : Log → Ctl OperationControllerResult → Prop} :
    Outcome world log (resume c operationId (some resumeInput)) Q ↔
      Outcome world (⟨ControllerOp.load operationId, some record⟩ :: log)
        (resumeRecord c record resumeInput) Q := by
  constructor
  · intro outcome log' p run ended
    exact outcome log' p ((exec_resume_iff found suspended (some resumeInput)).mpr (Or.inr run)) ended
  · intro outcome log' p run ended
    rcases (exec_resume_iff found suspended (some resumeInput)).mp run with ⟨_, rfl⟩ | inside
    · exact ended.elim
    · exact outcome log' p inside ended

/-- **The approval gate holds exactly on the guarded routes**: of an operation that waits for an
approval, every run of a resumption that is no approving decision leaves it waiting or cancelled and
asks no adapter to resume, if and only if the resumption is an `approval_decision` or brings tool
results that the suspension refuses. -/
theorem resume_gated_iff (found : stored log operationId = some record)
    (waiting : record.state = .suspendedForApproval) (resumeInput : Option Dict) :
    (∀ log' p, Exec world log (resume c operationId resumeInput) log' p →
        ApprovingDecision c record (resumeInput.getD []) ∨ StaysGated operationId log log') ↔
      GuardedRoute record (resumeInput.getD []) := by
  have suspended : record.state ∈ suspendedStates := by rw [waiting]; decide
  have same : record.operationId = operationId := stored_operationId found
  constructor
  · intro gated
    by_contra unguarded
    obtain ⟨next, rest, sameId, state, program⟩ := resumeRecord_passes (c := c) waiting unguarded
    have run : Exec world log (resume c operationId resumeInput)
        (⟨ControllerOp.save next, ()⟩ :: ⟨ControllerOp.load operationId, some record⟩ :: log)
        (rest ()) := by
      refine (exec_resume_iff found suspended resumeInput).mpr (Or.inr ?_)
      rw [program]
      exact .ask () trivial (.refl _ _)
    rcases gated _ _ run with ⟨decision, _⟩ | ⟨⟨held, holds, kept⟩, _⟩
    · exact unguarded (Or.inl decision)
    · rw [stored_save, sameId, same, if_pos rfl] at holds
      cases holds
      rw [state] at kept
      rcases resumeTarget_of_approval waiting with target | target <;> rw [target] at kept <;>
        exact absurd kept (by decide)
  · intro guarded log' p run
    by_cases approving : ApprovingDecision c record (resumeInput.getD [])
    · exact Or.inl approving
    · refine Or.inr ?_
      rcases (exec_resume_iff found suspended resumeInput).mp run with ⟨rfl, _⟩ | inside
      · exact staysGated_of_keepsGate found waiting (List.forall_mem_nil _)
      · obtain ⟨new, rfl, keeps⟩ := inside.asked (resumeRecord_asks guarded approving)
        rw [same] at keeps
        rw [← List.singleton_append, ← List.append_assoc]
        refine staysGated_of_keepsGate found waiting fun event member => ?_
        rcases List.mem_append.mp member with later | load
        · exact keeps event later
        · rw [List.mem_singleton] at load
          subst load
          trivial

/-- A task whose planning waits for the approval of a shell command. -/
@[irreducible] def gatedTask : Log :=
  session .complete
    [(.accept "task" "fix the auth bug" none (some "op-1") none,
      [.adapter (.ok [("status", .str "suspended"), ("suspend_state", .str "suspended_for_approval"),
        ("suspension_id", .str "susp-1"),
        ("tool_call", .obj [("call_id", .str "call-1"), ("tool_name", .str "shell_exec"),
          ("arguments", .obj [("command", .str "ls")])])])])] []

theorem gatedTask_reachable : Reachable .complete gatedTask := by
  unfold gatedTask
  exact session_reachable _ _ [] .empty

theorem gatedTask_waiting :
    ∃ record, stored gatedTask "op-1" = some record ∧ record.state = .suspendedForApproval :=
  stored_of_any (by decide +kernel)

/-- The untyped resumption of the gated task, with a planning adapter that goes on. -/
@[irreducible] def passedTask : Log × Ctl OperationControllerResult :=
  play (resume .complete "op-1" none) gatedTask [.adapter (.ok [("plan", .obj [])])]

theorem passedTask_not_gated :
    ¬ ∀ (c : OperationController) (log log' : Log) (operationId : String) (record : OperationRecord)
      (resumeInput : Option Dict) (p : Ctl OperationControllerResult), Reachable c log →
      stored log operationId = some record → record.state = .suspendedForApproval →
      Exec world log (resume c operationId resumeInput) log' p →
      ApprovingDecision c record (resumeInput.getD []) ∨ StaysGated operationId log log' := by
  intro every
  obtain ⟨record, found, waiting⟩ := gatedTask_waiting
  have run : Exec world gatedTask (resume .complete "op-1" none) passedTask.1 passedTask.2 := by
    unfold passedTask
    exact play_exec _ _ _
  rcases every _ _ _ _ record none _ gatedTask_reachable found waiting run with
    ⟨decision, _⟩ | ⟨⟨held, holds, state⟩, _⟩
  · exact absurd decision (by decide)
  · obtain ⟨passed, found', reviewing⟩ : ∃ record, stored passedTask.1 "op-1" = some record ∧
        record.state = .reviewing := stored_of_any (by decide +kernel)
    rw [holds, Option.some.injEq] at found'
    rw [found', reviewing] at state
    exact absurd state (by decide)

theorem gatedTask_gated_iff :
    ∃ record, stored gatedTask "op-1" = some record ∧ ∀ resumeInput : Option Dict,
      (∀ log' p, Exec world gatedTask (resume .complete "op-1" resumeInput) log' p →
          ApprovingDecision .complete record (resumeInput.getD []) ∨
            StaysGated "op-1" gatedTask log') ↔ GuardedRoute record (resumeInput.getD []) := by
  obtain ⟨record, found, waiting⟩ := gatedTask_waiting
  exact ⟨record, found, resume_gated_iff found waiting⟩

end Audisor.Controller
