/-
**Which records can be resumed.**

* `Resumes` — a call of `resume` or `retry_aflow` for the operation.
* `Accepts` — whatever the adapters answer, the call moves the operation to another state. `Refuses` —
  it saves nothing: the answer is an error, or the replay of an earlier retry.
* `Cancels` — a cancellation moves the operation to `cancelled_by_user`.
* **`accepts_iff_suspended`** — a stored record is accepted by some call exactly when it is suspended;
  any other is refused by every call, and left by a cancellation only, unless it is terminal or waits
  to be started.
-/

import Audisor.Controller.ApprovalGate

namespace Audisor.Controller

open Interaction Json

variable {c : OperationController} {log log' : Log} {record : OperationRecord} {operationId : String}

/-! ### Calls that go on with an operation -/

/-- A call of `resume` or `retry_aflow` for the operation. -/
def Resumes (operationId : String) : Request → Prop
  | .resume operation _ | .retryAflow operation _ _ _ => operation = operationId
  | _ => False

/-- Since `log`, the operation was saved in a state that satisfies `P`. -/
def SavedIn (operationId : String) (P : OperationState → Prop) (log log' : Log) : Prop :=
  ∃ new, log' = new ++ log ∧ ∃ next, ⟨ControllerOp.save next, ()⟩ ∈ new ∧
    next.operationId = operationId ∧ P next.state

/-- Every run of the call moves the operation to another state. -/
def Accepts (c : OperationController) (log : Log) (operationId : String) (record : OperationRecord)
    (request : Request) : Prop :=
  Outcome world log (c.handle request) fun log' _ =>
    SavedIn operationId (fun state => state ≠ record.state) log log'

def Refuses (c : OperationController) (log : Log) (request : Request) : Prop :=
  Outcome world log (c.handle request) fun log' _ =>
    ∃ new, log' = new ++ log ∧ ∀ event ∈ new, ControllerOp.Reads event.op

def Cancels (c : OperationController) (log : Log) (operationId reason : String) : Prop :=
  Outcome world log (c.handle (.cancel operationId reason)) fun log' _ =>
    SavedIn operationId (fun state => state = .cancelledByUser) log log'

/-! ### What the calls do -/

theorem outcome_saved {β : Type} {next : OperationRecord} {P : OperationState → Prop}
    {rest : Unit → Ctl β} (same : next.operationId = operationId) (reached : P next.state) :
    Outcome world (⟨ControllerOp.load operationId, some record⟩ :: log) (save next >>= rest)
      fun log' _ => SavedIn operationId P log log' := by
  refine outcome_save fun log' p run _ => ?_
  obtain ⟨new, rfl⟩ := run.suffix
  refine ⟨new ++ [⟨ControllerOp.save next, ()⟩, ⟨ControllerOp.load operationId, some record⟩],
    by simp, next, ?_, same, reached⟩
  exact List.mem_append_right _ List.mem_cons_self

/-- **A suspended record is accepted** by a resumption without input. -/
theorem resume_accepts (found : stored log operationId = some record)
    (suspended : record.state ∈ suspendedStates) :
    Accepts c log operationId record (.resume operationId (some [])) := by
  refine (outcome_resume_iff found suspended []).mpr ?_
  rw [resumeRecord, if_neg (by decide), if_neg (by decide), resumeUntyped,
    OperationRecord.transition_of_allows (resumeTarget_allowed suspended)]
  have same : record.operationId = operationId := stored_operationId found
  refine outcome_saved (by exact same) fun kept => ?_
  have stays : resumeTarget record = record.state := kept
  exact resumeTarget_not_suspended record (by rwa [stays])

/-- **A record that is not suspended is refused** by every resumption and every retry. -/
theorem resumes_refused (found : stored log operationId = some record)
    (live : record.state ∉ suspendedStates) {request : Request}
    (resumes : Resumes operationId request) : Refuses c log request := by
  have loaded : ∃ new, (⟨ControllerOp.load operationId, some record⟩ :: log : Log) = new ++ log ∧
      ∀ event ∈ new, ControllerOp.Reads event.op :=
    ⟨[⟨ControllerOp.load operationId, some record⟩], rfl, by simp [ControllerOp.Reads]⟩
  cases request with
  | resume operation resumeInput =>
    cases resumes
    refine outcome_load ?_
    rw [found]
    dsimp only
    rw [if_pos live]
    exact outcome_done loaded
  | retryAflow operation operationVersion idempotencyKey provider =>
    cases resumes
    refine outcome_load ?_
    rw [found]
    dsimp only
    split
    · rename_i stored _
      cases loadsValue (.str stored) with
      | error error => exact outcome_raise loaded
      | ok retry => exact outcome_done loaded
    · rw [if_pos fun recovering => live (by rw [recovering]; decide)]
      exact outcome_done loaded
  | _ => exact resumes.elim

/-- **Every record that was started and has not ended may be cancelled.** -/
theorem cancel_cancels (found : stored log operationId = some record)
    (live : record.state ∉ terminalStates) (started : record.state ≠ .received) (reason : String) :
    Cancels c log operationId reason := by
  have allowed : record.Allows .cancelledByUser := by
    refine ⟨live, ?_⟩
    cases state : record.state <;> rw [state] at live started <;>
      first | exact absurd live (by decide) | exact absurd rfl started | decide
  refine outcome_load ?_
  rw [found]
  dsimp only
  rw [if_neg live, OperationRecord.transition_of_allows allowed]
  have same : record.operationId = operationId := stored_operationId found
  exact outcome_saved (by exact same) rfl

theorem not_accepts_of_refuses {request : Request} (refuses : Refuses c log request) :
    ¬ Accepts c log operationId record request := by
  intro accepts
  obtain ⟨log', p, ⟨new, grown, next, member, _⟩, new', same, reads⟩ :=
    accepts.exists_both world_total refuses
  rw [grown] at same
  rw [List.append_cancel_right same] at member
  exact reads _ member

/-- **A record can be resumed exactly when it is suspended**: some call of `resume` or `retry_aflow`
moves a stored record on if and only if its state is one of the suspended states; every other record is
refused by all of them, and moved by a cancellation unless it is terminal or only received. -/
theorem accepts_iff_suspended (c : OperationController) (log : Log) (operationId : String)
    (record : OperationRecord) (found : stored log operationId = some record) :
    ((∃ request, Resumes operationId request ∧ Accepts c log operationId record request) ↔
        record.state ∈ suspendedStates) ∧
      (record.state ∉ suspendedStates →
        ∀ request, Resumes operationId request → Refuses c log request) ∧
      (record.state ∉ terminalStates → record.state ≠ .received →
        ∀ reason, Cancels c log operationId reason) := by
  refine ⟨⟨?_, fun suspended => ?_⟩, fun live request => resumes_refused found live, ?_⟩
  · rintro ⟨request, resumes, accepts⟩
    by_contra live
    exact not_accepts_of_refuses (resumes_refused found live resumes) accepts
  · exact ⟨.resume operationId (some []), rfl, resume_accepts found suspended⟩
  · exact fun live started reason => cancel_cancels found live started reason

/-! ### A decision that nobody can make -/

def Raises : Event controllerSignature → Prop
  | ⟨.createPlan _ _, .error _⟩ | ⟨.resumePlan _ _, .error _⟩ | ⟨.review _ _ _, .error _⟩
  | ⟨.fulfil _ _ _, .error _⟩ | ⟨.execute _ _ _, .error _⟩ | ⟨.resumeExecution _ _, .error _⟩
  | ⟨.chatTurn _ _ _, .error _⟩ => True
  | _ => False

instance : DecidablePred Raises
  | ⟨.createPlan _ _, .error _⟩ | ⟨.resumePlan _ _, .error _⟩ | ⟨.review _ _ _, .error _⟩
  | ⟨.fulfil _ _ _, .error _⟩ | ⟨.execute _ _ _, .error _⟩ | ⟨.resumeExecution _ _, .error _⟩
  | ⟨.chatTurn _ _ _, .error _⟩ => .isTrue trivial
  | ⟨.createPlan _ _, .ok _⟩ | ⟨.resumePlan _ _, .ok _⟩ | ⟨.review _ _ _, .ok _⟩
  | ⟨.fulfil _ _ _, .ok _⟩ | ⟨.execute _ _ _, .ok _⟩ | ⟨.resumeExecution _ _, .ok _⟩
  | ⟨.chatTurn _ _ _, .ok _⟩ | ⟨.load _, _⟩ | ⟨.save _, _⟩ | ⟨.append _ _ _ _, _⟩
  | ⟨.tokenHex _, _⟩ | ⟨.uuid4Hex, _⟩ => .isFalse id

def AllConfigured (c : OperationController) : Prop :=
  c.hasPlanning = true ∧ c.hasReview = true ∧ c.hasFulfilment = true ∧ c.hasExecution = true ∧
    c.hasChat = true

@[irreducible] def decisionTask : Log :=
  session .complete
    [(.accept "task" "fix the auth bug" none (some "op-1") none,
      [.adapter (.ok [("plan", .obj [("goal", .str "auth")])]),
        .adapter (.ok [("decision", .str "material_gap_found")]),
        .adapter (.ok [("all_resolved", .bool false),
          ("unresolved", .arr [.obj [("needs_decision", .bool true)]])])])] []

theorem decisionTask_reachable : Reachable .complete decisionTask := by
  unfold decisionTask
  exact session_reachable _ _ [] .empty

theorem decisionTask_accepts_iff :
    ∃ record, stored decisionTask "op-1" = some record ∧
      ((∃ request, Resumes "op-1" request ∧ Accepts .complete decisionTask "op-1" record request) ↔
          record.state ∈ suspendedStates) ∧
        (record.state ∉ suspendedStates →
          ∀ request, Resumes "op-1" request → Refuses .complete decisionTask request) ∧
        (record.state ∉ terminalStates → record.state ≠ .received →
          ∀ reason, Cancels .complete decisionTask "op-1" reason) := by
  obtain ⟨record, found, _⟩ : ∃ record, stored decisionTask "op-1" = some record ∧ True :=
    stored_of_any (by decide +kernel)
  exact ⟨record, found, accepts_iff_suspended .complete decisionTask "op-1" record found⟩

theorem decisionTask_dead_end :
    ¬ ∀ (c : OperationController) (log : Log) (operationId : String) (record : OperationRecord),
      Reachable c log → AllConfigured c → (∀ event ∈ log, ¬ Raises event) →
      stored log operationId = some record → record.state ∉ terminalStates →
      record.state ≠ .received →
      ∃ request, Resumes operationId request ∧ Accepts c log operationId record request := by
  intro every
  obtain ⟨record, found, state⟩ : ∃ record, stored decisionTask "op-1" = some record ∧
      record.state = .awaitingDecision := stored_of_any (by decide +kernel)
  obtain ⟨request, resumes, accepts⟩ := every _ _ _ record decisionTask_reachable
    ⟨rfl, rfl, rfl, rfl, rfl⟩ (by decide +kernel) found (by rw [state]; decide)
    (by rw [state]; decide)
  have refuses := resumes_refused (c := .complete) found (by rw [state]; decide) resumes
  exact not_accepts_of_refuses refuses accepts

end Audisor.Controller
