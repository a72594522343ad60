/-
**The shape of a persisted record.**

* `LinkedFrom` — the history links the states by valid transitions, from a first state to a last one.
* `HasSuspendReason`, `WellFormed` — the history runs from `received` to the current state, and the
  record gives a reason for a suspension exactly when it is suspended.
* `GivesReason`, `Reasoned` — a condition on the adapters' answers: a suspension is one of the two that
  the controller has a state for and does not withhold its reason, and a review makes a decision.
* **`record_wellFormed`** — in every run whose adapters meet the condition, every stored record is well
  formed, and one that reports a suspension may be resumed.

A suspension of another type leaves the record in the state of its phase, with a reason to be suspended.
-/

import Audisor.Controller.Runs

namespace Audisor.Controller

open Interaction Json

variable {c : OperationController} {log : Log} {k k' : CallState}
  {record next : OperationRecord} {result : Dict} {operationId : String}

/-! ### Well-formed records -/

/-- The entries lead from the first state to the last, each by a valid transition. -/
def LinkedFrom (first : OperationState) : List HistoryEntry → OperationState → Prop
  | [], last => last = first
  | entry :: rest, last =>
    entry.source = first ∧ first ∉ terminalStates ∧ entry.target ∈ transitions first ∧
      LinkedFrom entry.target rest last

/-- `record.suspend_reason is not None`. -/
def HasSuspendReason (record : OperationRecord) : Prop :=
  ∃ reason, record.suspendReason = some reason ∧ reason ≠ .null

structure WellFormed (record : OperationRecord) : Prop where
  history : LinkedFrom .received record.history record.state
  reason : HasSuspendReason record ↔ record.state ∈ suspendedStates

/-! #### The history -/

theorem LinkedFrom.append {first source target : OperationState} {history : List HistoryEntry}
    (linked : LinkedFrom first history source) (live : source ∉ terminalStates)
    (valid : target ∈ transitions source) (reason : String) :
    LinkedFrom first (history ++ [⟨source, target, reason⟩]) target := by
  induction history generalizing first with
  | nil =>
    cases linked
    exact ⟨rfl, live, valid, rfl⟩
  | cons entry rest ih => exact ⟨linked.1, linked.2.1, linked.2.2.1, ih linked.2.2.2⟩

/-- **Every advance of a record links its history.** -/
theorem Advances.linked (advances : Advances record next)
    (linked : LinkedFrom .received record.history record.state) :
    LinkedFrom .received next.history next.state := by
  rcases advances.2 with ⟨state, history⟩ | ⟨⟨live, valid⟩, reason, history⟩
  · rw [state, history]
    exact linked
  · rw [history]
    exact linked.append live valid reason

/-! #### The reason of a suspension -/

theorem hasSuspendReason_none (none : record.suspendReason = none) : ¬ HasSuspendReason record := by
  rintro ⟨reason, holds, _⟩
  rw [none] at holds
  cases holds

theorem hasSuspendReason_some (reason : Json) (holds : record.suspendReason = some reason) :
    HasSuspendReason record ↔ reason ≠ .null := by
  unfold HasSuspendReason
  rw [holds]
  simp

/-- **A live record has lost its reason.** -/
theorem reason_of_live (live : next.state ∉ suspendedStates) (none : next.suspendReason = none) :
    HasSuspendReason next ↔ next.state ∈ suspendedStates :=
  iff_of_false (hasSuspendReason_none none) live

theorem moved_reason {target : OperationState} (live : target ∉ suspendedStates)
    (record : OperationRecord) (reason : String) :
    (record.moved target reason).suspendReason = none :=
  if_neg live

@[simp] theorem consumed_suspendReason (toolResults : Json) :
    (record.consumed toolResults).suspendReason = record.suspendReason := by
  unfold OperationRecord.consumed
  split <;> rfl

@[simp] theorem withContinuation_suspendReason :
    (record.withContinuation result).suspendReason = record.suspendReason := by
  unfold OperationRecord.withContinuation
  split <;> rfl

@[simp] theorem providerErrorSuspended_suspendReason :
    (providerErrorSuspended record result).suspendReason = some (.str "aflow_provider_error") := by
  unfold providerErrorSuspended
  dsimp only
  split <;> rfl

@[simp] theorem otherSuspended_suspendReason (phase : String) :
    (otherSuspended record result phase).suspendReason =
      some (getD result "reason" (.str phase)) := by
  simp [otherSuspended, OperationRecord.withSlices]

/-! ### What the adapters have to say -/

/-- The result gives `None` as its reason. -/
def WithholdsReason (result : Dict) : Prop := get? result "reason" = some .null

/-- A suspension for an approval gives a reason, one for a tool result needs none, and any other
withholds it. -/
def GivesReason (result : Dict) : Prop :=
  Suspends result →
    (suspendState result = .str "suspended_for_approval" → ¬ WithholdsReason result) ∧
    (suspendState result ≠ .str "suspended_for_approval" →
      suspendState result ≠ .str "suspended_for_tool_result" → WithholdsReason result)

/-- The answer of an adapter, as far as the reasons of suspensions are concerned. -/
def Reasoned : Event controllerSignature → Prop
  | ⟨.createPlan _ _, .ok result⟩ | ⟨.resumePlan _ _, .ok result⟩ | ⟨.execute _ _ _, .ok result⟩
  | ⟨.resumeExecution _ _, .ok result⟩ => GivesReason result
  | ⟨.review _ _ _, .ok result⟩ => decisionOf result ≠ .null
  | _ => True

instance : DecidablePred GivesReason := fun result =>
  inferInstanceAs (Decidable (getD result "status" (.str "") = .str "suspended" →
    (suspendState result = .str "suspended_for_approval" → ¬ get? result "reason" = some .null) ∧
    (suspendState result ≠ .str "suspended_for_approval" →
      suspendState result ≠ .str "suspended_for_tool_result" → get? result "reason" = some .null)))

instance : DecidablePred Reasoned
  | ⟨.createPlan _ _, .ok result⟩ | ⟨.resumePlan _ _, .ok result⟩ | ⟨.execute _ _ _, .ok result⟩
  | ⟨.resumeExecution _ _, .ok result⟩ => inferInstanceAs (Decidable (GivesReason result))
  | ⟨.review _ _ _, .ok result⟩ => inferInstanceAs (Decidable (decisionOf result ≠ .null))
  | ⟨.createPlan _ _, .error _⟩ | ⟨.resumePlan _ _, .error _⟩ | ⟨.execute _ _ _, .error _⟩
  | ⟨.resumeExecution _ _, .error _⟩ | ⟨.review _ _ _, .error _⟩ | ⟨.load _, _⟩ | ⟨.save _, _⟩
  | ⟨.append _ _ _ _, _⟩ | ⟨.fulfil _ _ _, _⟩ | ⟨.chatTurn _ _ _, _⟩ | ⟨.tokenHex _, _⟩
  | ⟨.uuid4Hex, _⟩ => .isTrue trivial

theorem getD_reason_eq_null_iff (text : String) :
    getD result "reason" (.str text) = .null ↔ WithholdsReason result := by
  unfold getD WithholdsReason
  cases get? result "reason" <;> simp

def AnswerReasoned : CallState → Prop
  | .planned _ result | .executed _ result => GivesReason result
  | .reviewed _ _ result => decisionOf result ≠ .null
  | _ => True

/-! ### The invariant -/

theorem Returned.reasoned {phase : String} (returned : Returned k record result phase)
    (reasoned : AnswerReasoned k) : GivesReason result := by
  cases returned <;> exact reasoned

theorem Returned.live {phase : String} (returned : Returned k record result phase) :
    record.state ∉ suspendedStates := by
  cases returned with
  | planning state _ => rw [state]; decide
  | execution state => rw [state]; decide

/-- **Every save gives a reason exactly for a suspension**, where the adapters do. -/
theorem Saves.reason (saves : Saves c k next k') (reasoned : AnswerReasoned k)
    (held : ∀ record, k.record? = some record →
      (HasSuspendReason record ↔ record.state ∈ suspendedStates)) :
    HasSuspendReason next ↔ next.state ∈ suspendedStates := by
  cases saves with
  | registered => exact reason_of_live (by simp [registeredRecord, suspendedStates]) rfl
  | reviewClean => exact reason_of_live (by simp [suspendedStates]) (moved_reason (by decide) _ _)
  | fulfilmentDone target reason state outcome =>
    have live : target ∉ suspendedStates := by
      intro suspended
      revert outcome
      cases target <;> first | exact absurd suspended (by decide) | decide
    exact reason_of_live live (moved_reason live _ _)
  | providerError =>
    rw [hasSuspendReason_some _ providerErrorSuspended_suspendReason, providerErrorSuspended_state]
    decide
  | evidence reason decision state decided =>
    rw [hasSuspendReason_some _ rfl, decided]
    exact iff_of_true reasoned (by simp [suspendedStates])
  | @approvalSuspension _ record result phase toolCall suspensionId returned suspends kind =>
    have given := ((returned.reasoned reasoned) suspends).1 kind
    rw [hasSuspendReason_some (getD result "reason" (.str "approval_required")) rfl,
      ne_eq, getD_reason_eq_null_iff]
    exact iff_of_true given (by simp [suspendedStates])
  | toolResultSuspension =>
    rw [hasSuspendReason_some (.str "frontend_tool_execution") rfl]
    exact iff_of_true (fun same => Json.noConfusion same) (by simp [suspendedStates])
  | otherSuspension returned suspends kind =>
    have withheld := ((returned.reasoned reasoned) suspends).2 kind.1 kind.2
    rw [hasSuspendReason_some _ (otherSuspended_suspendReason _), ne_eq, getD_reason_eq_null_iff,
      otherSuspended_state]
    exact iff_of_false (not_not.mpr withheld) returned.live
  | @approvalGranted record _ _ _ state =>
    have reason := (held _ rfl).mpr (by rw [state]; decide)
    refine iff_of_true ?_ (by simp [suspendedStates])
    obtain ⟨given, holds, some⟩ := reason
    exact ⟨given, holds, some⟩
  | @toolResults record results =>
    have live := resumeTarget_not_suspended record
    refine reason_of_live (by rwa [consumed_state]) ?_
    rw [consumed_suspendReason]
    exact moved_reason live _ _
  | @resumed record =>
    have live := resumeTarget_not_suspended record
    exact reason_of_live live (moved_reason live _ _)
  | @claimed record => exact held record rfl
  | @retryRecorded record => exact held record rfl
  | _ =>
    refine reason_of_live ?_ ?_ <;>
      simp [suspendedStates, OperationRecord.moved, OperationRecord.withPlan,
        OperationRecord.withArtifacts, OperationRecord.denied, OperationRecord.withSlices]

/-- **Every save keeps the records well formed.** -/
theorem Saves.wellFormed (saves : Saves c k next k') (reasoned : AnswerReasoned k)
    (held : ∀ record, k.record? = some record → WellFormed record) : WellFormed next := by
  refine ⟨?_, saves.reason reasoned fun record holding => (held record holding).reason⟩
  rcases saves.advances with ⟨_, operationId, sourceKind, prompt, rfl⟩ | ⟨record, holding, advances⟩
  · exact rfl
  · exact advances.linked (held record holding).history

theorem answerReasoned_answered {returned : Dict → CallState} {answer : AdapterAnswer}
    (reasoned : ∀ result, answer = .ok result → AnswerReasoned (returned result)) :
    AnswerReasoned (answeredState record returned answer) := by
  cases answer with
  | ok result => exact reasoned result rfl
  | error error => trivial

theorem Moves.answerReasoned {op : ControllerOp} {answer : op.Answer} (move : Moves c k op answer k')
    (event : Reasoned ⟨op, answer⟩) (before : AnswerReasoned k) : AnswerReasoned k' := by
  cases move with
  | save saves => cases saves <;> trivial
  | append => exact before
  | token => exact before
  | uuid => exact before
  | createPlan _ _ answer _ =>
    exact answerReasoned_answered fun result same => by subst same; exact event
  | resumePlan _ answer _ =>
    exact answerReasoned_answered fun result same => by subst same; exact event
  | review _ _ answer _ =>
    exact answerReasoned_answered fun result same => by subst same; exact event
  | fulfil _ _ _ answer _ => exact answerReasoned_answered fun _ _ => trivial
  | execute _ _ answer _ _ =>
    exact answerReasoned_answered fun result same => by subst same; exact event
  | resumeExecution _ answer _ =>
    exact answerReasoned_answered fun result same => by subst same; exact event
  | _ => trivial

theorem wellFormed_invariant (c : OperationController) :
    RunInvariant c fun log k => (∀ event ∈ log, Reasoned event) →
      AnswerReasoned k ∧ ∀ operationId record, stored log operationId = some record →
        WellFormed record where
  empty request _ := ⟨by cases request <;> trivial, fun _ _ found => by cases found⟩
  entry holds request reasoned := ⟨by cases request <;> trivial, (holds reasoned).2⟩
  step {log k op answer k'} coherent holds _ move reasoned := by
    obtain ⟨known, shaped⟩ := holds fun event member => reasoned event (List.mem_cons_of_mem _ member)
    refine ⟨move.answerReasoned (reasoned _ List.mem_cons_self) known, fun operationId record found => ?_⟩
    cases op with
    | save next =>
      rw [stored_save] at found
      split at found
      · cases found
        have entered : k ≠ .vanished := coherent.1
        cases move with
        | save saves =>
          exact saves.wellFormed known fun held holding => shaped _ held (coherent.2 held holding)
        | anything => exact absurd rfl entered
      · exact shaped operationId record found
    | _ => exact shaped operationId record found

/-- **Every stored record is well formed where the adapters give their reasons**: in every run whose
adapter answers meet the condition, the history of every stored record is a chain of valid transitions
from `received` to its state, it has a reason to be suspended exactly when it is, and one that has a
reason may be resumed. -/
theorem record_wellFormed (reachable : Reachable c log) (reasoned : ∀ event ∈ log, Reasoned event)
    (found : stored log operationId = some record) :
    WellFormed record ∧ (HasSuspendReason record → record.Allows (resumeTarget record)) := by
  have shaped := ((wellFormed_invariant c).reachable reachable (.cancel "" "") reasoned).2
    operationId record found
  exact ⟨shaped, fun reason => resumeTarget_allowed (shaped.reason.mp reason)⟩

/-! ### A suspension without a state -/

/-- A task whose planning result is a suspension of this kind. -/
@[irreducible] def suspendedTask (kind : String) : Log :=
  session .complete
    [(.accept "task" "fix the auth bug" none (some "op-1") none,
      [.adapter (.ok [("status", .str "suspended"), ("suspend_state", .str kind),
        ("suspension_id", .str "susp-1")])])] []

theorem suspendedTask_reachable (kind : String) : Reachable .complete (suspendedTask kind) := by
  unfold suspendedTask
  exact session_reachable _ _ [] .empty

theorem suspendedTask_wellFormed :
    ∃ record, stored (suspendedTask "suspended_for_approval") "op-1" = some record ∧
      WellFormed record ∧ (HasSuspendReason record → record.Allows (resumeTarget record)) := by
  obtain ⟨record, found, _⟩ : ∃ record,
      stored (suspendedTask "suspended_for_approval") "op-1" = some record ∧
        record.state = .suspendedForApproval := stored_of_any (by decide +kernel)
  exact ⟨record, found, record_wellFormed (suspendedTask_reachable _) (by decide +kernel) found⟩

theorem suspendedTask_malformed :
    ¬ ∀ (c : OperationController) (log : Log) (operationId : String) (record : OperationRecord),
      Reachable c log → stored log operationId = some record → WellFormed record := by
  intro every
  obtain ⟨record, found, state, reason⟩ : ∃ record,
      stored (suspendedTask "suspended_plan_revision") "op-1" = some record ∧
        record.state = .planning ∧ record.suspendReason = some (.str "planning") :=
    stored_of_any (by decide +kernel)
  have shaped := every _ _ _ record (suspendedTask_reachable _) found
  have suspended := shaped.reason.mp ⟨_, reason, fun same => Json.noConfusion same⟩
  rw [state] at suspended
  exact absurd suspended (by decide)

end Audisor.Controller
