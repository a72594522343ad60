/-
**What the event log covers.**

* `Seen`, `lastEventState` — the states of the events that were appended for an operation.
* `Covered` — every state of the record's history is the state of an event, and a terminal record's
  state is that of the last event.
* `AnnouncedOrSeen` — a condition on the saves: a transition that is not announced leads to a state
  that is not terminal and that an earlier event of the operation has.
* **`lifecycle_covered`** — in every run of whole calls whose saves meet the condition, with an event
  store attached, every stored record is covered.

The transitions to `plan_ready`, `reviewing`, `fulfilling` and those that follow a fulfilment are never
announced, nor is a cancellation.
-/

import Audisor.Controller.Announcements
import Audisor.Controller.ExecutionClaims

namespace Audisor.Controller

open Interaction Json

variable {c : OperationController} {log log' : Log} {record next : OperationRecord}
  {operationId : String} {state : OperationState} {cancels : Bool} {k k' : AnnounceState}

/-! ### The events of an operation -/

def EventOf (operationId : String) (state : OperationState) : Event controllerSignature → Prop
  | ⟨.append operation announced _ _, _⟩ => operation = operationId ∧ announced = state
  | _ => False

instance : DecidablePred (EventOf operationId state)
  | ⟨.append operation announced _ _, _⟩ =>
    inferInstanceAs (Decidable (operation = operationId ∧ announced = state))
  | ⟨.load _, _⟩ | ⟨.save _, _⟩ | ⟨.createPlan _ _, _⟩ | ⟨.resumePlan _ _, _⟩ | ⟨.review _ _ _, _⟩
  | ⟨.fulfil _ _ _, _⟩ | ⟨.execute _ _ _, _⟩ | ⟨.resumeExecution _ _, _⟩ | ⟨.chatTurn _ _ _, _⟩
  | ⟨.tokenHex _, _⟩ | ⟨.uuid4Hex, _⟩ => .isFalse id

def Seen (log : Log) (operationId : String) (state : OperationState) : Prop :=
  ∃ event ∈ log, EventOf operationId state event

def lastEventState : Log → String → Option OperationState
  | [], _ => none
  | ⟨.append operation announced _ _, _⟩ :: older, operationId =>
    if operation = operationId then some announced else lastEventState older operationId
  | _ :: older, operationId => lastEventState older operationId

/-- The events of the operation cover its record. -/
structure Covered (log : Log) (record : OperationRecord) : Prop where
  history : ∀ entry ∈ record.history, Seen log record.operationId entry.target
  terminal : record.state ∈ terminalStates →
    lastEventState log record.operationId = some record.state

theorem Seen.cons (seen : Seen log operationId state) (event : Event controllerSignature) :
    Seen (event :: log) operationId state := by
  obtain ⟨earlier, member, of⟩ := seen
  exact ⟨earlier, List.mem_cons_of_mem _ member, of⟩

theorem seen_append (log : Log) (operationId : String) (state : OperationState) (eventType : String)
    (payload : Dict) :
    Seen (⟨ControllerOp.append operationId state eventType payload, ()⟩ :: log) operationId state :=
  ⟨_, List.mem_cons_self, rfl, rfl⟩

def ControllerOp.Unheard : ControllerOp → Prop
  | append _ _ _ _ => False
  | _ => True

theorem lastEventState_of_unheard {op : ControllerOp} (unheard : op.Unheard) (answer : op.Answer)
    (log : Log) (operationId : String) :
    lastEventState ((⟨op, answer⟩ : Event controllerSignature) :: log) operationId =
      lastEventState log operationId := by
  cases op with
  | append => exact unheard.elim
  | _ => rfl

theorem Covered.of_unheard (covered : Covered log record) {op : ControllerOp} (unheard : op.Unheard)
    (answer : op.Answer) : Covered (⟨op, answer⟩ :: log) record where
  history := fun entry member => (covered.history entry member).cons _
  terminal := fun ended => by
    rw [lastEventState_of_unheard unheard]
    exact covered.terminal ended

theorem Covered.of_other (covered : Covered log record) (other : operationId ≠ record.operationId)
    (state : OperationState) (eventType : String) (payload : Dict) :
    Covered (⟨ControllerOp.append operationId state eventType payload, ()⟩ :: log) record where
  history := fun entry member => (covered.history entry member).cons _
  terminal := fun ended => by
    rw [lastEventState, if_neg other]
    exact covered.terminal ended

/-- **The event that was owed completes the coverage.** -/
theorem covered_announced (eventType : String) (payload : Dict)
    (owed : ∀ entry ∈ record.history, Seen log record.operationId entry.target ∨
      entry.target = record.state) :
    Covered (⟨ControllerOp.append record.operationId record.state eventType payload, ()⟩ :: log)
      record where
  history := by
    intro entry member
    rcases owed entry member with seen | last
    · exact seen.cons _
    · rw [last]
      exact seen_append log _ _ eventType payload
  terminal := fun _ => by rw [lastEventState, if_pos rfl]

/-! ### The condition -/

/-- A transition that is not announced leads to a live state that was seen before. -/
def AnnouncedOrSeen (cancels : Bool) (log : Log) : ControllerOp → Prop
  | .save next =>
    (∃ record ∈ stored log next.operationId, next.history = record.history) ∨
      Announced cancels next ∨
      Seen log next.operationId next.state ∧ next.state ∉ terminalStates
  | _ => True

instance (cancels : Bool) (log : Log) : DecidablePred (AnnouncedOrSeen cancels log)
  | .save next => inferInstanceAs (Decidable
    ((∃ record ∈ stored log next.operationId, next.history = record.history) ∨
      Announced cancels next ∨
      (∃ event ∈ log, EventOf next.operationId next.state event) ∧ next.state ∉ terminalStates))
  | .load _ | .append _ _ _ _ | .createPlan _ _ | .resumePlan _ _ | .review _ _ _ | .fulfil _ _ _
  | .execute _ _ _ | .resumeExecution _ _ | .chatTurn _ _ _ | .tokenHex _ | .uuid4Hex =>
    .isTrue trivial

/-- Calls one after the other, each run to its end, in the environment of its kind. -/
inductive WholeRun (worlds : Bool → Environment controllerSignature Log) (c : OperationController) :
    Log → Prop
  | empty : WholeRun worlds c []
  | call {log log' : Log} {p : Ctl OperationControllerResult} (request : Request)
      (before : WholeRun worlds c log)
      (run : Exec (worlds request.cancels) log (c.handle request) log' p) (ended : p.Ended) :
      WholeRun worlds c log'

def CompletedRun : OperationController → Log → Prop := WholeRun fun _ => world

def AnnouncedRun : OperationController → Log → Prop :=
  WholeRun fun cancels => restricted answersAs (AnnouncedOrSeen cancels)

theorem AnnouncedRun.completed (run : AnnouncedRun c log) : CompletedRun c log := by
  induction run with
  | empty => exact .empty
  | call request _ run ended ih => exact .call request ih run.of_restricted ended

/-! ### The invariant -/

/-- What is covered while a call runs: everything but what the call has just saved and will
announce next. -/
structure Coverage (log : Log) (k : AnnounceState) : Prop where
  present : k ≠ .vanished
  held : ∀ record, k = .quiet record ∨ k = .owing record →
    stored log record.operationId = some record
  owed : ∀ record, k = .owing record → ∀ entry ∈ record.history,
    Seen log record.operationId entry.target ∨ entry.target = record.state
  covered : ∀ operationId record, stored log operationId = some record → k ≠ .owing record →
    Covered log record

theorem Coverage.settled (coverage : Coverage log k) (settled : k.Settled)
    (found : stored log operationId = some record) : Covered log record := by
  refine coverage.covered operationId record found ?_
  rintro rfl
  exact settled

theorem Coverage.idle (coverage : Coverage log k) (settled : k.Settled) : Coverage log .idle where
  present := fun same => AnnounceState.noConfusion same
  held := by rintro record (same | same) <;> cases same
  owed := by
    intro record same
    cases same
  covered := fun _ _ found _ => coverage.settled settled found

theorem Coverage.of_outward (coverage : Coverage log k) {op : ControllerOp} (reads : op.Reads)
    (unheard : op.Unheard) (answer : op.Answer) : Coverage (⟨op, answer⟩ :: log) k where
  present := coverage.present
  held := by
    intro record holds
    rw [stored_of_reads reads]
    exact coverage.held record holds
  owed := fun record owes entry member =>
    (coverage.owed record owes entry member).imp (fun seen => seen.cons _) id
  covered := by
    intro operationId record found owes
    rw [stored_of_reads reads] at found
    exact (coverage.covered operationId record found owes).of_unheard unheard answer

theorem Coverage.of_saved (coverage : Coverage log k) (settled : k.Settled)
    (covered : Covered log next) :
    Coverage (⟨ControllerOp.save next, ()⟩ :: log) (.quiet next) where
  present := fun same => AnnounceState.noConfusion same
  held := by
    rintro record (same | same)
    · cases same
      exact stored_save_self _ _ _
    · cases same
  owed := by
    intro record same
    cases same
  covered := by
    intro operationId record found _
    rw [stored_save] at found
    split at found
    · cases found
      exact covered.of_unheard (by trivial) _
    · exact (coverage.settled settled found).of_unheard (by trivial) _

theorem Coverage.of_owing (coverage : Coverage log k) (settled : k.Settled)
    (owed : ∀ entry ∈ next.history, Seen log next.operationId entry.target ∨
      entry.target = next.state) :
    Coverage (⟨ControllerOp.save next, ()⟩ :: log) (.owing next) where
  present := fun same => AnnounceState.noConfusion same
  held := by
    rintro record (same | same)
    · cases same
    · cases same
      exact stored_save_self _ _ _
  owed := by
    intro record same entry member
    cases same
    exact (owed entry member).imp (fun seen => seen.cons _) id
  covered := by
    intro operationId record found owes
    rw [stored_save] at found
    split at found
    · cases found
      exact absurd rfl owes
    · exact (coverage.settled settled found).of_unheard (by trivial) _

theorem Coverage.of_event (coverage : Coverage log k)
    (holds : k = .quiet record ∨ k = .owing record)
    (owed : ∀ entry ∈ record.history, Seen log record.operationId entry.target ∨
      entry.target = record.state) (eventType : String) (payload : Dict) :
    Coverage (⟨ControllerOp.append record.operationId record.state eventType payload, ()⟩ :: log)
      (.quiet record) where
  present := fun same => AnnounceState.noConfusion same
  held := by
    rintro held (same | same)
    · cases same
      exact coverage.held record holds
    · cases same
  owed := by
    intro record same
    cases same
  covered := by
    intro operationId other found _
    have found : stored log operationId = some other := found
    by_cases same : record.operationId = other.operationId
    · have mine := coverage.held record holds
      rw [same, stored_operationId found, found, Option.some.injEq] at mine
      subst mine
      exact covered_announced eventType payload owed
    · refine (coverage.covered operationId other found ?_).of_other same _ eventType payload
      rintro rfl
      rcases holds with quiet | owing
      · cases quiet
      · cases owing
        exact same rfl

/-- **What every move of a call preserves**, where its saves meet the condition. -/
theorem Coverage.step {op : ControllerOp} {answer : op.Answer} (coverage : Coverage log k)
    (answered : answersAs log op answer) (meets : AnnouncedOrSeen cancels log op)
    (move : AnnounceMove cancels k op answer k') : Coverage (⟨op, answer⟩ :: log) k' := by
  cases move with
  | registered operationId sourceKind prompt =>
    refine coverage.of_saved trivial ⟨nofun, fun ended => absurd ended ?_⟩
    simp [registeredRecord, terminalStates]
  | @same record next stage =>
    have held := coverage.covered _ record (coverage.held record (Or.inl rfl))
      fun same => AnnounceState.noConfusion same
    refine coverage.of_saved trivial ⟨?_, ?_⟩
    · rw [stage.history, stage.operationId]
      exact held.history
    · rw [stage.state, stage.operationId]
      exact held.terminal
  | @silent record next reason extends_ quiet =>
    have mine := coverage.held record (Or.inl rfl)
    have held := coverage.covered _ record mine fun same => AnnounceState.noConfusion same
    rcases meets with ⟨last, found, unmoved⟩ | announced | ⟨seen, live⟩
    · rw [extends_.operationId, mine] at found
      cases found
      rw [extends_.history] at unmoved
      exact absurd unmoved (by simp)
    · exact absurd announced quiet
    · refine coverage.of_saved trivial ⟨fun entry member => ?_, fun ended => absurd ended live⟩
      rw [extends_.history] at member
      rcases List.mem_append.mp member with earlier | last
      · rw [extends_.operationId]
        exact held.history entry earlier
      · rw [List.mem_singleton] at last
        rw [last]
        exact seen
  | @loud record next reason extends_ =>
    have held := coverage.covered _ record (coverage.held record (Or.inl rfl))
      fun same => AnnounceState.noConfusion same
    refine coverage.of_owing trivial fun entry member => ?_
    rw [extends_.history] at member
    rcases List.mem_append.mp member with earlier | last
    · rw [extends_.operationId]
      exact Or.inl (held.history entry earlier)
    · rw [List.mem_singleton] at last
      exact Or.inr (by rw [last])
  | announced record eventType payload =>
    exact coverage.of_event (Or.inr rfl) (coverage.owed record rfl) eventType payload
  | repeated record eventType payload =>
    have held := coverage.covered _ record (coverage.held record (Or.inl rfl))
      fun same => AnnounceState.noConfusion same
    exact coverage.of_event (Or.inl rfl) (fun entry member => Or.inl (held.history entry member))
      eventType payload
  | loaded operationId record settled =>
    have found : stored log operationId = some record := Eq.symm answered
    have idle := coverage.idle settled
    refine ⟨fun same => AnnounceState.noConfusion same, ?_, ?_, ?_⟩
    · rintro held (same | same)
      · cases same
        rw [stored_of_reads (by trivial), stored_operationId found]
        exact found
      · cases same
    · intro held same
      cases same
    · intro other kept present _
      exact (idle.covered other kept present fun same => AnnounceState.noConfusion same).of_unheard
        (by trivial) _
  | missing => exact coverage.of_outward (by trivial) (by trivial) _
  | gone record =>
    have gone : none = stored log record.operationId := answered
    rw [coverage.held record (Or.inl rfl)] at gone
    cases gone
  | anything => exact absurd rfl coverage.present
  | asked answer outward =>
    cases op with
    | load => exact outward.elim
    | save => exact outward.elim
    | append => exact outward.elim
    | _ => exact coverage.of_outward (by trivial) (by trivial) answer

theorem AnnouncedRun.coverage (attached : c.hasEvents = true) (run : AnnouncedRun c log) :
    Coverage log .idle := by
  induction run with
  | empty =>
    refine ⟨fun same => AnnounceState.noConfusion same, ?_, ?_, ?_⟩
    · rintro record (same | same) <;> cases same
    · intro record same
      cases same
    · intro operationId record found
      cases found
  | call request _ run ended ih =>
    obtain ⟨k, follows, coverage⟩ := Follows.exec_invariant
      (E := restricted answersAs (AnnouncedOrSeen request.cancels)) Coverage
      (fun _ _ _ _ _ before answered move => before.step answered.1 answered.2 move)
      run (handle_announces attached request) ih
    exact coverage.idle (follows.rest_of_ended ended)

/-- **The event log covers the lifecycle where silent transitions lead to states seen before**: in
every run of whole calls, with an event store attached, whose transitions are announced or lead to a
live state that an earlier event has, every state of every stored history is the state of an event of
the operation, and a terminal state is that of its last event. -/
theorem lifecycle_covered (attached : c.hasEvents = true) (run : AnnouncedRun c log)
    (found : stored log operationId = some record) : Covered log record :=
  (run.coverage attached).settled trivial found

/-! ### A cancellation without an event -/

/-- A task that waits for a tool result, and is then cancelled. -/
@[irreducible] def cancelledTask : Log :=
  session .complete [(.cancel "op-1" "user_requested", [])] pendingTask

theorem pendingTask_announced : AnnouncedRun .complete pendingTask := by
  have always : Always (fun older event => AnnouncedOrSeen false older event.op) pendingTask := by
    decide +kernel
  unfold pendingTask at always ⊢
  exact .call _ .empty ((play_exec _ _ _).restrict always) (by decide +kernel)

theorem cancelledTask_completed : CompletedRun .complete cancelledTask := by
  have before := pendingTask_announced.completed
  unfold cancelledTask
  exact .call (.cancel "op-1" "user_requested") before (play_exec _ _ _) (by decide +kernel)

theorem pendingTask_covered :
    ∃ record, stored pendingTask "op-1" = some record ∧ Covered pendingTask record := by
  obtain ⟨record, found, _⟩ : ∃ record, stored pendingTask "op-1" = some record ∧ True :=
    stored_of_any (by decide +kernel)
  exact ⟨record, found, lifecycle_covered rfl pendingTask_announced found⟩

theorem cancelledTask_not_covered :
    ¬ ∀ (c : OperationController) (log : Log) (operationId : String) (record : OperationRecord),
      c.hasEvents = true → CompletedRun c log → stored log operationId = some record →
      Covered log record := by
  intro every
  obtain ⟨record, found, state⟩ : ∃ record, stored cancelledTask "op-1" = some record ∧
      record.state = .cancelledByUser := stored_of_any (by decide +kernel)
  have covered := every _ _ _ record rfl cancelledTask_completed found
  have last := covered.terminal (by rw [state]; decide)
  rw [stored_operationId found, state] at last
  exact absurd last (by decide +kernel)

end Audisor.Controller
