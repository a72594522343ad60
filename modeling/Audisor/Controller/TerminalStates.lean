/-
**Terminal states under interleaving.**

* `TerminalRaced` — since the call's own last load or save, another call persisted a terminal state of
  the operation. `SavesInTime` — a condition on the turns: no call saves then.
* `Current` — what a call that was not raced knows: its record is in the stored terminal state.
* `KeepsTerminal` — no save changes a stored terminal state (`savesInTime_keepsTerminal`).
* **`terminal_final`** — in every interleaving of any calls but registrations whose saves are in time,
  every save after a terminal state was persisted persists that state.

The controller validates a transition on the record it loaded, so a call that was raced moves on.
-/

import Audisor.Controller.Runs

namespace Audisor.Controller

open Interaction Json

variable {c : OperationController} {base : Log} {operationId : String}
  {turns : List (Turn controllerSignature)} {thread : Nat} {k k' : CallState}
  {record kept next : OperationRecord}

/-! ### Raced calls -/

def Touches : Event controllerSignature → Prop
  | ⟨.load _, _⟩ | ⟨.save _, _⟩ => True
  | _ => False

instance : DecidablePred Touches
  | ⟨.load _, _⟩ | ⟨.save _, _⟩ => .isTrue trivial
  | ⟨.append _ _ _ _, _⟩ | ⟨.createPlan _ _, _⟩ | ⟨.resumePlan _ _, _⟩ | ⟨.review _ _ _, _⟩
  | ⟨.fulfil _ _ _, _⟩ | ⟨.execute _ _ _, _⟩ | ⟨.resumeExecution _ _, _⟩ | ⟨.chatTurn _ _ _, _⟩
  | ⟨.tokenHex _, _⟩ | ⟨.uuid4Hex, _⟩ => .isFalse id

def PersistsTerminal (operationId : String) : Event controllerSignature → Prop
  | ⟨.save record, _⟩ => record.operationId = operationId ∧ record.state ∈ terminalStates
  | _ => False

instance : DecidablePred (PersistsTerminal operationId)
  | ⟨.save record, _⟩ =>
    inferInstanceAs (Decidable (record.operationId = operationId ∧ record.state ∈ terminalStates))
  | ⟨.load _, _⟩ | ⟨.append _ _ _ _, _⟩ | ⟨.createPlan _ _, _⟩ | ⟨.resumePlan _ _, _⟩
  | ⟨.review _ _ _, _⟩ | ⟨.fulfil _ _ _, _⟩ | ⟨.execute _ _ _, _⟩ | ⟨.resumeExecution _ _, _⟩
  | ⟨.chatTurn _ _ _, _⟩ | ⟨.tokenHex _, _⟩ | ⟨.uuid4Hex, _⟩ => .isFalse id

/-- Another call persisted a terminal state of the operation since this one loaded or saved. -/
def TerminalRaced (operationId : String) (thread : Nat) :
    List (Turn controllerSignature) → Prop :=
  Overtaken Touches (fun turn => PersistsTerminal operationId turn.event) thread

def SavesInTime (older : List (Turn controllerSignature)) : Turn controllerSignature → Prop
  | ⟨thread, .save next, _⟩ => ¬ TerminalRaced next.operationId thread older
  | _ => True

instance (older : List (Turn controllerSignature)) :
    (turn : Turn controllerSignature) → Decidable (SavesInTime older turn)
  | ⟨thread, .save _, _⟩ => inferInstanceAs (Decidable (¬ Overtaken _ _ thread older))
  | ⟨_, .load _, _⟩ | ⟨_, .append _ _ _ _, _⟩ | ⟨_, .createPlan _ _, _⟩ | ⟨_, .resumePlan _ _, _⟩
  | ⟨_, .review _ _ _, _⟩ | ⟨_, .fulfil _ _ _, _⟩ | ⟨_, .execute _ _ _, _⟩
  | ⟨_, .resumeExecution _ _, _⟩ | ⟨_, .chatTurn _ _ _, _⟩ | ⟨_, .tokenHex _, _⟩
  | ⟨_, .uuid4Hex, _⟩ => .isTrue trivial

def KeepsTerminal (base : Log) (older : List (Turn controllerSignature)) :
    Turn controllerSignature → Prop
  | ⟨_, .save next, _⟩ => ∀ record, stored (logOf base older) next.operationId = some record →
    record.state ∈ terminalStates → next.state = record.state
  | _ => True

/-! ### What a call knows -/

/-- The record that a call holds, and the one that is stored. -/
structure UpToDate (base : Log) (turns : List (Turn controllerSignature)) (thread : Nat)
    (record kept : OperationRecord) : Prop where
  present : stored (logOf base turns) record.operationId = some kept
  terminal : kept.state ∈ terminalStates → ¬ TerminalRaced record.operationId thread turns →
    record.state = kept.state

/-- A call of a registered operation, and what it knows of the store. -/
structure Current (base : Log) (turns : List (Turn controllerSignature)) (thread : Nat)
    (k : CallState) : Prop where
  loads : k ≠ .fresh
  present : k ≠ .vanished
  upToDate : ∀ record, k.record? = some record → ∃ kept, UpToDate base turns thread record kept

theorem UpToDate.of_reads (known : UpToDate base turns thread record kept) {other : Nat}
    {op : ControllerOp} (reads : op.Reads) (answer : op.Answer)
    (blind : other = thread → ¬ Touches ⟨op, answer⟩) :
    UpToDate base (⟨other, op, answer⟩ :: turns) thread record kept where
  present := by
    rw [logOf_cons, stored_of_reads reads]
    exact known.present
  terminal := by
    intro ended intime
    refine known.terminal ended fun raced => intime ?_
    by_cases same : other = thread
    · exact (overtaken_own_iff same (blind same)).mpr raced
    · exact (overtaken_other_iff same).mpr (Or.inr raced)

theorem upToDate_saved :
    UpToDate base (⟨thread, ControllerOp.save next, ()⟩ :: turns) thread next next where
  present := stored_save_self _ _ _
  terminal := fun _ _ => rfl

/-- **A save by another call** races a call that holds a record of the operation, or leaves its
operation live. -/
theorem UpToDate.of_saved (known : UpToDate base turns thread record kept) {other : Nat}
    (different : other ≠ thread) (next : OperationRecord) :
    ∃ kept, UpToDate base (⟨other, ControllerOp.save next, ()⟩ :: turns) thread record kept := by
  by_cases same : next.operationId = record.operationId
  · refine ⟨next, ?_, fun ended intime => absurd ?_ intime⟩
    · rw [logOf_cons, stored_save, if_pos same]
    · exact (overtaken_other_iff different).mpr (Or.inl ⟨same, ended⟩)
  · refine ⟨kept, ?_, fun ended intime => known.terminal ended fun raced => intime ?_⟩
    · rw [logOf_cons, stored_save, if_neg same]
      exact known.present
    · exact (overtaken_other_iff different).mpr (Or.inr raced)

theorem Current.keepsTerminal (current : Current base turns thread k) (saves : Saves c k next k')
    (intime : ¬ TerminalRaced next.operationId thread turns) :
    KeepsTerminal base turns ⟨thread, .save next, ()⟩ := by
  intro last found ended
  rcases saves.advances with ⟨fresh, _⟩ | ⟨record, holding, operation, advances⟩
  · exact absurd fresh current.loads
  · obtain ⟨kept, known⟩ := current.upToDate record holding
    rw [operation, known.present, Option.some.injEq] at found
    subst found
    have same := known.terminal ended (operation ▸ intime)
    rcases advances with ⟨state, _⟩ | ⟨allowed, _⟩
    · exact state.trans same
    · exact absurd (same ▸ ended) allowed.1

theorem Saves.ne_fresh (saves : Saves c k next k') : k' ≠ .fresh := by
  intro fresh
  have held := saves.record?
  rw [fresh] at held
  cases held

/-! ### Interleavings -/

def AllCurrent (base : Log) (turns : List (Turn controllerSignature)) (states : Nat → CallState) :
    Prop :=
  ∀ thread, Current base turns thread (states thread)

theorem Current.own {op : ControllerOp} {answer : op.Answer}
    (current : Current base turns thread k) (answered : answersAs (logOf base turns) op answer)
    (move : Moves c k op answer k') : Current base (⟨thread, op, answer⟩ :: turns) thread k' := by
  cases op with
  | save next =>
    cases move with
    | save saves =>
      refine ⟨saves.ne_fresh, saves.ne_vanished, fun record held => ?_⟩
      rw [saves.record?] at held
      cases held
      exact ⟨_, upToDate_saved⟩
    | anything => exact absurd rfl current.present
  | load operationId =>
    cases move with
    | loaded _ record =>
      refine ⟨CallState.noConfusion, CallState.noConfusion, fun held same => ?_⟩
      cases same
      have found : stored (logOf base turns) operationId = some record := Eq.symm answered
      refine ⟨record, ?_, fun _ _ => rfl⟩
      rw [logOf_cons, stored_of_reads (by trivial), stored_operationId found]
      exact found
    | missing => exact ⟨CallState.noConfusion, CallState.noConfusion, fun _ held => by cases held⟩
    | vanished held rests =>
      have gone : none = stored (logOf base turns) _ := answered
      obtain ⟨kept, known⟩ := current.upToDate _ held
      rw [known.present] at gone
      cases gone
    | anything => exact absurd rfl current.present
  | _ =>
    obtain ⟨same, present, fresh⟩ :=
      move.keeps (by trivial) (fun _ loads => ControllerOp.noConfusion loads) current.present
    refine ⟨fun is => current.loads (fresh is), present, fun record held => ?_⟩
    obtain ⟨kept, known⟩ := current.upToDate record (same ▸ held)
    exact ⟨kept, known.of_reads (by trivial) _ fun _ touches => touches⟩

theorem Current.other {op : ControllerOp} {answer : op.Answer} {other : Nat}
    (current : Current base turns thread k) (different : other ≠ thread) :
    Current base (⟨other, op, answer⟩ :: turns) thread k := by
  refine ⟨current.loads, current.present, fun record held => ?_⟩
  obtain ⟨kept, known⟩ := current.upToDate record held
  cases op with
  | save next => exact known.of_saved different next
  | _ => exact ⟨kept, known.of_reads (by trivial) _ fun same => absurd same different⟩

/-- The call acts on an operation that is registered already. -/
def Request.Continues : Request → Prop
  | .register _ _ _ | .accept _ _ _ _ _ => False
  | _ => True

theorem current_entry {request : Request} (continues : request.Continues) :
    Current base [] thread request.entry := by
  refine ⟨?_, by cases request <;> exact fun same => CallState.noConfusion same, ?_⟩
  · cases request with
    | register => exact continues.elim
    | accept => exact continues.elim
    | _ => exact fun same => CallState.noConfusion same
  · intro record held
    rw [request.entry_record?] at held
    cases held

/-- **What every move of every call preserves.** -/
theorem AllCurrent.step {states : Nat → CallState} {op : ControllerOp} {answer : op.Answer}
    (current : AllCurrent base turns states) (answered : answersAs (logOf base turns) op answer)
    (move : Moves c (states thread) op answer k') :
    AllCurrent base (⟨thread, op, answer⟩ :: turns) (Function.update states thread k') ∧
      (SavesInTime turns ⟨thread, op, answer⟩ → KeepsTerminal base turns ⟨thread, op, answer⟩) := by
  refine ⟨fun reader => ?_, fun intime => ?_⟩
  · by_cases same : reader = thread
    · subst same
      rw [Function.update_self]
      exact (current reader).own answered move
    · rw [Function.update_of_ne same]
      exact (current reader).other fun equal => same equal.symm
  · cases op with
    | save next =>
      have mine := current thread
      generalize states thread = k at move mine
      cases move with
      | save saves => exact mine.keepsTerminal saves intime
      | anything => exact absurd rfl mine.present
    | _ => trivial

/-- **Saves in time keep terminal states**, in every interleaving. -/
theorem savesInTime_keepsTerminal {requests : Nat → Request}
    {threads : Nat → Ctl OperationControllerResult}
    (continues : ∀ thread, (requests thread).Continues)
    (run : Interleaving answersAs base (fun thread => c.handle (requests thread)) threads turns)
    (intime : Always SavesInTime turns) : Always (KeepsTerminal base) turns := by
  obtain ⟨_, _, _, keeps⟩ := run.invariant
    (fun turns states => AllCurrent base turns states ∧
      (Always SavesInTime turns → Always (KeepsTerminal base) turns))
    (fun thread => handle_follows c (requests thread))
    ⟨fun thread => current_entry (continues thread), fun _ => trivial⟩
    (fun _ _ _ _ _ _ before answered move =>
      ⟨(before.1.step answered move).1, fun intime =>
        ⟨(before.1.step answered move).2 intime.1, before.2 intime.2⟩⟩)
  exact keeps intime

theorem saved_in_turns (found : stored (logOf [] turns) operationId = some record) :
    ∃ saver, ⟨saver, ControllerOp.save record, ()⟩ ∈ turns := by
  have member := saved_of_stored found
  rw [logOf, List.append_nil, List.mem_map] at member
  obtain ⟨⟨saver, event⟩, inside, rfl⟩ := member
  exact ⟨saver, inside⟩

theorem stored_terminal_of_keeps {newer older : List (Turn controllerSignature)}
    (keeps : Always (KeepsTerminal base) (newer ++ older))
    (found : stored (logOf base older) operationId = some record)
    (terminal : record.state ∈ terminalStates) :
    ∃ kept, stored (logOf base (newer ++ older)) operationId = some kept ∧
      kept.state = record.state := by
  induction newer with
  | nil => exact ⟨record, found, rfl⟩
  | cons turn newer ih =>
    obtain ⟨kept, present, state⟩ := ih keeps.2
    obtain ⟨thread, op, answer⟩ := turn
    cases op with
    | save next =>
      rw [List.cons_append, logOf_cons, stored_save]
      split
      · rename_i same
        refine ⟨next, rfl, ?_⟩
        rw [← state]
        exact keeps.1 kept (same ▸ present) (state ▸ terminal)
      · exact ⟨kept, present, state⟩
    | _ => exact ⟨kept, present, state⟩

/-- **A terminal state is final**: in every interleaving of start, resume, cancel, claim and retry
calls in which no call saves after another has persisted a terminal state of its operation since its
own last load or save, every save that follows a terminal state of the operation persists it. -/
theorem terminal_final {requests : Nat → Request} {threads : Nat → Ctl OperationControllerResult}
    (continues : ∀ thread, (requests thread).Continues)
    (run : Interleaving answersAs base (fun thread => c.handle (requests thread)) threads turns)
    (intime : Always SavesInTime turns) {newer older : List (Turn controllerSignature)}
    (split : turns = newer ++ older) (found : stored (logOf base older) operationId = some record)
    (terminal : record.state ∈ terminalStates) :
    ∀ saver saved, ⟨saver, ControllerOp.save saved, ()⟩ ∈ newer → saved.operationId = operationId →
      saved.state = record.state := by
  have keeps := savesInTime_keepsTerminal continues run intime
  intro saver saved member same
  obtain ⟨later, earlier, rfl⟩ := List.append_of_mem member
  rw [split, List.append_assoc] at keeps
  have here := keeps.suffix (List.suffix_append later _)
  obtain ⟨kept, present, state⟩ := stored_terminal_of_keeps here.2 found terminal
  rw [← state]
  exact here.1 kept (same ▸ present) (state ▸ terminal)

/-! ### A cancellation during a review -/

@[irreducible] def recoveringTask : Log :=
  session .complete
    [(.accept "task" "fix the auth bug" none (some "op-1") none,
      [.adapter (.ok [("plan", .obj [("goal", .str "auth")])]),
        .adapter (.ok [("decision", .str "provider_error")])])] []

theorem recoveringTask_reachable : Reachable .complete recoveringTask := by
  unfold recoveringTask
  exact session_reachable _ _ [] .empty

def retryAndCancel (thread : Nat) : Request :=
  if thread = 0 then .retryAflow "op-1" 4 "key-1" "openai" else .cancel "op-1" "user_requested"

theorem retryAndCancel_continues (thread : Nat) : (retryAndCancel thread).Continues := by
  unfold retryAndCancel
  split <;> trivial

/-- The turns of both, as the schedule says; the review provider fails again. -/
@[irreducible] def retryTurns (schedule : List Nat) :
    (Nat → Ctl OperationControllerResult) × List (Turn controllerSignature) :=
  interleave recoveringTask (schedule.map fun thread =>
      (thread, [.adapter (.ok [("decision", .str "provider_error")])]))
    (fun thread => OperationController.complete.handle (retryAndCancel thread)) []

theorem retryTurns_interleaving (schedule : List Nat) :
    Interleaving answersAs recoveringTask
      (fun thread => OperationController.complete.handle (retryAndCancel thread))
      (retryTurns schedule).1 (retryTurns schedule).2 := by
  unfold retryTurns
  exact interleave_interleaving _ _ _ .start

/-- The retry is cancelled after its review, and records its outcome on the cancelled operation. -/
theorem retryTurns_final :
    ∃ record, stored (logOf recoveringTask ((retryTurns [0, 0, 0, 0, 0, 0, 1, 1, 0, 0]).2.drop 2))
        "op-1" = some record ∧ record.state ∈ terminalStates ∧
      ∀ saver saved, ⟨saver, ControllerOp.save saved, ()⟩ ∈
          (retryTurns [0, 0, 0, 0, 0, 0, 1, 1, 0, 0]).2.take 2 →
        saved.operationId = "op-1" → saved.state = record.state := by
  obtain ⟨record, found, terminal⟩ : ∃ record, stored (logOf recoveringTask
      ((retryTurns [0, 0, 0, 0, 0, 0, 1, 1, 0, 0]).2.drop 2)) "op-1" = some record ∧
        record.state ∈ terminalStates := stored_of_any (by decide +kernel)
  exact ⟨record, found, terminal, terminal_final retryAndCancel_continues
    (retryTurns_interleaving [0, 0, 0, 0, 0, 0, 1, 1, 0, 0]) (by decide +kernel)
    (List.take_append_drop 2 _).symm found terminal⟩

theorem retryTurns_not_final :
    ¬ ∀ (c : OperationController) (base : Log) (operationId : String) (requests : Nat → Request)
      (threads : Nat → Ctl OperationControllerResult) (newer older : List (Turn controllerSignature))
      (record : OperationRecord), Reachable c base → (∀ thread, (requests thread).Continues) →
      Interleaving answersAs base (fun thread => c.handle (requests thread)) threads
        (newer ++ older) →
      stored (logOf base older) operationId = some record → record.state ∈ terminalStates →
      ∀ saver saved, ⟨saver, ControllerOp.save saved, ()⟩ ∈ newer →
        saved.operationId = operationId → saved.state = record.state := by
  intro every
  have run := retryTurns_interleaving [0, 0, 1, 1, 0, 0]
  obtain ⟨record, found, terminal⟩ : ∃ record, stored (logOf recoveringTask
      ((retryTurns [0, 0, 1, 1, 0, 0]).2.drop 2)) "op-1" = some record ∧
        record.state ∈ terminalStates := stored_of_any (by decide +kernel)
  obtain ⟨overwritten, last, state⟩ : ∃ record, stored (logOf []
      ((retryTurns [0, 0, 1, 1, 0, 0]).2.take 2)) "op-1" = some record ∧
        record.state = .suspendedProviderRecovery := stored_of_any (by decide +kernel)
  obtain ⟨saver, member⟩ := saved_in_turns last
  rw [← List.take_append_drop 2 (retryTurns [0, 0, 1, 1, 0, 0]).2] at run
  have same := every _ _ _ _ _ _ _ record recoveringTask_reachable retryAndCancel_continues run found
    terminal saver overwritten member (stored_operationId last)
  rw [state] at same
  rw [← same] at terminal
  exact absurd terminal (by decide)

end Audisor.Controller
