/-
**Records over time.**

* `Walks` — history entries that lead from one state to another, each as the state machine allows.
* `Lengthens` — a later record of an operation: the same request, and a history that has grown by a walk from
  the earlier state to the later one.
* **`records_extend`** — between any two points of a run at which an operation is stored, and is not
  registered again, its record is extended.
-/

import Audisor.Controller.Retries
import Audisor.Controller.ReviewGate

namespace Audisor.Controller

open Interaction Json

variable {c : OperationController} {log older newer : Log} {k k' : CallState}
  {record next later : OperationRecord}

/-! ### Walks -/

/-- The entries lead from one state to the other, and leave no terminal state. -/
def Walks : OperationState → List HistoryEntry → OperationState → Prop
  | source, [], target => source = target
  | source, entry :: rest, target =>
    entry.source = source ∧ source ∉ terminalStates ∧ entry.target ∈ transitions source ∧
      Walks entry.target rest target

theorem Walks.append {source middle target : OperationState} {entries others : List HistoryEntry}
    (first : Walks source entries middle) (second : Walks middle others target) :
    Walks source (entries ++ others) target := by
  induction entries generalizing source with
  | nil =>
    obtain rfl : source = middle := first
    exact second
  | cons entry rest ih => exact ⟨first.1, first.2.1, first.2.2.1, ih first.2.2.2⟩

/-- No entry leads out of a terminal state. -/
theorem Walks.terminal {source target : OperationState} {entries : List HistoryEntry}
    (walks : Walks source entries target) (terminal : source ∈ terminalStates) :
    entries = [] ∧ target = source := by
  cases entries with
  | nil => exact ⟨rfl, Eq.symm walks⟩
  | cons entry rest => exact absurd terminal walks.2.1

/-! ### Extensions -/

/-- **A later record of an operation.** -/
structure Lengthens (record next : OperationRecord) : Prop where
  operationId : next.operationId = record.operationId
  sourceKind : next.sourceKind = record.sourceKind
  prompt : next.prompt = record.prompt
  history : ∃ entries, next.history = record.history ++ entries ∧
    Walks record.state entries next.state

theorem Lengthens.refl (record : OperationRecord) : Lengthens record record :=
  ⟨rfl, rfl, rfl, [], (List.append_nil _).symm, rfl⟩

theorem Lengthens.trans (first : Lengthens record next) (second : Lengthens next later) :
    Lengthens record later := by
  obtain ⟨entries, grown, walks⟩ := first.history
  obtain ⟨others, grown', walks'⟩ := second.history
  refine ⟨second.operationId.trans first.operationId, second.sourceKind.trans first.sourceKind,
    second.prompt.trans first.prompt, entries ++ others, ?_, walks.append walks'⟩
  rw [grown', grown, List.append_assoc]

/-- A terminal record stays as it is. -/
theorem Lengthens.final (lengthened : Lengthens record next) (terminal : record.state ∈ terminalStates) :
    next.state = record.state ∧ next.history = record.history := by
  obtain ⟨entries, grown, walks⟩ := lengthened.history
  obtain ⟨rfl, same⟩ := walks.terminal terminal
  exact ⟨same, grown.trans (List.append_nil _)⟩

theorem Advances.walks (advances : Advances record next) :
    ∃ entries, next.history = record.history ++ entries ∧ Walks record.state entries next.state := by
  rcases advances.2 with ⟨state, history⟩ | ⟨allowed, reason, history⟩
  · exact ⟨[], by rw [history, List.append_nil], state.symm⟩
  · exact ⟨_, history, rfl, allowed.1, allowed.2, rfl⟩

/-- No save changes what an operation is for. -/
theorem Saves.request (saves : Saves c k next k') (holding : k.record? = some record) :
    next.sourceKind = record.sourceKind ∧ next.prompt = record.prompt := by
  have lengthened (source : OperationRecord) (result : Dict) :
      (source.withContinuation result).sourceKind = source.sourceKind ∧
        (source.withContinuation result).prompt = source.prompt := by
    unfold OperationRecord.withContinuation
    split <;> exact ⟨rfl, rfl⟩
  cases saves with
  | registered => cases holding
  | approvalSuspension toolCall suspensionId returned =>
    cases returned.holds.symm.trans holding
    exact lengthened (record.withSlices _) _
  | toolResultSuspension suspensionId returned =>
    cases returned.holds.symm.trans holding
    exact lengthened (record.withSlices _) _
  | otherSuspension returned =>
    cases returned.holds.symm.trans holding
    exact lengthened { record with suspendReason := _ } _
  | reviewClean =>
    cases holding
    unfold OperationRecord.withImprovedPlan
    split <;> exact ⟨rfl, rfl⟩
  | providerError =>
    cases holding
    unfold providerErrorSuspended
    dsimp only
    split <;> exact ⟨rfl, rfl⟩
  | toolResults =>
    cases holding
    unfold OperationRecord.consumed
    split <;> exact ⟨rfl, rfl⟩
  | _ =>
    cases holding
    exact ⟨rfl, rfl⟩

/-- **One save** registers an operation, or extends the record that the call holds. -/
theorem Saves.lengthened (saves : Saves c k next k') :
    Registers next.operationId ⟨ControllerOp.save next, ()⟩ ∨
      ∃ record, k.record? = some record ∧ Lengthens record next := by
  rcases saves.advances with ⟨-, operationId, sourceKind, prompt, rfl⟩ | ⟨record, holding, advances⟩
  · exact .inl rfl
  · obtain ⟨sourceKind, prompt⟩ := saves.request holding
    exact .inr ⟨record, holding, advances.1, sourceKind, prompt, advances.walks⟩

/-! ### Runs -/

/-- From each earlier point on, the stored records are extended. -/
def Extending (log : Log) : Prop :=
  ∀ newer older, log = newer ++ older → ∀ operationId record, stored older operationId = some record →
    (∀ event ∈ newer, ¬ Registers operationId event) →
      ∃ next, stored log operationId = some next ∧ Lengthens record next

theorem Extending.cons {event : Event controllerSignature} (extending : Extending log)
    (step : ∀ operationId record, stored log operationId = some record →
      ¬ Registers operationId event →
        ∃ next, stored (event :: log) operationId = some next ∧ Lengthens record next) :
    Extending (event :: log) := by
  intro newer older split operationId record found once
  cases newer with
  | nil =>
    rw [List.nil_append] at split
    exact ⟨record, split ▸ found, .refl record⟩
  | cons first newer =>
    obtain ⟨rfl, rest⟩ := List.cons.inj split
    obtain ⟨now, once⟩ := List.forall_mem_cons.mp once
    obtain ⟨next, stored', before⟩ := extending newer older rest operationId record found once
    obtain ⟨last, stored'', after⟩ := step operationId next stored' now
    exact ⟨last, stored'', before.trans after⟩

theorem extending_invariant (c : OperationController) :
    RunInvariant c fun log _ => Extending log where
  empty _ newer older split operationId record found := by
    obtain ⟨-, rfl⟩ := List.append_eq_nil_iff.mp split.symm
    cases found
  entry extending _ := extending
  step {log k op answer k'} coherent extending _ move := by
    refine extending.cons fun operationId record found once => ?_
    cases op with
    | save saved =>
      rw [stored_save]
      split
      · rename_i same
        cases move with
        | save saves =>
          rcases saves.lengthened with registers | ⟨held, holding, extended⟩
          · exact absurd (same ▸ registers) once
          · have stays := coherent.2 held holding
            rw [← extended.operationId, same, found] at stays
            cases stays
            exact ⟨saved, rfl, extended⟩
        | anything => exact absurd rfl coherent.1
      · exact ⟨record, found, .refl record⟩
    | _ => exact ⟨record, found, .refl record⟩

/-- **Records only grow**: between any two points of a run, the record of an operation that is not registered
again keeps its request, and its history grows by a walk of the state machine; so nothing that was recorded
is lost, and a terminal record stays as it is. -/
theorem records_extend (reachable : Reachable c (newer ++ older)) {operationId : String}
    (found : stored older operationId = some record)
    (once : ∀ event ∈ newer, ¬ Registers operationId event) :
    ∃ next, stored (newer ++ older) operationId = some next ∧ Lengthens record next ∧
      record.history <+: next.history ∧
      (record.state ∈ terminalStates → next.state = record.state ∧ next.history = record.history) := by
  obtain ⟨next, stored', extended⟩ :=
    (extending_invariant c).reachable reachable (.cancel "" "") newer older rfl operationId record found once
  obtain ⟨entries, grown, _⟩ := extended.history
  exact ⟨next, stored', extended, ⟨entries, grown.symm⟩, extended.final⟩

/-- From the accepted task on to the completed one. -/
theorem reviewedTask_extends : ∃ record next, stored (reviewedTask.drop 13) "op-1" = some record ∧
    stored reviewedTask "op-1" = some next ∧ Lengthens record next := by
  obtain ⟨record, found, -⟩ := @stored_of_any (reviewedTask.drop 13) "op-1"
    (fun record => record.history.length = 1) inferInstance (by decide +kernel)
  have whole := List.take_append_drop 13 reviewedTask
  obtain ⟨next, stored', extended, -⟩ := @records_extend .complete _ (reviewedTask.take 13) _
    (whole.symm ▸ reviewedTask_reachable) _ found (by decide +kernel)
  exact ⟨record, next, found, whole ▸ stored', extended⟩

end Audisor.Controller
