/-
**The review gate.**

* `ReviewedSince operationId log` — the review adapter returned `no_material_gap` for the operation,
  and the operation was not registered anew after that.
* `ReviewFacts` — what ties a stored record to the review: its state, its resume phase.
* `CallReviewed` — the same of a call that is past a clean review.
* **`execution_reviewed`** — in every run the execution adapter is asked for an operation only when
  the operation is reviewed since its registration.

An untyped resumption of a provider recovery reaches `sandboxReady` without a review. Nothing leads
from there to the execution adapter, so the invariant says nothing of that state.
-/

import Audisor.Controller.Runs

namespace Audisor.Controller

open Interaction Json

/-! ### Events -/

def Registers (operationId : String) : Event controllerSignature → Prop
  | ⟨.save record, _⟩ => record = registeredRecord operationId record.sourceKind record.prompt
  | _ => False

/-- The review adapter returns `no_material_gap` for the operation. -/
def Approves (operationId : String) : Event controllerSignature → Prop
  | ⟨.review _ reviewed _, .ok result⟩ =>
    reviewed = operationId ∧ decisionOf result = .str "no_material_gap"
  | _ => False

/-- The execution adapter is asked to execute, or to resume, the operation. -/
def Executes (operationId : String) : Event controllerSignature → Prop
  | ⟨.execute executed _ _, _⟩ => executed = operationId
  | ⟨.resumeExecution record _, _⟩ => record.operationId = operationId
  | _ => False

instance (operationId : String) (event : Event controllerSignature) :
    Decidable (Executes operationId event) :=
  match event with
  | ⟨.execute executed _ _, _⟩ => inferInstanceAs (Decidable (executed = operationId))
  | ⟨.resumeExecution record _, _⟩ => inferInstanceAs (Decidable (record.operationId = operationId))
  | ⟨.load _, _⟩ | ⟨.save _, _⟩ | ⟨.append _ _ _ _, _⟩ | ⟨.createPlan _ _, _⟩
  | ⟨.resumePlan _ _, _⟩ | ⟨.review _ _ _, _⟩ | ⟨.fulfil _ _ _, _⟩ | ⟨.chatTurn _ _ _, _⟩
  | ⟨.tokenHex _, _⟩ | ⟨.uuid4Hex, _⟩ => inferInstanceAs (Decidable False)

/-- Since the last registration of the operation, its review was clean. -/
def ReviewedSince (operationId : String) (log : Log) : Prop :=
  ∃ newer event older, log = newer ++ event :: older ∧ Approves operationId event ∧
    ∀ later ∈ newer, ¬ Registers operationId later

variable {c : OperationController} {log : Log} {k k' : CallState} {operationId : String}

theorem ReviewedSince.cons (reviewed : ReviewedSince operationId log)
    {event : Event controllerSignature} (kept : ¬ Registers operationId event) :
    ReviewedSince operationId (event :: log) := by
  obtain ⟨newer, approval, older, rfl, approves, since⟩ := reviewed
  refine ⟨event :: newer, approval, older, rfl, approves, ?_⟩
  exact List.forall_mem_cons.mpr ⟨kept, since⟩

theorem not_registers_of_reads {op : ControllerOp} (reads : op.Reads)
    (answer : op.Answer) : ¬ Registers operationId ⟨op, answer⟩ := by
  cases op with
  | save record => exact reads.elim
  | _ => exact id

/-! ### The invariant -/

/-- What the review has to do with a stored record. -/
structure ReviewFacts (log : Log) (record : OperationRecord) : Prop where
  running : record.state = .sandboxRunning → ReviewedSince record.operationId log
  phase : record.slices.resumePhase = some "execution" → ReviewedSince record.operationId log
  approval : record.state = .suspendedForApproval →
    record.slices.resumePhase = some "planning" ∨ record.slices.resumePhase = some "execution"

def CallReviewed (log : Log) : CallState → Prop
  | .reviewed record _ result =>
    decisionOf result = .str "no_material_gap" → ReviewedSince record.operationId log
  | .cleared record _ _ | .started record _ _ | .executed record _ =>
    ReviewedSince record.operationId log
  | _ => True

/-- The gate has held so far, and goes on to hold. -/
structure ReviewGate (log : Log) (k : CallState) : Prop where
  gate : ∀ operationId,
    Always (fun older event => Executes operationId event → ReviewedSince operationId older) log
  records : ∀ operationId record, stored log operationId = some record → ReviewFacts log record
  call : CallReviewed log k

theorem ReviewFacts.cons {record : OperationRecord} (facts : ReviewFacts log record)
    {event : Event controllerSignature} (kept : ¬ Registers record.operationId event) :
    ReviewFacts (event :: log) record :=
  ⟨fun state => (facts.running state).cons kept, fun phase => (facts.phase phase).cons kept,
    facts.approval⟩

theorem ReviewGate.keep {op : ControllerOp} {answer : op.Answer} (holds : ReviewGate log k)
    (reads : op.Reads)
    (ordered : ∀ operationId, Executes operationId ⟨op, answer⟩ → ReviewedSince operationId log)
    (call : CallReviewed (⟨op, answer⟩ :: log) k') : ReviewGate (⟨op, answer⟩ :: log) k' where
  gate operationId := ⟨ordered operationId, holds.gate operationId⟩
  records operationId record found := by
    rw [stored_of_reads reads] at found
    exact (holds.records operationId record found).cons (not_registers_of_reads reads answer)
  call := call

theorem CallReviewed.cons (holds : CallReviewed log k) {op : ControllerOp}
    (reads : op.Reads) (answer : op.Answer) :
    CallReviewed (⟨op, answer⟩ :: log) k := by
  cases k with
  | reviewed record plan result =>
    exact fun decision => (holds decision).cons (not_registers_of_reads reads answer)
  | cleared record plan result =>
    exact ReviewedSince.cons holds (not_registers_of_reads reads answer)
  | started record plan result =>
    exact ReviewedSince.cons holds (not_registers_of_reads reads answer)
  | executed record result =>
    exact ReviewedSince.cons holds (not_registers_of_reads reads answer)
  | _ => trivial

/-! ### Saves -/

theorem Saves.fresh_of_registers {record : OperationRecord} (saves : Saves c k record k')
    (registers : Registers operationId ⟨ControllerOp.save record, ()⟩) : k = .fresh := by
  have equal : record = registeredRecord operationId record.sourceKind record.prompt := registers
  have state : record.state = .received := congrArg OperationRecord.state equal
  have history : record.history = [] := congrArg OperationRecord.history equal
  have retries : record.artifacts.aflowRetry = [] :=
    congrArg (fun record => record.artifacts.aflowRetry) equal
  cases saves with
  | registered => rfl
  | otherSuspension returned =>
    have kept := (otherSuspended_state _ _ _).symm.trans state
    cases returned with
    | planning planning _ => exact absurd (planning.symm.trans kept) (by decide)
    | execution running => exact absurd (running.symm.trans kept) (by decide)
  | claimed claim calls call waiting => exact absurd (waiting.symm.trans state) (by decide)
  | retryRecorded => exact absurd retries (List.cons_ne_nil _ _)
  | toolResults => exact absurd history (by simp)
  | providerError => exact absurd history (by simp)
  | approvalSuspension => exact absurd history (by simp)
  | toolResultSuspension => exact absurd history (by simp)
  | _ => exact absurd history (List.append_ne_nil_of_right_ne_nil _ (List.cons_ne_nil _ _))

theorem ReviewFacts.of_calm {record next : OperationRecord} (facts : ReviewFacts log record)
    (state : OperationState) (reached : next.state = state)
    (calm : state ≠ .sandboxRunning ∧ state ≠ .suspendedForApproval)
    (same : next.operationId = record.operationId)
    (samePhase : next.slices.resumePhase = record.slices.resumePhase) : ReviewFacts log next := by
  refine ⟨fun running => absurd (reached.symm.trans running) calm.1, fun phase => ?_,
    fun waiting => absurd (reached.symm.trans waiting) calm.2⟩
  rw [same]
  exact facts.phase (samePhase.symm.trans phase)

theorem resumeTarget_sandboxRunning {record : OperationRecord}
    (target : resumeTarget record = .sandboxRunning) :
    record.slices.resumePhase = some "execution" ∨
      record.state = .suspendedForApproval ∧ record.slices.resumePhase ≠ some "planning" := by
  have phase : ∀ {text : String}, text ≠ "" → record.slices.resumePhase.getD "" = text →
      record.slices.resumePhase = some text := by
    intro text nonempty same
    cases found : record.slices.resumePhase with
    | none => exact absurd (by rw [← same, found]; rfl) nonempty
    | some value => rw [← same, found]; rfl
  unfold resumeTarget at target
  cases state : record.state <;> simp only [state] at target <;> try cases target
  · by_cases execution : record.slices.resumePhase.getD "" = "execution"
    · exact Or.inl (phase (by decide) execution)
    · refine Or.inr ⟨rfl, fun planning => ?_⟩
      rw [planning] at target
      exact absurd target (by decide)
  · by_cases execution : record.slices.resumePhase.getD "" = "execution"
    · exact Or.inl (phase (by decide) execution)
    · rw [if_neg execution] at target
      cases target

theorem ReviewFacts.resumed {record next : OperationRecord} (facts : ReviewFacts log record)
    (same : next.operationId = record.operationId)
    (samePhase : next.slices.resumePhase = record.slices.resumePhase)
    (state : next.state = resumeTarget record) : ReviewFacts log next := by
  have calm : resumeTarget record ≠ .suspendedForApproval := by
    unfold resumeTarget
    (repeat' split) <;> decide
  refine ⟨fun running => ?_, fun phase => ?_, fun waiting => absurd (state ▸ waiting) calm⟩
  · rw [same]
    rcases resumeTarget_sandboxRunning (state.symm.trans running) with execution | ⟨waiting, fallback⟩
    · exact facts.phase execution
    · exact facts.phase ((facts.approval waiting).resolve_left fallback)
  · rw [same]
    exact facts.phase (samePhase.symm.trans phase)

theorem ReviewFacts.suspended {record next : OperationRecord} {result : Dict} {phase : String}
    (returned : Returned k record result phase) (call : CallReviewed log k)
    (same : next.operationId = record.operationId) (samePhase : next.slices.resumePhase = some phase)
    (state : next.state = .sandboxRunning → record.state = .sandboxRunning) :
    ReviewFacts log next := by
  cases returned with
  | planning planning _ =>
    refine ⟨fun running => ?_, fun execution => ?_, fun _ => Or.inl samePhase⟩
    · exact absurd (planning.symm.trans (state running)) (by decide)
    · exact absurd (samePhase.symm.trans execution) (by decide)
  | execution _ =>
    refine ⟨fun _ => ?_, fun _ => ?_, fun _ => Or.inr samePhase⟩ <;>
    · rw [same]
      exact call

/-- **What a save leaves of the review facts.** -/
theorem Saves.reviewFacts {next : OperationRecord} (saves : Saves c k next k')
    (held : ∀ record, k.record? = some record → ReviewFacts log record)
    (call : CallReviewed log k) : ReviewFacts log next := by
  cases saves with
  | registered => exact ⟨nofun, nofun, nofun⟩
  | preparedPlan => exact (held _ rfl).of_calm .reviewing rfl (by decide) rfl rfl
  | taskAccepted => exact (held _ rfl).of_calm .planning rfl (by decide) rfl rfl
  | fixAccepted => exact (held _ rfl).of_calm .reviewing rfl (by decide) rfl rfl
  | planReady => exact (held _ rfl).of_calm .planReady rfl (by decide) rfl rfl
  | autoReview => exact (held _ rfl).of_calm .reviewing rfl (by decide) rfl rfl
  | reviewClean => exact (held _ rfl).of_calm .sandboxReady rfl (by decide) (by simp) (by simp)
  | materialGap => exact (held _ rfl).of_calm .fulfilling rfl (by decide) rfl rfl
  | providerError =>
    exact (held _ rfl).of_calm .suspendedProviderRecovery (by simp) (by decide) (by simp) (by simp)
  | evidence => exact (held _ rfl).of_calm .suspendedEvidence rfl (by decide) rfl rfl
  | executionStarted => exact ⟨fun _ => call, (held _ rfl).phase, nofun⟩
  | fulfilmentDone target reason state outcome =>
    refine (held _ rfl).of_calm target rfl ?_ rfl rfl
    constructor <;> rintro rfl <;> exact absurd outcome (by decide)
  | completed => exact (held _ rfl).of_calm .completed rfl (by decide) rfl rfl
  | failed => exact (held _ rfl).of_calm .cancelledByUser rfl (by decide) rfl rfl
  | approvalSuspension _ _ returned =>
    exact ReviewFacts.suspended returned call (by simp) (by simp) nofun
  | toolResultSuspension _ returned =>
    exact ReviewFacts.suspended returned call (by simp) (by simp) nofun
  | otherSuspension returned =>
    exact ReviewFacts.suspended returned call (by simp) (by simp) (by simp)
  | approvalDenied => exact (held _ rfl).of_calm .cancelledByUser rfl (by decide) rfl rfl
  | approvalGranted => exact (held _ rfl).of_calm .suspendedForToolResult rfl (by decide) rfl rfl
  | toolResults => exact (held _ rfl).resumed (by simp) (by simp) (by simp)
  | resumed => exact (held _ rfl).resumed rfl rfl rfl
  | cancelled => exact (held _ rfl).of_calm .cancelledByUser rfl (by decide) rfl rfl
  | claimed => exact ⟨(held _ rfl).running, (held _ rfl).phase, (held _ rfl).approval⟩
  | retryStarted => exact (held _ rfl).of_calm .reviewing rfl (by decide) rfl rfl
  | retryRecorded => exact ⟨(held _ rfl).running, (held _ rfl).phase, (held _ rfl).approval⟩

theorem Saves.callReviewed {next : OperationRecord} (saves : Saves c k next k')
    (call : CallReviewed log k) : CallReviewed log k' := by
  cases saves with
  | @reviewClean record _ result state decision =>
    show ReviewedSince (record.withImprovedPlan result).operationId log
    rw [withImprovedPlan_operationId]
    exact call decision
  | executionStarted => exact call
  | _ => trivial

theorem ReviewGate.save {next : OperationRecord} (coherent : Coherent log k)
    (holds : ReviewGate log k) (saves : Saves c k next k') :
    ReviewGate (⟨ControllerOp.save next, ()⟩ :: log) k' := by
  have held : ∀ record, k.record? = some record → ReviewFacts log record :=
    fun record holding => holds.records _ record (coherent.2 record holding)
  have kept : k ≠ .fresh → ∀ operationId, ¬ Registers operationId ⟨ControllerOp.save next, ()⟩ :=
    fun entered operationId registers => entered (saves.fresh_of_registers registers)
  refine ⟨fun operationId => ⟨?_, holds.gate operationId⟩, fun operationId record found => ?_, ?_⟩
  · exact fun executes => executes.elim
  · rw [stored_save] at found
    split at found
    · cases found
      by_cases entered : k = .fresh
      · subst entered
        cases saves with
        | registered => exact ⟨nofun, nofun, nofun⟩
        | approvalSuspension _ _ returned => cases returned
        | toolResultSuspension _ returned => cases returned
        | otherSuspension returned => cases returned
      · exact (saves.reviewFacts held holds.call).cons (kept entered _)
    · rename_i other
      refine (holds.records operationId record found).cons fun registers => other ?_
      rw [stored_operationId found] at registers
      exact congrArg OperationRecord.operationId registers
  · have call : CallReviewed log k' := saves.callReviewed holds.call
    by_cases entered : k = .fresh
    · subst entered
      cases saves with
      | registered => trivial
      | approvalSuspension _ _ returned => cases returned
      | toolResultSuspension _ returned => cases returned
      | otherSuspension returned => cases returned
    · cases k' with
      | reviewed record plan result => exact fun decision => (call decision).cons (kept entered _)
      | cleared record plan result => exact ReviewedSince.cons call (kept entered _)
      | started record plan result => exact ReviewedSince.cons call (kept entered _)
      | executed record result => exact ReviewedSince.cons call (kept entered _)
      | _ => trivial

/-! ### The gate -/

theorem callReviewed_answered {record : OperationRecord} {returned : Dict → CallState}
    {answer : AdapterAnswer} (call : ∀ result, answer = .ok result → CallReviewed log (returned result)) :
    CallReviewed log (answeredState record returned answer) := by
  cases answer with
  | ok result => exact call result rfl
  | error error => trivial

theorem reviewGate_invariant (c : OperationController) : RunInvariant c ReviewGate where
  empty request :=
    ⟨fun _ => trivial, fun _ _ found => (by cases found), by cases request <;> trivial⟩
  entry holds request := ⟨holds.gate, holds.records, by cases request <;> trivial⟩
  step {log k op answer k'} coherent holds _ move := by
    have running : ∀ record, k.record? = some record → record.state = .sandboxRunning →
        ReviewedSince record.operationId log :=
      fun record holding state => (holds.records _ _ (coherent.2 record holding)).running state
    cases move with
    | save saves => exact holds.save coherent saves
    | append => exact holds.keep (by trivial) (fun _ => False.elim) (holds.call.cons (by trivial) _)
    | token => exact holds.keep (by trivial) (fun _ => False.elim) (holds.call.cons (by trivial) _)
    | uuid => exact holds.keep (by trivial) (fun _ => False.elim) (holds.call.cons (by trivial) _)
    | loaded => exact holds.keep (by trivial) (fun _ => False.elim) trivial
    | missing => exact holds.keep (by trivial) (fun _ => False.elim) trivial
    | vanished => exact holds.keep (by trivial) (fun _ => False.elim) trivial
    | anything => exact absurd rfl coherent.1
    | createPlan =>
      exact holds.keep (by trivial) (fun _ => False.elim) (callReviewed_answered fun _ _ => trivial)
    | resumePlan =>
      exact holds.keep (by trivial) (fun _ => False.elim) (callReviewed_answered fun _ _ => trivial)
    | fulfil =>
      exact holds.keep (by trivial) (fun _ => False.elim) (callReviewed_answered fun _ _ => trivial)
    | review plan providerOverride answer state =>
      refine holds.keep (by trivial) (fun _ => False.elim) (callReviewed_answered ?_)
      rintro result rfl decision
      exact ⟨[], _, log, rfl, ⟨rfl, decision⟩, fun _ member => absurd member List.not_mem_nil⟩
    | @execute record _ _ plan context answer state stored =>
      have reviewed : ReviewedSince record.operationId log := holds.call
      refine holds.keep (by trivial) (fun operationId same => same ▸ reviewed) (callReviewed_answered ?_)
      exact fun _ _ => reviewed.cons (not_registers_of_reads (by trivial) _)
    | @resumeExecution record resumeInput answer state =>
      have reviewed : ReviewedSince record.operationId log := running record rfl state
      refine holds.keep (by trivial) (fun operationId same => same ▸ reviewed) (callReviewed_answered ?_)
      exact fun _ _ => reviewed.cons (not_registers_of_reads (by trivial) _)

/-- **The execution adapter is asked for reviewed operations only**: in every run, whenever it is
asked to execute or to resume an operation, the review adapter has returned `no_material_gap` for the
operation since the operation was registered. -/
theorem execution_reviewed (reachable : Reachable c log) (operationId : String) :
    Always (fun older event => Executes operationId event → ReviewedSince operationId older) log :=
  ((reviewGate_invariant c).reachable reachable (.cancel "" "")).gate operationId

@[irreducible] def reviewedTask : Log :=
  session .complete
    [(.accept "task" "fix the auth bug" none (some "op-1") none,
      [.adapter (.ok [("plan", .obj [("steps", .arr [])])]),
        .adapter (.ok [("decision", .str "no_material_gap")]),
        .adapter (.ok [("status", .str "completed"), ("output", .str "done")])])] []

theorem reviewedTask_reachable : Reachable .complete reviewedTask := by
  unfold reviewedTask
  exact session_reachable _ _ [] .empty

theorem reviewedTask_reviewed :
    ∃ event older, event :: older <:+ reviewedTask ∧ Executes "op-1" event ∧
      ReviewedSince "op-1" older := by
  have executed : ∃ event ∈ reviewedTask, Executes "op-1" event := by decide +kernel
  obtain ⟨event, member, executes⟩ := executed
  obtain ⟨newer, older, split⟩ := List.append_of_mem member
  refine ⟨event, older, ⟨newer, split.symm⟩, executes, ?_⟩
  exact always_iff.mp (execution_reviewed reviewedTask_reachable "op-1") newer event older split
    executes

end Audisor.Controller
