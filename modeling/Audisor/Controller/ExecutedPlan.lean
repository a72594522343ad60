/-
**What is executed, and what was reviewed.**

The reviewed plan travels as an argument; the executed one is read back from the artifacts.

* `lastReview operationId log` — the plan of the last review call, its answer, and the log before it.
* `lastApproved` — the plan that this call approved: its improved plan, or the one under review.
* `StoredInStep` — when the review was called, the stored candidate plan was the one under review.
* **`execute_approved_iff`** — in every run, the plan of an execution is the approved one exactly when
  the approving review improved the plan or the stored plan was in step.

The stored plan falls out of step in two ways: a fulfilment revises the plan under review without
storing it, and a fix operation stores no plan at all.
-/

import Audisor.Controller.Runs
import Audisor.Json.RoundTrip

namespace Audisor.Controller

open Interaction Json

/-! ### Reviews in a log -/

/-- The last review call for the operation: its plan, its answer, and the log before it. -/
def lastReview (operationId : String) : Log → Option (Json × AdapterAnswer × Log)
  | [] => none
  | ⟨.review plan reviewed _, answer⟩ :: before =>
    if reviewed = operationId then some (plan, answer, before) else lastReview operationId before
  | _ :: older => lastReview operationId older

def approvedPlan (plan : Json) (result : Dict) : Json := (improvedPlan result).getD plan

/-- The plan that the last review call for the operation approved. -/
def lastApproved (operationId : String) (log : Log) : Option Json :=
  match lastReview operationId log with
  | some (plan, .ok result, _) =>
    if decisionOf result = .str "no_material_gap" then some (approvedPlan plan result) else none
  | _ => none

/-- The stored candidate plan is this plan; where none is stored, the plan is empty. -/
def StoredInStep (record : OperationRecord) (plan : Json) : Prop :=
  record.artifacts.candidatePlan = some (plan.dumps {}) ∨
    record.artifacts.candidatePlan = none ∧ plan = .obj []

/-- The last review improved the plan, or was called with the plan that was stored then. -/
def ReviewedInStep (older : Log) (operationId : String) : Prop :=
  ∃ reviewed result before, lastReview operationId older = some (reviewed, .ok result, before) ∧
    ((improvedPlan result).isSome = true ∨
      ∃ record, stored before operationId = some record ∧ StoredInStep record reviewed)

/-! ### Stored plans -/

def PlanText (record : OperationRecord) : Prop :=
  ∀ text, record.artifacts.candidatePlan = some text → ∃ plan : Json, text = plan.dumps {}

theorem dumps_ne_empty (plan : Json) : plan.dumps {} ≠ "" := by
  intro empty
  have back : loads "" = some plan := by rw [← empty, loads_dumps]
  have unread : loads "" = none := by decide
  rw [unread] at back
  cases back

/-- **What is stored is read back.** -/
theorem storedPlan_dumps {artifacts : Artifacts} {plan : Json}
    (stored : artifacts.candidatePlan = some (plan.dumps {})) : artifacts.storedPlan = .ok plan := by
  unfold Artifacts.storedPlan
  rw [stored, Option.getD_some]
  split
  · rename_i empty
    exact absurd empty (dumps_ne_empty plan)
  · rw [loads_dumps]

theorem storedPlan_none {artifacts : Artifacts} (absent : artifacts.candidatePlan = none) :
    artifacts.storedPlan = .ok (.obj []) := by
  unfold Artifacts.storedPlan
  rw [absent, Option.getD_none]
  decide

theorem storedInStep_iff {record : OperationRecord} {readBack plan : Json} (texts : PlanText record)
    (read : record.artifacts.storedPlan = .ok readBack) :
    readBack = plan ↔ StoredInStep record plan := by
  cases found : record.artifacts.candidatePlan with
  | none =>
    rw [storedPlan_none found, Except.ok.injEq] at read
    subst read
    constructor
    · rintro rfl
      exact Or.inr ⟨found, rfl⟩
    · rintro (present | ⟨_, rfl⟩)
      · rw [found] at present
        cases present
      · rfl
  | some text =>
    obtain ⟨source, rfl⟩ := texts text found
    rw [storedPlan_dumps found, Except.ok.injEq] at read
    subst read
    constructor
    · rintro rfl
      exact Or.inl found
    · rintro (same | ⟨absent, _⟩)
      · rw [found, Option.some.injEq] at same
        exact dumps_injective {} same
      · rw [found] at absent
        cases absent

/-! ### The invariant -/

/-- What a call past its review has to do with the last review. -/
def CallPlan (log : Log) : CallState → Prop
  | .reviewed record plan result =>
    ∃ before, lastReview record.operationId log = some (plan, .ok result, before) ∧
      stored before record.operationId = some record ∧ PlanText record
  | .cleared record plan result | .started record plan result =>
    ∃ before source, lastReview record.operationId log = some (plan, .ok result, before) ∧
      stored before record.operationId = some source ∧ PlanText source ∧
      decisionOf result = .str "no_material_gap" ∧
      record.artifacts = (source.withImprovedPlan result).artifacts
  | _ => True

/-- The executed plan is the approved one exactly when it is in step. -/
def ExecutesInStep (older : Log) : Event controllerSignature → Prop
  | ⟨.execute operationId plan _, _⟩ =>
    lastApproved operationId older = some plan ↔ ReviewedInStep older operationId
  | _ => True

structure PlanInvariant (log : Log) (k : CallState) : Prop where
  executions : Always ExecutesInStep log
  texts : ∀ operationId record, stored log operationId = some record → PlanText record
  call : CallPlan log k

variable {c : OperationController} {log : Log} {k k' : CallState}

theorem Saves.planText {next : OperationRecord} (saves : Saves c k next k')
    (held : ∀ record, k.record? = some record → PlanText record) : PlanText next := by
  have kept : ∀ {record : OperationRecord}, k.record? = some record →
      next.artifacts.candidatePlan = record.artifacts.candidatePlan → PlanText next :=
    fun holding same text found => held _ holding text (same.symm.trans found)
  cases saves with
  | registered => exact fun _ found => by cases found
  | preparedPlan plan => exact fun _ found => ⟨.obj plan, (Option.some.inj found).symm⟩
  | @planReady record result => exact fun _ found => ⟨planOf result, (Option.some.inj found).symm⟩
  | @reviewClean record plan result =>
    intro text found
    rw [OperationRecord.moved_artifacts] at found
    unfold OperationRecord.withImprovedPlan at found
    split at found
    · rename_i improved _
      exact ⟨improved, (Option.some.inj found).symm⟩
    · exact held _ rfl text found
  | providerError => exact kept rfl (by simp)
  | approvalSuspension _ _ returned => exact kept returned.holds (by simp)
  | toolResultSuspension _ returned => exact kept returned.holds (by simp)
  | otherSuspension returned => exact kept returned.holds (by simp)
  | toolResults => exact kept rfl (by simp)
  | _ => exact kept rfl rfl

theorem CallPlan.cons (holds : CallPlan log k) {event : Event controllerSignature}
    (same : ∀ operationId, lastReview operationId (event :: log) = lastReview operationId log) :
    CallPlan (event :: log) k := by
  cases k with
  | reviewed record plan result => simpa only [CallPlan, same] using holds
  | cleared record plan result => simpa only [CallPlan, same] using holds
  | started record plan result => simpa only [CallPlan, same] using holds
  | _ => trivial

theorem Saves.callPlan {next : OperationRecord} (saves : Saves c k next k')
    (call : CallPlan log k) : CallPlan log k' := by
  cases saves with
  | @reviewClean record plan result state decision =>
    obtain ⟨before, last, source, text⟩ := call
    refine ⟨before, record, ?_, ?_, text, decision, rfl⟩
    · simpa using last
    · simpa using source
  | executionStarted => exact call
  | _ => trivial

theorem CallPlan.executesInStep {record : OperationRecord} {reviewed plan : Json} {result : Dict}
    (call : CallPlan log (.started record reviewed result))
    (read : record.artifacts.storedPlan = .ok plan) :
    lastApproved record.operationId log = some plan ↔ ReviewedInStep log record.operationId := by
  obtain ⟨before, source, last, saved, text, decision, artifacts⟩ := call
  have approves : lastApproved record.operationId log = some plan ↔
      plan = approvedPlan reviewed result := by
    rw [lastApproved, last]
    dsimp only
    rw [if_pos decision, Option.some.injEq, eq_comm]
  have inStep : ReviewedInStep log record.operationId ↔
      ((improvedPlan result).isSome = true ∨ StoredInStep source reviewed) := by
    constructor
    · rintro ⟨_, _, _, last', condition⟩
      rw [last] at last'
      cases last'
      rw [saved] at condition
      exact condition.imp_right fun ⟨_, same, step⟩ => by cases same; exact step
    · exact fun condition =>
        ⟨reviewed, result, before, last, condition.imp_right fun step => ⟨source, saved, step⟩⟩
  rw [approves, inStep]
  rw [artifacts] at read
  unfold OperationRecord.withImprovedPlan at read
  unfold approvedPlan
  cases improved : improvedPlan result with
  | some better =>
    rw [improved] at read
    have stored : plan = better := by
      rw [storedPlan_dumps rfl] at read
      exact (Except.ok.inj read).symm
    exact iff_of_true stored (Or.inl rfl)
  | none =>
    rw [improved] at read
    rw [Option.getD_none, storedInStep_iff text read]
    exact (or_iff_right (by decide)).symm

theorem callPlan_answered {record : OperationRecord} {returned : Dict → CallState}
    {answer : AdapterAnswer} (call : ∀ result, answer = .ok result → CallPlan log (returned result)) :
    CallPlan log (answeredState record returned answer) := by
  cases answer with
  | ok result => exact call result rfl
  | error error => trivial

theorem PlanInvariant.keep {op : ControllerOp} {answer : op.Answer} (holds : PlanInvariant log k)
    (reads : op.Reads) (inStep : ExecutesInStep log ⟨op, answer⟩)
    (call : CallPlan (⟨op, answer⟩ :: log) k') : PlanInvariant (⟨op, answer⟩ :: log) k' where
  executions := ⟨inStep, holds.executions⟩
  texts operationId record found := by
    rw [stored_of_reads reads] at found
    exact holds.texts operationId record found
  call := call

theorem PlanInvariant.save {next : OperationRecord} (coherent : Coherent log k)
    (holds : PlanInvariant log k) (saves : Saves c k next k') :
    PlanInvariant (⟨ControllerOp.save next, ()⟩ :: log) k' where
  executions := ⟨trivial, holds.executions⟩
  texts operationId record found := by
    rw [stored_save] at found
    split at found
    · cases found
      exact saves.planText fun held holding => holds.texts _ held (coherent.2 held holding)
    · exact holds.texts operationId record found
  call := (saves.callPlan holds.call).cons fun _ => rfl

theorem planInvariant (c : OperationController) : RunInvariant c PlanInvariant where
  empty request := ⟨trivial, fun _ _ found => (by cases found), by cases request <;> trivial⟩
  entry holds request := ⟨holds.executions, holds.texts, by cases request <;> trivial⟩
  step {log k op answer k'} coherent holds _ move := by
    cases move with
    | save saves => exact holds.save coherent saves
    | append => exact holds.keep (by trivial) trivial (holds.call.cons fun _ => rfl)
    | token => exact holds.keep (by trivial) trivial (holds.call.cons fun _ => rfl)
    | uuid => exact holds.keep (by trivial) trivial (holds.call.cons fun _ => rfl)
    | loaded => exact holds.keep (by trivial) trivial trivial
    | missing => exact holds.keep (by trivial) trivial trivial
    | vanished => exact holds.keep (by trivial) trivial trivial
    | anything => exact absurd rfl coherent.1
    | createPlan => exact holds.keep (by trivial) trivial (callPlan_answered fun _ _ => trivial)
    | resumePlan => exact holds.keep (by trivial) trivial (callPlan_answered fun _ _ => trivial)
    | fulfil => exact holds.keep (by trivial) trivial (callPlan_answered fun _ _ => trivial)
    | resumeExecution =>
      exact holds.keep (by trivial) trivial (callPlan_answered fun _ _ => trivial)
    | @review record plan providerOverride answer state =>
      refine holds.keep (by trivial) trivial (callPlan_answered ?_)
      rintro result rfl
      have saved : stored log record.operationId = some record := coherent.2 record rfl
      exact ⟨log, if_pos rfl, saved, holds.texts _ record saved⟩
    | execute plan context answer state read =>
      exact holds.keep (by trivial) (holds.call.executesInStep read)
        (callPlan_answered fun _ _ => trivial)

/-- **What is executed is what was reviewed, exactly when the stored plan was in step**: in every
run, whenever the execution adapter is asked to execute a plan, that plan is the one the last review
approved if and only if that review returned an improved plan or was called with the plan that was
stored as the candidate plan then. -/
theorem execute_approved_iff (reachable : Reachable c log) {newer older : Log} {operationId : String}
    {plan : Json} {context : Dict} {answer : AdapterAnswer}
    (executed : log = newer ++ ⟨ControllerOp.execute operationId plan context, answer⟩ :: older) :
    lastApproved operationId older = some plan ↔ ReviewedInStep older operationId :=
  always_iff.mp ((planInvariant c).reachable reachable (.cancel "" "")).executions newer _ older
    executed

/-- Every executed plan is the one that the last review approved. -/
def ExecutesReviewed (older : Log) : Event controllerSignature → Prop
  | ⟨.execute operationId plan _, _⟩ => lastApproved operationId older = some plan
  | _ => True

instance (older : Log) (event : Event controllerSignature) : Decidable (ExecutesReviewed older event) :=
  match event with
  | ⟨.execute operationId plan _, _⟩ =>
    inferInstanceAs (Decidable (lastApproved operationId older = some plan))
  | ⟨.load _, _⟩ | ⟨.save _, _⟩ | ⟨.append _ _ _ _, _⟩ | ⟨.createPlan _ _, _⟩
  | ⟨.resumePlan _ _, _⟩ | ⟨.review _ _ _, _⟩ | ⟨.fulfil _ _ _, _⟩ | ⟨.resumeExecution _ _, _⟩
  | ⟨.chatTurn _ _ _, _⟩ | ⟨.tokenHex _, _⟩ | ⟨.uuid4Hex, _⟩ => inferInstanceAs (Decidable True)

/-- A task whose plan the fulfilment revises: the revised plan is reviewed, the first is executed. -/
@[irreducible] def revisedTask : Log :=
  session .complete
    [(.accept "task" "fix the auth bug" none (some "op-1") none,
      [.adapter (.ok [("plan", .obj [("steps", .arr [.str "drop the check"])])]),
        .adapter (.ok [("decision", .str "material_gap_found"), ("findings", .arr [.obj []])]),
        .adapter (.ok [("all_resolved", .bool true),
          ("revised_plan", .obj [("steps", .arr [.str "mend the check"])])]),
        .adapter (.ok [("decision", .str "no_material_gap")]),
        .adapter (.ok [("status", .str "completed")])])] []

theorem revisedTask_reachable : Reachable .complete revisedTask := by
  unfold revisedTask
  exact session_reachable _ _ [] .empty

theorem revisedTask_not_reviewed :
    ¬ ∀ (c : OperationController) (log : Log), Reachable c log → Always ExecutesReviewed log := by
  intro every
  have reviewed : Always ExecutesReviewed revisedTask := every _ _ revisedTask_reachable
  exact absurd reviewed (by decide +kernel)

/-- The execution in the log of the revised task, where the stored plan was not in step. -/
theorem revisedTask_iff :
    lastApproved "op-1" (revisedTask.drop 4) =
        some (.obj [("steps", .arr [.str "drop the check"])]) ↔
      ReviewedInStep (revisedTask.drop 4) "op-1" := by
  have executed : revisedTask = revisedTask.take 3 ++
      ⟨ControllerOp.execute "op-1" (.obj [("steps", .arr [.str "drop the check"])]) [],
        .ok [("status", .str "completed")]⟩ :: revisedTask.drop 4 := by decide +kernel
  exact execute_approved_iff revisedTask_reachable executed

end Audisor.Controller
