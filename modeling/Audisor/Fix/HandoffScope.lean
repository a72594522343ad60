/-
**The scope of a persisted plan.**

* `PlanInScope` — every target of the steps that a plan states is a file of the manifest, and every
  finding they originate from is one of the operation.
* `local_inScope` — the plan that the local boundary accepts is in scope.
* **`handoff_inScope_iff`** — the handoffs of a dispatch are in scope exactly if what the custom igniter
  answers is: its plan is persisted as it is.
-/

import Audisor.Fix.Responses
import Audisor.Fix.Stages

namespace Audisor.Fix

open Checked Json

variable {host : Host} {operation : AcceptedFixOperation}

/-! ### Plans in scope -/

def planSteps : Json → List Json
  | .obj fields =>
    match get? fields "steps" with
    | some (.arr steps) => steps
    | _ => []
  | _ => []

/-- What a step states as its target and as its origin is in the scope of the operation. -/
def StepInScope (operation : AcceptedFixOperation) (step : Dict) : Prop :=
  (∀ target, get? step "target_file" = some target →
    ∃ file ∈ operation.manifest.files, target = .str file) ∧
  ∀ origin, get? step "originating_finding_id" = some origin →
    ∃ finding ∈ operation.findings, origin = .str finding.id

/-- Every step of a plan is in the scope of the operation. -/
def PlanInScope (operation : AcceptedFixOperation) (plan : Json) : Prop :=
  ∀ step, .obj step ∈ planSteps plan → StepInScope operation step

/-- The plan of a handoff is in scope, and its manifest has the files of the operation's. -/
def HandoffInScope (operation : AcceptedFixOperation) (handoff : Dict) : Prop :=
  (∀ plan, get? handoff "qualified_plan" = some plan → PlanInScope operation plan) ∧
  ∃ manifest, get? handoff "scoped_manifest" = some (.obj manifest) ∧
    get? manifest "files" = some (textsJson operation.manifest.files)

/-- What an igniter answers is in scope: its plan, or where it has none, the origins of the operation's
own plan. -/
def IgnitionResult.InScope (operation : AcceptedFixOperation) (result : IgnitionResult) : Prop :=
  match result.candidatePlan with
  | some plan => PlanInScope operation plan.plain
  | none => ∀ step ∈ operation.plan.steps,
      step.originatingFindingId ∈ operation.findings.map Finding.id

theorem planInScope_plain {plan : ImplementationPlan} :
    PlanInScope operation plan.plain ↔ ∀ step ∈ plan.steps,
      step.targetFile ∈ operation.manifest.files ∧
        step.originatingFindingId ∈ operation.findings.map Finding.id := by
  have stated : planSteps plan.plain = plan.steps.map PlanStep.plain := rfl
  have each : ∀ step : PlanStep, StepInScope operation
      [("id", .str step.id), ("action", .str step.action), ("target_file", .str step.targetFile),
        ("originating_finding_id", .str step.originatingFindingId),
        ("acceptance_criterion", step.acceptanceCriterion)] ↔
      step.targetFile ∈ operation.manifest.files ∧
        step.originatingFindingId ∈ operation.findings.map Finding.id := by
    intro step
    simp [StepInScope, eq_comm]
  unfold PlanInScope
  rw [stated]
  constructor
  · intro inside step member
    exact (each step).mp (inside _ (List.mem_map_of_mem member))
  · intro inside fields member
    obtain ⟨step, among, same⟩ := List.mem_map.mp member
    cases same
    exact (each step).mpr (inside step among)

/-! ### The local boundary -/

theorem stepFromJson_inScope {findingIds files : List String} {item : Json} {step : PlanStep}
    (read : stepFromJson findingIds files item = .ok step) :
    step.targetFile ∈ files ∧ step.originatingFindingId ∈ findingIds := by
  unfold stepFromJson at read
  dsimp only at read
  split at read
  · split at read
    · split_ifs at read with outside
      cases read
      rw [not_or, not_not, not_not] at outside
      exact outside.symm
    · cases read
  · cases read

theorem planFromJson_inScope {value : Json} {findings : List Finding} {manifest : FixScopedManifest}
    {plan : ImplementationPlan} (read : planFromJson value findings manifest = .ok plan) :
    ∀ step ∈ plan.steps, step.targetFile ∈ manifest.files ∧
      step.originatingFindingId ∈ findings.map Finding.id := by
  unfold planFromJson at read
  split at read
  · split at read
    · simp only [bind_eq_ok, refuse_eq_ok, exists_const, pure_eq_ok] at read
      obtain ⟨steps, stated, -, rfl⟩ := read
      intro step member
      obtain ⟨item, -, here⟩ := exists_mem_of_forall₂ (mapM_eq_ok.mp stated) member
      exact stepFromJson_inScope here
    · cases read
  · cases read

/-- **The plan that the local boundary accepts is in scope.** -/
theorem local_inScope {repr : PythonRepr} {reply : WorkerReply} {plan : ImplementationPlan}
    {findings : List Finding} {manifest : FixScopedManifest} {commands : List (List String)}
    {result : FixIgnitionResult}
    (accepted : invokeLocalFix repr reply plan findings manifest commands = .ok result) :
    ∀ step ∈ result.candidatePlan.steps, step.targetFile ∈ manifest.files ∧
      step.originatingFindingId ∈ findings.map Finding.id := by
  unfold invokeLocalFix at accepted
  split at accepted
  · cases accepted
  · obtain ⟨fields, -, read⟩ := bind_eq_ok.mp accepted
    unfold readResponse at read
    simp only [bind_eq_ok, pure_eq_ok] at read
    obtain ⟨-, -, eligible, -, candidate, planned, -, -, success, -, grounding, -, rfl⟩ := read
    exact planFromJson_inScope planned

/-! ### The persisted handoff -/

/-- The fields that a handoff has besides those of every operation. -/
def evidenceFields : List String :=
  ["handoff_sha256", "verification_contract", "verification_grounding", "authority_decisions"]

theorem get?_persistHandoff {sha : Aflow.Sha256} {result : IgnitionResult} {key : String}
    (plain : key ∉ evidenceFields) :
    get? (persistHandoff sha operation result) key =
      get? [("schema_version", .int 1), ("operation_id", .str operation.operationId),
        ("operation_type", .str "fix"), ("findings", .arr (operation.findings.map Finding.plain)),
        ("scoped_manifest", operation.manifest.plain),
        ("statements", .arr (operation.statements.toList.map Statement.plain)),
        ("qualified_plan", (result.plan operation).plain), ("authority", noAuthority)] key := by
  have evidence : get? (handoffEvidence operation result) key = none := by
    rw [get?_eq_none_iff]
    intro field member
    rintro rfl
    refine plain ?_
    unfold handoffEvidence at member
    simp only [List.mem_append] at member
    rcases member with (member | member) | member
    · split at member <;> simp_all [evidenceFields]
    · split at member <;> simp_all [evidenceFields]
    · split at member
      · split at member <;> simp_all [evidenceFields]
      · simp_all
  have hash : key ≠ "handoff_sha256" := fun same => plain (same ▸ List.mem_cons_self)
  rw [persistHandoff, get?_append, get?_cons, if_neg (Ne.symm hash), get?_nil, Option.none_or,
    Option.none_or, handoffPayload, get?_append, evidence, Option.none_or]

theorem handoffInScope_iff {sha : Aflow.Sha256} {result : IgnitionResult} :
    HandoffInScope operation (persistHandoff sha operation result) ↔
      PlanInScope operation (result.plan operation).plain := by
  have plan : get? (persistHandoff sha operation result) "qualified_plan" =
      some (result.plan operation).plain := get?_persistHandoff (by decide)
  have manifest : get? (persistHandoff sha operation result) "scoped_manifest" =
      some operation.manifest.plain := get?_persistHandoff (by decide)
  unfold HandoffInScope
  rw [plan, manifest]
  constructor
  · exact fun inside => inside.1 _ rfl
  · intro inside
    exact ⟨fun _ same => by cases same; exact inside, _, rfl, rfl⟩

theorem evaluate_unpersisted :
    Raises (fun left => left.handoff = none) (evaluate host operation) := by
  have early : ∀ {α : Type} {stage : Except Dispatched α}, Raises Dispatched.Early stage →
      Raises (fun left => left.handoff = none) stage :=
    fun raises left exit => (raises left exit).1.1
  have disabled : ∀ enriched context,
      Raises (fun left => left.handoff = none) (checkEnabled host enriched context) := by
    intro enriched context left exit
    unfold checkEnabled at exit
    split at exit
    · cases exit
    · split at exit <;> cases exit <;> rfl
  have prepared : Raises (fun left => left.handoff = none) (prepare host operation) :=
    (early checkRecorded_raises).bind fun _ _ => (early checkSnapshot_raises).bind fun _ _ =>
    (early checkPlan_raises).bind fun _ _ => (early repositoryRoot_raises).bind fun _ _ =>
    (early buildPackage_raises).bind fun _ _ => (disabled _ _).bind fun _ _ =>
    (early checkAuthority_raises).bind fun _ _ => Raises.ok _ _
  refine prepared.bind fun _ _ => (early evaluateModel_raises).bind fun _ _ => ?_
  exact Raises.bind (fun left exit => (checkCompleteness_raises left exit).1.1) fun _ _ => Raises.ok _ _

/-- **A handoff is persisted exactly of an eligible result that passed the gate.** -/
theorem dispatch_handoff {handoff : Dict} :
    (dispatch host operation).handoff = some handoff ↔
      ∃ prepared result, evaluate host operation = .ok (prepared, result) ∧ result.Eligible ∧
        persistHandoff host.sha prepared.operation result = handoff := by
  cases evaluated : evaluate host operation with
  | error left =>
    rw [dispatch, evaluated]
    dsimp only
    rw [evaluate_unpersisted left evaluated]
    exact iff_of_false (by rintro ⟨⟩) (by rintro ⟨_, _, ⟨⟩, _⟩)
  | ok passed =>
    obtain ⟨prepared, result⟩ := passed
    rw [dispatch_of_evaluate evaluated]
    by_cases eligible : result.Eligible
    · rw [(conclude_eligible eligible).2]
      constructor
      · intro same
        exact ⟨prepared, result, rfl, eligible, Option.some.inj same⟩
      · rintro ⟨_, _, same, -, rfl⟩
        cases same
        rfl
    · rw [(conclude_stops eligible).1]
      refine iff_of_false (by rintro ⟨⟩) ?_
      rintro ⟨_, _, same, stated, _⟩
      cases same
      exact eligible stated

/-- **The handoff of a prepared operation is in scope exactly if what the igniter answers is.** -/
theorem prepared_inScope_iff {prepared : Prepared} (ready : prepare host operation = .ok prepared)
    {sha : Aflow.Sha256} (result : IgnitionResult) :
    HandoffInScope operation (persistHandoff sha prepared.operation result) ↔
      result.InScope operation := by
  obtain ⟨-, -, valid, root, -, package, -, -, -, rfl⟩ := prepare_eq_ok.mp ready
  change HandoffInScope (enriched host operation root)
    (persistHandoff sha (enriched host operation root) result) ↔ _
  rw [handoffInScope_iff]
  unfold IgnitionResult.InScope IgnitionResult.plan
  cases result.candidatePlan with
  | some plan => exact Iff.rfl
  | none =>
    rw [Option.getD_none, CandidatePlan.plain, planInScope_plain]
    refine forall₂_congr fun step member => and_iff_right ?_
    exact ImplementationPlan.target_mem valid member

theorem localIgnition_inScope {prepared : Prepared} {result : IgnitionResult} {reply : WorkerReply}
    (boundary : host.boundary = .localWorker reply) (ready : prepare host operation = .ok prepared)
    (answered : ignition host prepared.operation prepared.context = .ok result) :
    result.InScope operation := by
  obtain ⟨-, -, -, root, -, package, -, -, -, rfl⟩ := prepare_eq_ok.mp ready
  unfold ignition at answered
  rw [boundary] at answered
  dsimp only at answered
  split at answered
  · rename_i accepted
    cases answered
    have inside := local_inScope accepted
    rename_i plan
    change PlanInScope operation plan.candidatePlan.plain
    exact planInScope_plain.mpr inside
  · cases answered

/-- **The handoffs of a dispatch are in scope exactly if the custom igniter's answer is**, where the
dispatch comes to persist it. -/
theorem handoff_inScope_iff (host : Host) (operation : AcceptedFixOperation) :
    (∀ handoff, (dispatch host operation).handoff = some handoff →
        HandoffInScope operation handoff) ↔
      ∀ igniter, host.boundary = .custom igniter → ∀ prepared, prepare host operation = .ok prepared →
        ∀ result, igniter prepared.context host.policy = .ok result →
          (evaluateFixCompleteness (result.plan prepared.operation) prepared.operation.findings
            prepared.results).status = .pass →
          result.Eligible → result.InScope operation := by
  constructor
  · intro held igniter boundary prepared ready result answered passes eligible
    have ignited : ignition host prepared.operation prepared.context = .ok result := by
      rw [ignition, boundary]
      exact answered
    have persisted := dispatch_handoff.mpr
      ⟨prepared, result, evaluate_eq_ok.mpr ⟨ready, ignited, passes⟩, eligible, rfl⟩
    exact (prepared_inScope_iff ready result).mp (held _ persisted)
  · intro held handoff persisted
    obtain ⟨prepared, result, evaluated, eligible, rfl⟩ := dispatch_handoff.mp persisted
    obtain ⟨ready, answered, passes⟩ := evaluate_eq_ok.mp evaluated
    refine (prepared_inScope_iff ready result).mpr ?_
    cases boundary : host.boundary with
    | localWorker reply => exact localIgnition_inScope boundary ready answered
    | custom igniter =>
      rw [ignition, boundary] at answered
      exact held igniter boundary prepared ready result answered passes eligible

/-- A result that moves the accepted plan to a file outside the manifest. -/
def strayingResult : IgnitionResult :=
  { acceptingResult with
    candidatePlan := some (.record {
      steps := [{
        id := "step-1"
        action := "edit"
        targetFile := "src/other.py"
        originatingFindingId := "scan-1"
        acceptanceCriterion := .null }]
      targetFiles := ["src/other.py"]
      isQualified := true
      minorIssues := [] }) }

def strayingHost : Host :=
  { sampleHost true emptyRepository with boundary := .custom fun _ _ => .ok strayingResult }

theorem strayingHost_evaluates :
    (evaluate strayingHost (sampleFix secretFinding (some secretDecision))).toOption.isSome = true := by
  decide +kernel

/-- **The answer of a custom igniter is persisted with a target outside the manifest.** -/
theorem handoff_strays :
    ∃ handoff, (dispatch strayingHost (sampleFix secretFinding (some secretDecision))).handoff =
        some handoff ∧
      ¬ HandoffInScope (sampleFix secretFinding (some secretDecision)) handoff := by
  cases evaluated : evaluate strayingHost (sampleFix secretFinding (some secretDecision)) with
  | error left => exact absurd (evaluated ▸ strayingHost_evaluates) (by simp [Except.toOption])
  | ok passed =>
    obtain ⟨prepared, result⟩ := passed
    obtain ⟨ready, answered, -⟩ := evaluate_eq_ok.mp evaluated
    cases answered
    refine ⟨_, dispatch_handoff.mpr ⟨_, _, evaluated, ⟨rfl, .null, rfl, fun _ => rfl⟩, rfl⟩, ?_⟩
    rw [prepared_inScope_iff ready]
    intro inside
    have target := (planInScope_plain.mp inside _ (List.mem_singleton.mpr rfl)).1
    exact absurd target (by decide)

end Audisor.Fix
