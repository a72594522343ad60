/-
**What the stages of a dispatch leave, how they exit, and what they do not skip.**

* `checkRecorded_eq_ok` … `checkCompleteness_eq_ok` — when a stage lets the operation pass.
* `prepare_eq_ok`, `evaluate_eq_ok` — when all of them do, and with what.
* `Dispatched.Early` — an exit in front of the completeness gate. `evaluate_raises` — under an enabled
  policy every exit stops the operation.
* **`dispatch_cases`** — an enabled dispatch stops, or it concludes on a result that passed the gate.
* **`continued_decided`** — an enabled dispatch continues the implementation only if the operation holds
  a decision of the required kind for every finding that needs one.
* `disabled_undecided` — a disabled policy continues it without looking at the decisions.
-/

import Audisor.Fix.Dispatch

namespace Audisor.Fix

section

open Checked Json

variable {host : Host} {operation : AcceptedFixOperation} {done : Unit}

/-! ### Exits -/

theorem Dispatched.Stops.of_answer {dispatched : Dispatched} (handoff : dispatched.handoff = none)
    (other : ∀ operation continuation, dispatched.answer ≠ .continued operation continuation) :
    dispatched.Stops :=
  ⟨handoff, fun ⟨operation, continuation, same⟩ => other operation continuation same⟩

/-- The persisted record states a completeness status, as that of the completeness gate does. -/
def Dispatched.StatesCompleteness (dispatched : Dispatched) (status : CompletenessStatus) : Prop :=
  ∃ record, dispatched.record = some record ∧
    get? record "completeness_status" = some (.str status.value)

/-- **An exit in front of the gate**: nothing goes on, and no record states a completeness. -/
def Dispatched.Early (dispatched : Dispatched) : Prop :=
  dispatched.Stops ∧ ∀ status, ¬ dispatched.StatesCompleteness status

theorem routeOrFinalize_ne_continued (host : Host) (operation : AcceptedFixOperation) (artifact : Dict)
    (route : String) (reason : Option String) (onto : AcceptedFixOperation)
    (continuation : Continuation) :
    routeOrFinalize host operation artifact route reason ≠ .continued onto continuation := by
  unfold routeOrFinalize
  split <;> nofun

theorem halt_stops (host : Host) (operation : AcceptedFixOperation) (artifact : Dict)
    (route reason : String) : (halt host operation artifact route reason).Stops :=
  .of_answer rfl (routeOrFinalize_ne_continued host operation artifact route (some reason))

theorem Dispatched.Early.of_unstated {dispatched : Dispatched} (stops : dispatched.Stops)
    (unstated : ∀ record, dispatched.record = some record →
      get? record "completeness_status" = none) : dispatched.Early := by
  refine ⟨stops, fun status ⟨record, held, stated⟩ => ?_⟩
  rw [unstated record held] at stated
  cases stated

theorem halt_early {artifact : Dict} {route reason : String}
    (unstated : get? artifact "completeness_status" = none) :
    (halt host operation artifact route reason).Early :=
  .of_unstated (halt_stops host operation artifact route reason) fun _ same => by
    cases same
    exact unstated

theorem raiseOut_early (failure : Failure) : (raiseOut failure).Early :=
  .of_unstated (.of_answer rfl fun _ _ => by simp [raiseOut]) nofun

theorem artifact_unstated {context : AudisorOperationContext} {status : String}
    {result : Option IgnitionResult} {error : Option Failure} {artifact : Dict}
    (made : audisorOperationArtifact host context status result error = .ok artifact) :
    get? artifact "completeness_status" = none := by
  obtain ⟨parts, -, rest⟩ := bind_eq_ok.mp made
  cases rest
  rfl

theorem haltWith_early {context : AudisorOperationContext} {status route reason : String}
    {result : Option IgnitionResult} {error : Option Failure} :
    (haltWith host operation (audisorOperationArtifact host context status result error) route
      reason).Early := by
  cases made : audisorOperationArtifact host context status result error with
  | ok artifact => exact halt_early (artifact_unstated made)
  | error failure => exact raiseOut_early failure

/-! ### The stages before the model -/

theorem checkRecorded_eq_ok :
    checkRecorded host operation = .ok done ↔ (host.load operation.operationId).getD .null = .null := by
  unfold checkRecorded
  split <;> rename_i loaded <;> simp_all

theorem checkRecorded_raises : Raises Dispatched.Early (checkRecorded host operation) := by
  intro dispatched exit
  unfold checkRecorded at exit
  split at exit <;> cases exit
  exact .of_unstated (.of_answer rfl fun _ _ => by simp) nofun

theorem checkSnapshot_eq_ok :
    checkSnapshot host operation = .ok done ↔ snapshotErrors operation.manifest = .ok () := by
  unfold checkSnapshot
  split <;> rename_i errors <;> simp [errors]

theorem checkSnapshot_raises : Raises Dispatched.Early (checkSnapshot host operation) := by
  intro dispatched exit
  unfold checkSnapshot at exit
  split at exit <;> cases exit
  exact halt_early rfl

theorem checkPlan_eq_ok :
    checkPlan host operation = .ok done ↔ operation.plan.validate operation.manifest = .ok () := by
  unfold checkPlan
  split <;> rename_i errors <;> simp [errors]

theorem checkPlan_raises : Raises Dispatched.Early (checkPlan host operation) := by
  intro dispatched exit
  unfold checkPlan at exit
  split at exit <;> cases exit
  exact halt_early rfl

theorem repositoryRoot_eq_ok {root : String} :
    repositoryRoot host operation = .ok root ↔
      getD operation.workspaceIdentity "root" (.str host.workingDirectory) = .str root := by
  unfold repositoryRoot
  split <;> rename_i stated
  · simp [stated]
  · exact iff_of_false nofun fun same => stated root same

theorem repositoryRoot_raises : Raises Dispatched.Early (repositoryRoot host operation) := by
  intro dispatched exit
  unfold repositoryRoot at exit
  split at exit <;> cases exit
  exact raiseOut_early _

theorem buildPackage_raises : Raises Dispatched.Early (buildPackage host operation) := by
  intro dispatched exit
  unfold buildPackage at exit
  split at exit
  · cases exit
  · split at exit
    · dsimp only at exit
      split at exit <;> cases exit
      exact haltWith_early
    · cases exit

theorem checkEnabled_eq_ok {context : AudisorOperationContext} :
    checkEnabled host operation context = .ok done ↔ host.policy.enabled = true := by
  unfold checkEnabled
  split <;> rename_i enabled
  · simp [enabled]
  · split <;> simp [enabled]

theorem checkAuthority_eq_ok :
    checkAuthority host operation = .ok done ↔
      ∃ decisions, operationDecisions host.repr operation = .ok decisions ∧
        (evaluateAuthority operation.findings decisions).status = .pass := by
  unfold checkAuthority
  cases operationDecisions host.repr operation with
  | error message => simp
  | ok decisions => cases status : (evaluateAuthority operation.findings decisions).status <;> simp [status]

theorem checkAuthority_raises : Raises Dispatched.Early (checkAuthority host operation) := by
  intro dispatched exit
  unfold checkAuthority at exit
  split at exit
  · cases exit
    exact raiseOut_early _
  · dsimp only at exit
    split at exit <;> cases exit
    exact halt_early rfl

/-! ### The model and the gate -/

theorem evaluateModel_eq_ok {context : AudisorOperationContext} {result : IgnitionResult} :
    evaluateModel host operation context = .ok result ↔
      ignition host operation context = .ok result := by
  unfold evaluateModel
  split <;> rename_i answered <;> simp [answered]

theorem evaluateModel_raises {context : AudisorOperationContext} :
    Raises Dispatched.Early (evaluateModel host operation context) := by
  intro dispatched exit
  unfold evaluateModel at exit
  split at exit <;> cases exit
  exact haltWith_early

theorem checkCompleteness_eq_ok {results : List DependencyResolutionResult} {result : IgnitionResult} :
    checkCompleteness host operation results result = .ok done ↔
      (evaluateFixCompleteness (result.plan operation) operation.findings results).status = .pass := by
  unfold checkCompleteness
  dsimp only
  split <;> rename_i status <;> simp [status]

/-- **The gate stops an operation with a record of its status.** -/
theorem checkCompleteness_raises {results : List DependencyResolutionResult}
    {result : IgnitionResult} :
    Raises (fun dispatched => dispatched.Stops ∧ ∀ status, dispatched.StatesCompleteness status ↔
        status = (evaluateFixCompleteness (result.plan operation) operation.findings results).status)
      (checkCompleteness host operation results result) := by
  intro dispatched exit
  unfold checkCompleteness at exit
  dsimp only at exit
  split at exit <;> cases exit
  refine ⟨halt_stops _ _ _ _ _, fun status => ?_⟩
  have value : ∀ first second : CompletenessStatus, first.value = second.value → second = first := by
    rintro ⟨⟩ ⟨⟩ same <;> first | rfl | exact absurd same (by decide)
  constructor
  · rintro ⟨record, held, stated⟩
    cases held
    exact value _ _ (by injection stated with stated; injection stated)
  · rintro rfl
    exact ⟨_, rfl, rfl⟩

/-! ### The dispatch -/

/-- The operation with what the resolution found in the repository at a root. -/
def enriched (host : Host) (operation : AcceptedFixOperation) (root : String) :
    AcceptedFixOperation :=
  { operation with manifest := enrichedManifest (host.repositoryAt root) operation }

/-- The results of the resolution in the repository at a root. -/
def resolutionResults (host : Host) (operation : AcceptedFixOperation) (root : String) :
    List DependencyResolutionResult :=
  operation.findings.map (resolutionResult host.repr
    (enrichedManifest (host.repositoryAt root) operation).dependencyEvidence)

/-- **The stages before the model pass together.** -/
theorem prepare_eq_ok {prepared : Prepared} :
    prepare host operation = .ok prepared ↔
      (host.load operation.operationId).getD .null = .null ∧
        snapshotErrors operation.manifest = .ok () ∧
        operation.plan.validate operation.manifest = .ok () ∧
        ∃ root, getD operation.workspaceIdentity "root" (.str host.workingDirectory) = .str root ∧
        ∃ package, buildPackage host (enriched host operation root) = .ok package ∧
        host.policy.enabled = true ∧
        (∃ decisions, operationDecisions host.repr operation = .ok decisions ∧
          (evaluateAuthority operation.findings decisions).status = .pass) ∧
        { operation := enriched host operation root
          results := resolutionResults host operation root
          context := makeOperationContext host.sha (enriched host operation root) package } =
            prepared := by
  unfold prepare
  simp only [bind_eq_ok, checkRecorded_eq_ok, checkSnapshot_eq_ok, checkPlan_eq_ok,
    repositoryRoot_eq_ok, prepareDependencyEvidence, checkEnabled_eq_ok, checkAuthority_eq_ok, exists_const,
    pure_eq_ok]
  rfl

theorem evaluate_eq_ok {prepared : Prepared} {result : IgnitionResult} :
    evaluate host operation = .ok (prepared, result) ↔
      prepare host operation = .ok prepared ∧
        ignition host prepared.operation prepared.context = .ok result ∧
        (evaluateFixCompleteness (result.plan prepared.operation) prepared.operation.findings
          prepared.results).status = .pass := by
  unfold evaluate
  simp only [bind_eq_ok, evaluateModel_eq_ok, checkCompleteness_eq_ok, exists_const, pure_eq_ok,
    Prod.mk.injEq]
  constructor
  · rintro ⟨_, ready, _, answered, gate, rfl, rfl⟩
    exact ⟨ready, answered, gate⟩
  · rintro ⟨ready, answered, gate⟩
    exact ⟨_, ready, _, answered, gate, rfl, rfl⟩

theorem evaluate_eq_error {left : Dispatched} :
    evaluate host operation = .error left ↔
      prepare host operation = .error left ∨
        ∃ prepared, prepare host operation = .ok prepared ∧
          (evaluateModel host prepared.operation prepared.context = .error left ∨
            ∃ result, ignition host prepared.operation prepared.context = .ok result ∧
              checkCompleteness host prepared.operation prepared.results result = .error left) := by
  unfold evaluate
  simp only [bind_eq_error, evaluateModel_eq_ok]
  constructor
  · rintro (early | ⟨prepared, ready, early | ⟨result, answered, gate | ⟨_, _, none⟩⟩⟩)
    · exact .inl early
    · exact .inr ⟨prepared, ready, .inl early⟩
    · exact .inr ⟨prepared, ready, .inr ⟨result, answered, gate⟩⟩
    · cases none
  · rintro (early | ⟨prepared, ready, early | ⟨result, answered, gate⟩⟩)
    · exact .inl early
    · exact .inr ⟨prepared, ready, .inl early⟩
    · exact .inr ⟨prepared, ready, .inr ⟨result, answered, .inl gate⟩⟩

/-- A result that lets the implementation go on, and that has what its artifact reads. -/
def IgnitionResult.Eligible (result : IgnitionResult) : Prop :=
  result.implementationEligible = some true ∧
    ∃ analysis, result.buildAnalysis = some analysis ∧
      (analysis = .null → result.executionContract.isSome)

theorem attributeOf_eq_ok {α : Type} {name : String} {held : Option α} {value : α} :
    attributeOf name held = .ok value ↔ held = some value := by
  cases held <;> simp [attributeOf]

theorem resultParts_eq_ok {result : IgnitionResult} :
    (∃ parts, resultParts (some result) = .ok parts) ↔
      ∃ analysis, result.buildAnalysis = some analysis ∧
        (analysis = .null →
          result.executionContract.isSome ∧ result.implementationEligible.isSome) := by
  simp only [resultParts, bind_eq_ok, attributeOf_eq_ok]
  constructor
  · rintro ⟨parts, analysis, held, rest⟩
    refine ⟨analysis, held, fun absent => ?_⟩
    rw [if_pos absent] at rest
    simp only [bind_eq_ok, attributeOf_eq_ok] at rest
    obtain ⟨contract, stated, eligible, known, -⟩ := rest
    simp [stated, known]
  · rintro ⟨analysis, held, rest⟩
    by_cases absent : analysis = .null
    · obtain ⟨contract, stated⟩ := Option.isSome_iff_exists.mp (rest absent).1
      obtain ⟨eligible, known⟩ := Option.isSome_iff_exists.mp (rest absent).2
      refine ⟨(analysis, contract, eligible), analysis, held, ?_⟩
      rw [if_pos absent, stated, known]
      rfl
    · refine ⟨(analysis, .null, false), analysis, held, ?_⟩
      rw [if_neg absent]
      rfl

theorem resultArtifact_eligible {context : AudisorOperationContext} {result : IgnitionResult} :
    (∃ artifact, resultArtifact host context result = .ok (true, artifact)) ↔ result.Eligible := by
  have parts := @resultParts_eq_ok result
  simp only [resultArtifact, audisorOperationArtifact, bind_eq_ok, attributeOf_eq_ok, pure_eq_ok,
    Prod.mk.injEq]
  constructor
  · rintro ⟨artifact, eligible, known, _, ⟨read, found, -⟩, rfl, -⟩
    obtain ⟨analysis, held, rest⟩ := parts.mp ⟨read, found⟩
    exact ⟨known, analysis, held, fun absent => (rest absent).1⟩
  · rintro ⟨known, analysis, held, rest⟩
    obtain ⟨read, found⟩ := parts.mpr ⟨analysis, held, fun absent => ⟨rest absent, by simp [known]⟩⟩
    exact ⟨_, true, known, _, ⟨read, found, rfl⟩, rfl, rfl⟩

/-- **An eligible result continues the implementation with a handoff; any other stops.** -/
theorem conclude_eligible {context : AudisorOperationContext} {result : IgnitionResult}
    (eligible : result.Eligible) :
    (conclude host operation context result).Continues ∧
      (conclude host operation context result).handoff =
        some (persistHandoff host.sha operation result) := by
  obtain ⟨artifact, made⟩ := resultArtifact_eligible.mpr eligible
  rw [conclude, made]
  exact ⟨⟨_, _, rfl⟩, rfl⟩

theorem conclude_stops {context : AudisorOperationContext} {result : IgnitionResult}
    (ineligible : ¬ result.Eligible) : (conclude host operation context result).Stops := by
  unfold conclude
  split
  · exact (raiseOut_early _).1
  · rename_i artifact made
    exact absurd (resultArtifact_eligible.mp ⟨artifact, made⟩) ineligible
  · exact .of_answer rfl (routeOrFinalize_ne_continued _ _ _ _ _)

/-- **Under an enabled policy the stages before the model exit early.** -/
theorem prepare_raises (enabled : host.policy.enabled = true) :
    Raises Dispatched.Early (prepare host operation) := by
  refine checkRecorded_raises.bind fun _ _ => checkSnapshot_raises.bind fun _ _ =>
    checkPlan_raises.bind fun _ _ => repositoryRoot_raises.bind fun _ _ =>
    buildPackage_raises.bind fun _ _ => Raises.bind ?_ fun _ _ =>
    checkAuthority_raises.bind fun _ _ => Raises.ok _ _
  rw [(@checkEnabled_eq_ok _ _ () _).mpr enabled]
  exact Raises.ok _ ()

/-- **Under an enabled policy every exit in front of the handoff stops.** -/
theorem evaluate_raises (enabled : host.policy.enabled = true) :
    Raises Dispatched.Stops (evaluate host operation) := by
  refine Raises.bind (fun left exit => (prepare_raises enabled left exit).1) fun prepared _ => ?_
  refine Raises.bind (fun left exit => (evaluateModel_raises left exit).1) fun result _ => ?_
  exact Raises.bind (fun left exit => (checkCompleteness_raises left exit).1) fun _ _ => Raises.ok _ _

theorem dispatch_of_evaluate {prepared : Prepared} {result : IgnitionResult}
    (evaluated : evaluate host operation = .ok (prepared, result)) :
    dispatch host operation = conclude host prepared.operation prepared.context result := by
  rw [dispatch, evaluated]

/-- **An enabled dispatch stops, or it concludes on a result that passed the gate.** -/
theorem dispatch_cases (enabled : host.policy.enabled = true) :
    (dispatch host operation).Stops ∨
      ∃ prepared result, evaluate host operation = .ok (prepared, result) ∧
        dispatch host operation =
          conclude host prepared.operation prepared.context result := by
  cases evaluated : evaluate host operation with
  | error left =>
    rw [dispatch, evaluated]
    exact .inl (evaluate_raises enabled left evaluated)
  | ok passed => exact .inr ⟨passed.1, passed.2, rfl, dispatch_of_evaluate evaluated⟩

/-! ### Hosts and operations of the instances -/

def acceptingResult : IgnitionResult where
  candidatePlan := none
  buildAnalysis := some .null
  executionContract := some .null
  implementationEligible := some true
  successDefinition := none
  verificationGrounding := none

theorem acceptingResult_eligible : acceptingResult.Eligible := ⟨rfl, .null, rfl, fun _ => rfl⟩

def acceptingIgniter : Boundary := .custom fun _ _ => .ok acceptingResult

theorem accepting_continues (accepting : host.boundary = acceptingIgniter)
    (passes : (evaluate host operation).toOption.isSome = true) :
    (dispatch host operation).Continues ∧ (dispatch host operation).handoff.isSome = true := by
  cases evaluated : evaluate host operation with
  | error left =>
    rw [evaluated] at passes
    cases passes
  | ok passed =>
    obtain ⟨prepared, result⟩ := passed
    have answered := (evaluate_eq_ok.mp evaluated).2.1
    rw [ignition, accepting] at answered
    cases answered
    have concluded := @conclude_eligible host prepared.operation prepared.context _
      acceptingResult_eligible
    rw [dispatch_of_evaluate evaluated, concluded.2]
    exact ⟨concluded.1, rfl⟩

def sampleHost (enabled : Bool) (repository : Repository) : Host where
  repr := plainRepr
  sha := Aflow.sha256
  sanitize := id
  contractHash _ := ""
  storeRoot := "/store"
  load _ := none
  workingDirectory := "/repo"
  repositoryAt _ := repository
  policy := {
    enabled
    provider := "local-openai-compatible"
    modelId := "qwen2.5-coder:7b"
    baseUrl := "http://127.0.0.1:11434"
    timeoutSeconds := .int 300 }
  packageFromContext _ _ _ := .ok { packageHash := "", canonicalPayload := [] }
  boundary := acceptingIgniter
  routing := false

def emptyRepository : Repository where
  base := ["repo"]
  resolve path := path
  isFile _ := false
  statements _ := none

/-- The fix of one finding on `src/app.py`. -/
def sampleFix (finding : Finding) (decisions : Option (Table Json)) : AcceptedFixOperation where
  operationId := "fix-1"
  findings := [finding]
  manifest := {
    files := ["src/app.py"]
    dependencyClosure := ["src/app.py"]
    inputHash := "input"
    fileHashes := AList.singleton "src/app.py" (String.ofList (List.replicate 64 'a'))
    dependencyEvidence := ∅ }
  statements := Vector.replicate 3 {
    type := "intent", content := [], findingsRefHash := "findings", manifestRefHash := "manifest" }
  plan := {
    steps := [{
      id := "step-1"
      action := "edit"
      targetFile := "src/app.py"
      originatingFindingId := finding.id
      acceptanceCriterion := .null }]
    targetFiles := ["src/app.py"]
    isQualified := true
    minorIssues := [] }
  workspaceIdentity := [("root", .str "/repo")]
  authorityContext := []
  aflowAnalysisRequest := none
  authorityDecisions := decisions
  aflowAnalysisRequestPresent := false

end

open Json

theorem prepare_decided {host : Host} {operation : AcceptedFixOperation} {prepared : Prepared}
    (passed : prepare host operation = .ok prepared) {finding : Finding}
    (member : finding ∈ operation.findings) {requirement : AuthorityRequirement}
    (needed : authorityRequirement finding.type = some requirement) :
    Decided operation.authorityDecisions finding requirement := by
  obtain ⟨-, -, -, root, -, package, -, -, ⟨decisions, read, status⟩, -⟩ := prepare_eq_ok.mp passed
  have satisfied := evaluateAuthority_pass.mp status finding member requirement needed
  unfold operationDecisions at read
  split at read
  · rename_i held decided
    rw [decided]
    exact decided_of_satisfying read needed satisfied
  · cases read
    cases satisfied

/-- **An enabled dispatch continues only an operation whose findings are decided.** -/
theorem continued_decided (host : Host) (operation : AcceptedFixOperation)
    (enabled : host.policy.enabled = true) (continues : (dispatch host operation).Continues) :
    ∀ finding ∈ operation.findings, ∀ requirement,
      authorityRequirement finding.type = some requirement →
        Decided operation.authorityDecisions finding requirement := by
  intro finding member requirement needed
  obtain stops | ⟨prepared, result, evaluated, -⟩ := dispatch_cases enabled
  · exact absurd continues stops.2
  · exact prepare_decided (evaluate_eq_ok.mp evaluated).1 member needed

/-- A credential in `src/app.py`. -/
def secretFinding : Finding where
  id := "scan-1"
  type := "security.hardcoded_secret"
  file := "src/app.py"
  severity := "critical"
  evidence := .obj [("line", .int 1), ("rule", .str "credential-like literal")]

def secretDecision : Table Json :=
  AList.singleton "scan-1" (.obj [("finding_id", .str "scan-1"),
    ("decision_kind", .str "confirm_credential_disposition"), ("selected_value", .str "rotate")])

theorem continued_decided_secret :
    ∃ requirement, authorityRequirement secretFinding.type = some requirement ∧
      Decided (some secretDecision) secretFinding requirement := by
  refine ⟨_, rfl, ?_⟩
  exact continued_decided (sampleHost true emptyRepository)
    (sampleFix secretFinding (some secretDecision)) rfl
    (accepting_continues rfl (by decide +kernel)).1 secretFinding (List.mem_singleton.mpr rfl) _ rfl

/-- **A disabled policy continues a fix whose credential nobody decided on.** -/
theorem disabled_undecided :
    (dispatch (sampleHost false emptyRepository) (sampleFix secretFinding none)).Continues ∧
      ¬ ∀ finding ∈ (sampleFix secretFinding none).findings, ∀ requirement,
        authorityRequirement finding.type = some requirement →
          Decided (sampleFix secretFinding none).authorityDecisions finding requirement := by
  refine ⟨⟨_, _, rfl⟩, fun decided => ?_⟩
  obtain ⟨held, value, none, -⟩ := decided secretFinding (List.mem_singleton.mpr rfl) _ rfl
  cases none

end Audisor.Fix
