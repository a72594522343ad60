/-
**When the dependency gate does what it is for.**

* `Finding.namedModule`, `Repository.resolves` — the module that a finding of an unresolved dependency
  names, and whether the repository holds it, seen from the finding's own file.
* `Guarded` — an unresolved module stops the dispatch, and the gate blocks nothing when all resolve.
* `Reaches`, `enoughCredited` — the operation gets to the gate; enough of its findings are credited.
* **`guarded_iff`** — the gate guards exactly when, on reaching it, credit and resolution agree.
* `unresolved_continued` — one import of another local file credits a module that does not exist.
-/

import Audisor.Fix.Credits
import Audisor.Fix.Stages

namespace Audisor.Fix

open Json Text

/-! ### The named modules -/

/-- `evidence.module` of a finding of an unresolved dependency. -/
def Finding.namedModule (finding : Finding) : Option String :=
  if finding.type = unresolvedType then
    match get? finding.evidenceFields "module" with
    | some (.str module) => some module
    | _ => none
  else none

def leadingDots (module : String) : Nat := (module.toList.takeWhile fun c => c = '.').length

/-- Some candidate of the module, from the finding's own file, is a file of the repository. -/
def Repository.resolves (repository : Repository) (finding : Finding) (module : String) : Bool :=
  (moduleCandidates (repository.source finding.relative) module (leadingDots module)).any
    repository.holds

def operationRepository (host : Host) (operation : AcceptedFixOperation) : Repository :=
  match getD operation.workspaceIdentity "root" (.str host.workingDirectory) with
  | .str root => host.repositoryAt root
  | _ => host.repositoryAt host.workingDirectory

def AllResolve (host : Host) (operation : AcceptedFixOperation) : Prop :=
  ∀ finding ∈ operation.findings, ∀ module, finding.namedModule = some module →
    (operationRepository host operation).resolves finding module = true

/-- **What the gate is for**: a module that does not resolve stops the dispatch, and when all resolve
the operation is not blocked for its dependencies. -/
def Guarded (host : Host) (operation : AcceptedFixOperation) : Prop :=
  (¬ AllResolve host operation → (dispatch host operation).Stops) ∧
    (AllResolve host operation → ¬ (dispatch host operation).StatesCompleteness .correctable)

/-! ### What the gate reads -/

/-- The findings that the gate counts: those that share the id of an unresolved dependency. -/
def gateFindings (findings : List Finding) : List Finding :=
  findings.filter fun finding =>
    findings.any fun other => other.type = unresolvedType ∧ other.id = finding.id

def enoughCredited (host : Host) (operation : AcceptedFixOperation) : Bool :=
  reachesThreshold
    ((gateFindings operation.findings).countP (credited (operationRepository host operation) operation))
    (gateFindings operation.findings).length

/-- The operation passes the stages in front of the gate, the igniter answers with a qualified plan,
and no finding tells of a conflict of dependencies. -/
structure Reaches (host : Host) (operation : AcceptedFixOperation) (prepared : Prepared)
    (result : IgnitionResult) : Prop where
  ready : prepare host operation = .ok prepared
  answered : ignition host prepared.operation prepared.context = .ok result
  qualified : (result.plan prepared.operation).isQualified = true
  intact : ∀ finding ∈ operation.findings, finding.type ∉ integrityTypes

variable {host : Host} {operation : AcceptedFixOperation} {prepared : Prepared}
  {result : IgnitionResult}

theorem resolutionResult_findingId (repr : PythonRepr) (evidence : Table (List Dict))
    (finding : Finding) : (resolutionResult repr evidence finding).findingId = finding.id := by
  unfold resolutionResult
  split
  · rfl
  · dsimp only
    split <;> rfl

theorem prepared_results (ready : prepare host operation = .ok prepared) :
    prepared.operation.findings = operation.findings ∧
      prepared.results = operation.findings.map (resolutionResult host.repr
        (enrichedManifest (operationRepository host operation) operation).dependencyEvidence) := by
  obtain ⟨-, -, -, root, stated, package, -, -, -, rfl⟩ := prepare_eq_ok.mp ready
  rw [operationRepository, stated]
  exact ⟨rfl, rfl⟩

/-- **The gate counts the credited findings.** -/
theorem gate_count (ready : prepare host operation = .ok prepared) :
    reachesThreshold
        ((dependencyResults operation.findings prepared.results).countP fun result => result.resolved)
        (dependencyResults operation.findings prepared.results).length =
      enoughCredited host operation := by
  have counted : dependencyResults operation.findings prepared.results =
      (gateFindings operation.findings).map (resolutionResult host.repr
        (enrichedManifest (operationRepository host operation) operation).dependencyEvidence) := by
    rw [(prepared_results ready).2, dependencyResults, List.filter_map, gateFindings]
    congr 1
    refine List.filter_congr fun finding _ => ?_
    simp only [Function.comp_apply, resolutionResult_findingId]
  rw [counted, List.countP_map, List.length_map, enoughCredited]
  congr 1
  refine List.countP_congr fun finding _ => ?_
  rw [Function.comp_apply, resolutionResult_resolved]

/-- **The status of the gate**, once the operation gets to it. -/
theorem gate_status (ready : prepare host operation = .ok prepared) :
    (evaluateFixCompleteness (result.plan prepared.operation) prepared.operation.findings
        prepared.results).status =
      if (result.plan prepared.operation).isQualified = true ∧
          ∀ finding ∈ operation.findings, finding.type ∉ integrityTypes then
        if enoughCredited host operation then .pass else .correctable
      else .uncorrectable := by
  rw [evaluateFixCompleteness_status, (prepared_results ready).1, gate_count ready]

theorem evaluate_iff :
    evaluate host operation = .ok (prepared, result) ↔
      Reaches host operation prepared result ∧ enoughCredited host operation = true := by
  rw [evaluate_eq_ok]
  constructor
  · rintro ⟨ready, answered, pass⟩
    rw [gate_status ready] at pass
    split_ifs at pass with reached enough
    exact ⟨⟨ready, answered, reached.1, reached.2⟩, enough⟩
  · rintro ⟨reached, enough⟩
    refine ⟨reached.ready, reached.answered, ?_⟩
    rw [gate_status reached.ready, if_pos ⟨reached.qualified, reached.intact⟩, if_pos enough]

/-! ### When the dispatch is blocked -/

theorem conclude_unstated {context : AudisorOperationContext} {status : CompletenessStatus} :
    ¬ (conclude host operation context result).StatesCompleteness status := by
  rintro ⟨record, held, stated⟩
  have made : ∀ {eligible artifact}, resultArtifact host context result = .ok (eligible, artifact) →
      get? artifact "completeness_status" = none := fun {eligible artifact} built => by
    obtain ⟨known, -, rest⟩ := Checked.bind_eq_ok.mp built
    obtain ⟨artifact, built, rest⟩ := Checked.bind_eq_ok.mp rest
    cases rest
    exact artifact_unstated built
  unfold conclude at held
  split at held
  · cases held
  · rename_i artifact built
    cases held
    rw [get?_set_of_ne _ _ (by decide), made built] at stated
    cases stated
  · rename_i artifact built
    cases held
    rw [made built] at stated
    cases stated

/-- **The dispatch is blocked for its dependencies** when it reaches the gate with too little credit. -/
theorem blocked_iff (enabled : host.policy.enabled = true) :
    (dispatch host operation).StatesCompleteness .correctable ↔
      (∃ prepared result, Reaches host operation prepared result) ∧
        enoughCredited host operation = false := by
  cases evaluated : evaluate host operation with
  | ok passed =>
    obtain ⟨prepared, result⟩ := passed
    rw [dispatch_of_evaluate evaluated]
    refine iff_of_false conclude_unstated ?_
    rintro ⟨_, short⟩
    rw [(evaluate_iff.mp evaluated).2] at short
    cases short
  | error left =>
    have exits : dispatch host operation = left := by rw [dispatch, evaluated]
    rw [exits]
    obtain early | ⟨prepared, ready, early | ⟨result, answered, gate⟩⟩ :=
      evaluate_eq_error.mp evaluated
    · refine iff_of_false ((prepare_raises enabled left early).2 _) ?_
      rintro ⟨⟨_, _, reached⟩, -⟩
      cases early.symm.trans reached.ready
    · refine iff_of_false ((evaluateModel_raises left early).2 _) ?_
      rintro ⟨⟨other, result, reached⟩, -⟩
      have same := ready.symm.trans reached.ready
      cases same
      cases early.symm.trans (evaluateModel_eq_ok.mpr reached.answered)
    · rw [(checkCompleteness_raises left gate).2, gate_status ready]
      constructor
      · intro status
        split_ifs at status with whole enough
        exact ⟨⟨prepared, result, ready, answered, whole.1, whole.2⟩, Bool.eq_false_iff.mpr enough⟩
      · rintro ⟨⟨other, answer, reached⟩, short⟩
        have same := ready.symm.trans reached.ready
        cases same
        have answers := answered.symm.trans reached.answered
        cases answers
        rw [if_pos ⟨reached.qualified, reached.intact⟩, short]
        rfl

/-- **The gate guards exactly when credit and resolution agree on reaching it.** -/
theorem guarded_iff (host : Host) (operation : AcceptedFixOperation)
    (enabled : host.policy.enabled = true) :
    Guarded host operation ↔
      ∀ prepared result, Reaches host operation prepared result →
        (AllResolve host operation → enoughCredited host operation = true) ∧
          (enoughCredited host operation = true → result.Eligible → AllResolve host operation) := by
  constructor
  · rintro ⟨unresolved, resolved⟩ prepared result reached
    refine ⟨fun all => ?_, fun enough eligible => ?_⟩
    · by_contra short
      exact resolved all ((blocked_iff enabled).mpr
        ⟨⟨prepared, result, reached⟩, Bool.eq_false_iff.mpr short⟩)
    · by_contra missing
      have stops := unresolved missing
      rw [dispatch_of_evaluate (evaluate_iff.mpr ⟨reached, enough⟩)] at stops
      exact stops.2 (conclude_eligible eligible).1
  · intro agree
    refine ⟨fun missing => ?_, fun all blocked => ?_⟩
    · obtain stops | ⟨prepared, result, evaluated, concluded⟩ := dispatch_cases enabled
      · exact stops
      · obtain ⟨reached, enough⟩ := evaluate_iff.mp evaluated
        rw [concluded]
        exact conclude_stops fun eligible =>
          missing ((agree prepared result reached).2 enough eligible)
    · obtain ⟨⟨prepared, result, reached⟩, short⟩ := (blocked_iff enabled).mp blocked
      rw [(agree prepared result reached).1 all] at short
      cases short

/-! ### A module that does not exist -/

/-- `src/app.py` imports `helper`, which is there, and `absent`, which is not. -/
def helperRepository : Repository where
  base := ["repo"]
  resolve path := path
  isFile path := [["repo", "src", "app.py"], ["repo", "src", "helper.py"]].contains path
  statements path :=
    if path = ["repo", "src", "app.py"] then
      some [.plain ["absent"] 1, .plain ["helper"] 2]
    else some []

def absentFinding : Finding where
  id := "scan-1"
  type := "dependency.unresolved"
  file := "src/app.py"
  severity := "high"
  evidence := .obj [("module", .str "absent"), ("resolver_state", .str "missing"), ("line", .int 1)]

theorem guarded_iff_absent :
    Guarded (sampleHost true helperRepository) (sampleFix absentFinding none) ↔
      ∀ prepared result,
        Reaches (sampleHost true helperRepository) (sampleFix absentFinding none) prepared result →
          (AllResolve (sampleHost true helperRepository) (sampleFix absentFinding none) →
            enoughCredited (sampleHost true helperRepository) (sampleFix absentFinding none) = true) ∧
          (enoughCredited (sampleHost true helperRepository) (sampleFix absentFinding none) = true →
            result.Eligible →
              AllResolve (sampleHost true helperRepository) (sampleFix absentFinding none)) :=
  guarded_iff (sampleHost true helperRepository) (sampleFix absentFinding none) rfl

/-- **The import of another local file credits a module that does not exist**: the handoff is persisted
and the implementation continued. -/
theorem unresolved_continued :
    (sampleHost true helperRepository).policy.enabled = true ∧
      ¬ AllResolve (sampleHost true helperRepository) (sampleFix absentFinding none) ∧
      (dispatch (sampleHost true helperRepository) (sampleFix absentFinding none)).Continues ∧
      (dispatch (sampleHost true helperRepository) (sampleFix absentFinding none)).handoff.isSome =
        true := by
  refine ⟨rfl, fun all => ?_, accepting_continues rfl (by decide +kernel)⟩
  exact nomatch all absentFinding (List.mem_singleton.mpr rfl) "absent" rfl

end Audisor.Fix
