/-
**Whether a failing test that counts as fixed was run again.**

* `TestRun`, `testDetections` — what the scan reports of the test commands it ran. `ScannedWithTests` — the
  findings are those of such a scan, each with how it is reproduced.
* `scanned_grounding` — the scanner grounds every check of such a finding: no check runs a command.
* `NamedByValidation` — a validation of the contract names the command. `Rerun` — the journal has a run of the
  command that exited with 0.
* **`tests_rerun_iff`** — where completion is claimed, every failing test was run again exactly if the
  verification was not read from an earlier result and a validation names each of them.
-/

import Audisor.Fix.SatisfiableEntries

namespace Audisor.Fix

open Checked Interaction Json Text

/-! ### The tests of a scan -/

/-- A test command, and what its runner returned. -/
structure TestRun where
  command : List String
  code : Int
  stdout : String
  stderr : String

def regressionKind : String := "test.regression_failure"

def regressionFailure (file : String) (run : TestRun) : Detection where
  kind := regressionKind
  file := file
  severity := "high"
  evidence := [("command", textsJson run.command), ("exit_code", .int run.code), ("stdout", .str run.stdout),
    ("stderr", .str run.stderr), ("repro", .str "rerun the recorded validation command")]

/-- `_tests(root)`, on the commands with what their runner returned. -/
def testDetections : List TestRun → Except Failure (List Detection)
  | [] => .ok []
  | run :: rest =>
    if run.code = 0 then testDetections rest
    else
      match run.command with
      | [] => .error (pythonError "IndexError" "tuple index out of range")
      | file :: _ => do
        let others ← testDetections rest
        return regressionFailure file run :: others

/-- What another rule of the scanner reports: it is reproducible. -/
structure Detection.OfRule (detection : Detection) : Prop where
  kind : detection.kind ≠ regressionKind
  reproducible : ∃ repro, repro ≠ "" ∧ get? detection.evidence "repro" = some (.str repro)

/-- The findings are findings of a scan with a test runner. -/
def ScannedWithTests (sha : Aflow.Sha256) (findings : List Finding) : Prop :=
  ∃ others runs tests, (∀ detection ∈ others, detection.OfRule) ∧ testDetections runs = .ok tests ∧
    ∀ finding ∈ findings, finding ∈ reportOf sha (others ++ tests)

theorem testDetections_mem {runs : List TestRun} {tests : List Detection}
    (tested : testDetections runs = .ok tests) {detection : Detection} (member : detection ∈ tests) :
    ∃ run ∈ runs, ∃ file rest, run.command = file :: rest ∧ detection = regressionFailure file run := by
  induction runs generalizing tests with
  | nil =>
    cases tested
    cases member
  | cons run runs ih =>
    rw [testDetections] at tested
    split at tested
    · obtain ⟨other, among, found⟩ := ih tested member
      exact ⟨other, List.mem_cons_of_mem _ among, found⟩
    · split at tested
      · cases tested
      · rename_i file rest command
        obtain ⟨others, behind, same⟩ := bind_eq_ok.mp tested
        cases same
        rcases List.mem_cons.mp member with rfl | later
        · exact ⟨run, List.mem_cons_self, file, rest, command, rfl⟩
        · obtain ⟨other, among, found⟩ := ih behind later
          exact ⟨other, List.mem_cons_of_mem _ among, found⟩

section Findings

variable {sha : Aflow.Sha256} {findings : List Finding} {finding : Finding}

theorem reportOf_mem {detections : List Detection} (reported : finding ∈ reportOf sha detections) :
    ∃ detection ∈ detections, detection.finding sha = finding :=
  List.mem_map.mp (List.mem_mergeSort.mp reported)

theorem scannerCheckSource_of_scanned (scanned : ScannedWithTests sha findings)
    (member : finding ∈ findings) :
    ∃ source, scannerCheckSource finding = some source ∧ source.findingId = finding.id := by
  obtain ⟨others, runs, tests, rules, tested, reported⟩ := scanned
  obtain ⟨detection, among, rfl⟩ := reportOf_mem (reported finding member)
  obtain ⟨repro, written, stated⟩ : ∃ repro, repro ≠ "" ∧
      get? detection.evidence "repro" = some (.str repro) := by
    rcases List.mem_append.mp among with other | test
    · exact (rules detection other).reproducible
    · obtain ⟨run, -, file, rest, -, rfl⟩ := testDetections_mem tested test
      exact ⟨_, by decide, rfl⟩
  have evidence : getD (detection.finding sha).evidenceFields "repro" (.str "") = .str repro := by
    rw [getD]
    exact congrArg (fun found => found.getD (.str "")) stated
  refine ⟨{ findingId := (detection.finding sha).id, findingType := detection.kind, repro
            scopedPath := detection.file }, ?_, rfl⟩
  unfold scannerCheckSource
  rw [evidence]
  exact if_pos written

end Findings

/-! ### Named and run again -/

def ValidationSourceCatalog.commandOf (catalog : ValidationSourceCatalog) (validation : ValidationSpec) :
    Option (List String) :=
  if (parseAssertion validation.commandOrAssertion).isSome then none
  else (catalog.lookupCommandSource validation.commandOrAssertion).map CommandSource.tokens

/-- A validation names the command that the finding records. -/
def NamedByValidation (catalog : ValidationSourceCatalog) (success : SuccessDefinition) (finding : Finding) :
    Prop :=
  ∃ validation ∈ success.validations, ∃ tokens, catalog.commandOf validation = some tokens ∧
    get? finding.evidenceFields "command" = some (textsJson tokens)

/-- The command that the finding records was run, and exited with 0. -/
def Rerun (log : List (Event verifierSignature)) (finding : Finding) : Prop :=
  ∃ tokens cwd stdout stderr, get? finding.evidenceFields "command" = some (textsJson tokens) ∧
    ⟨.runCommand tokens cwd, CommandOutcome.completed 0 stdout stderr⟩ ∈ log

def Fresh (repr : PythonRepr) (script : Script verifierSignature) : Prop :=
  existingResult repr (script [] .loadResult : Option Json) = .ok none

theorem groundValidation_commandOf {repr : PythonRepr} {allowedPaths : List String}
    {catalog : ValidationSourceCatalog} {validation : ValidationSpec} {own : ValidationGrounding}
    (grounded : groundValidation repr allowedPaths catalog validation = .ok own) :
    own.authorizedTokens = catalog.commandOf validation := by
  unfold groundValidation at grounded
  dsimp only at grounded
  unfold ValidationSourceCatalog.commandOf
  split at grounded
  · rename_i parsed
    split_ifs at grounded
    cases grounded
    rw [parsed]
    rfl
  · rename_i unparsed
    rw [unparsed, if_neg (by decide)]
    split at grounded
    · rename_i found
      cases grounded
      rw [found]
      rfl
    · rename_i found
      cases grounded
      rw [found]
      rfl
    · cases grounded

/-! ### What a verification runs -/

section Runs

variable {repr : PythonRepr} {sha : Aflow.Sha256} {readers : Readers} {script : Script verifierSignature}
  {root : String} {log : List (Event verifierSignature)}

theorem ofExcept_resultOf {α : Type} {outcome : Except Failure α} {value : α}
    (returned : (Program.ofExcept outcome : VerifierProgram α).resultOf script log = .ok value) :
    outcome = .ok value := by
  cases outcome with
  | ok other => exact returned
  | error failure => cases returned

def RanWell (tokens : List String) (log : List (Event verifierSignature)) : Prop :=
  ∃ cwd stdout stderr, ⟨.runCommand tokens cwd, CommandOutcome.completed 0 stdout stderr⟩ ∈ log

theorem command_ran (tokens : List String) (expected : String) :
    (executeAuthorizedCommand repr tokens root expected).Leaves
      (fun later result => result.passed = true → RanWell tokens later) log := by
  unfold executeAuthorizedCommand
  split
  · exact fun passed => absurd passed Bool.false_ne_true
  · split
    · exact fun passed => absurd passed Bool.false_ne_true
    · intro cwd isDir
      cases isDir with
      | false => exact fun passed => absurd passed Bool.false_ne_true
      | true =>
        intro outcome
        cases outcome with
        | timeout stdout stderr => exact fun passed => absurd passed Bool.false_ne_true
        | refused message => exact fun passed => absurd passed Bool.false_ne_true
        | raised failure => trivial
        | completed code stdout stderr =>
          change (Program.ofExcept (commandResult repr expected (.completed code stdout stderr)) :
            VerifierProgram CommandResult).Leaves _ _
          unfold commandResult
          dsimp only
          split
          · split
            · rename_i exits
              subst exits
              exact fun _ => ⟨cwd, stdout, stderr, List.mem_cons_self⟩
            · exact fun passed => absurd passed Bool.false_ne_true
          · exact fun passed => absurd passed Bool.false_ne_true

theorem validation_ran {tokens : List String} {records : List Json} {validation grounding : Dict}
    (found : groundingOf "validation_id" records (textField repr validation "id") = some grounding)
    (command : textField repr grounding "source_type" ≠ "deterministic_assertion")
    (given : authorizedTokens repr grounding = tokens) :
    (evaluateValidation repr readers root records validation).Leaves
      (fun later result => result.passed = true → RanWell tokens later) log := by
  unfold evaluateValidation
  dsimp only
  rw [found]
  refine Program.Leaves.bind ?_
  unfold validationVerdict
  dsimp only
  rw [if_neg command, given]
  split
  · split
    · exact fun passed => absurd passed Bool.false_ne_true
    · exact command_ran tokens _
  · exact fun passed => absurd passed Bool.false_ne_true

theorem validations_met {verification : Verification} {value : FixVerificationResult}
    (fresh : Fresh repr script)
    (returned : (verify repr sha readers verification).resultOf script [] = .ok value)
    (claimed : value.completionClaimed = true) :
    ∃ older results, (evaluateValidations repr readers verification.repositoryRoot verification.contract
        verification.grounding).resultOf script older = .ok results ∧
      results.all ValidationResult.passed = true ∧
      (evaluateValidations repr readers verification.repositoryRoot verification.contract
        verification.grounding).journalOf script older <:+
          (verify repr sha readers verification).journalOf script [] := by
  unfold verify at returned ⊢
  obtain ⟨document, loaded, returned, whole⟩ := bind_visit returned
  cases loaded
  obtain ⟨existing, absent, returned, whole'⟩ := bind_visit returned
  rw [whole, whole']
  cases (Except.ok.inj (fresh.symm.trans (ofExcept_resultOf absent)) : none = existing)
  dsimp only at returned ⊢
  split at returned
  · rename_i exits
    rw [if_pos exits]
    obtain ⟨config, -, returned, whole⟩ := bind_visit returned
    obtain ⟨report, -, returned, whole'⟩ := bind_visit returned
    rw [whole, whole']
    obtain ⟨checks, -, returned, whole⟩ := bind_visit returned
    obtain ⟨results, validated, returned, whole'⟩ := bind_visit returned
    rw [verifyReport, whole, whole']
    refine ⟨_, results, validated, ?_, suffix_journalOf script _ _⟩
    split at returned
    · cases persisted_eq_ok returned
      exact (Bool.and_eq_true_iff.mp claimed).2
    · cases persisted_eq_ok returned
      cases claimed
  · cases persisted_eq_ok returned
    cases claimed

theorem fresh_of_ran {verification : Verification} {value : FixVerificationResult} {tokens : List String}
    (returned : (verify repr sha readers verification).resultOf script [] = .ok value)
    (ran : RanWell tokens ((verify repr sha readers verification).journalOf script [])) :
    Fresh repr script := by
  unfold verify at returned ran
  obtain ⟨document, loaded, returned, whole⟩ := bind_visit returned
  cases loaded
  obtain ⟨existing, read, returned, whole'⟩ := bind_visit returned
  cases existing with
  | none => exact ofExcept_resultOf read
  | some earlier =>
    rw [whole, whole'] at ran
    obtain ⟨cwd, stdout, stderr, member⟩ := ran
    have only : (Program.ofExcept (existingResult repr (script [] .loadResult : Option Json)) :
        VerifierProgram (Option FixVerificationResult)).journalOf script
          [⟨.loadResult, script [] .loadResult⟩] = [⟨.loadResult, script [] .loadResult⟩] := by
      cases existingResult repr (script [] .loadResult : Option Json) <;> rfl
    change _ ∈ (Program.ofExcept (existingResult repr (script [] .loadResult : Option Json)) :
        VerifierProgram (Option FixVerificationResult)).journalOf script
          [⟨.loadResult, script [] .loadResult⟩] at member
    rw [only, List.mem_singleton] at member
    cases member

end Runs

/-! ### The groundings of a scan -/

section Groundings

variable {repr : PythonRepr} {sha : Aflow.Sha256} {reply : WorkerReply} {operation : AcceptedFixOperation}
  {commands : List (List String)} {result : FixIgnitionResult}

/-- **The scanner grounds every check of a scanned finding**: no check has a command. -/
theorem scanned_grounding
    (accepted : invokeLocalFix repr reply operation.plan operation.findings operation.manifest commands =
      .ok result)
    (scanned : ScannedWithTests sha operation.findings) {own : FindingCheckGrounding}
    (member : own ∈ result.verificationGrounding.findingChecks) : own.authorizedTokens = none := by
  obtain ⟨check, among, grounded⟩ := exists_mem_of_forall₂ (invokeLocalFix_grounded accepted).1 member
  have known := ((invokeLocalFix_sound accepted).1.checks check among).known
  obtain ⟨finding, held, same⟩ := List.mem_map.mp known
  obtain ⟨source, records, about⟩ := scannerCheckSource_of_scanned scanned held
  have sourced := groundFindingCheck_source grounded
  obtain ⟨first, searched⟩ : ∃ first, (buildValidationSourceCatalog operation.findings operation.plan
      commands).scannerChecks.find? (fun source => source.findingId = check.findingId) = some first := by
    rw [← Option.isSome_iff_exists, List.find?_isSome]
    exact ⟨source, List.mem_filterMap.mpr ⟨finding, held, records⟩,
      decide_eq_true (about.trans same)⟩
  unfold sourceFor at sourced
  rw [searched] at sourced
  exact (congrArg GroundingSource.authorizedTokens (Option.some.inj sourced)).symm

theorem objectsOf_validationGroundings (groundings : List ValidationGrounding) :
    objectsOf (groundings.map ValidationGrounding.toMapping) =
      groundings.map ValidationGrounding.fields := by
  induction groundings with
  | nil => rfl
  | cons grounding rest ih =>
    rw [List.map_cons, List.map_cons, ← ih]
    rfl

theorem objectsOf_validations (validations : List ValidationSpec) :
    objectsOf (validations.map ValidationSpec.plain) = validations.map ValidationSpec.fields := by
  induction validations with
  | nil => rfl
  | cons validation rest ih =>
    rw [List.map_cons, List.map_cons, ← ih]
    rfl

theorem groundingOf_validation {groundings : List ValidationGrounding} {own : ValidationGrounding}
    (distinct : (groundings.map ValidationGrounding.validationId).Nodup) (member : own ∈ groundings) :
    groundingOf "validation_id" (groundings.map ValidationGrounding.toMapping) own.validationId =
      some own.fields := by
  rw [groundingOf, objectsOf_validationGroundings, ← List.map_reverse, List.find?_map]
  have stated (grounding : ValidationGrounding) :
      get? grounding.fields "validation_id" = some (.str grounding.validationId) := rfl
  obtain ⟨found, searched⟩ : ∃ found, groundings.reverse.find?
      ((fun fields => decide (get? fields "validation_id" = some (.str own.validationId))) ∘
        ValidationGrounding.fields) = some found := by
    rw [← Option.isSome_iff_exists, List.find?_isSome]
    exact ⟨own, List.mem_reverse.mpr member, decide_eq_true (stated own)⟩
  have same : found.validationId = own.validationId := by
    simpa [stated] using List.find?_some searched
  have own' : found = own := List.inj_on_of_nodup_map distinct
    (List.mem_reverse.mp (List.mem_of_find?_eq_some searched)) member same
  rw [searched, own']
  rfl

theorem validationIds_of_grounded {allowedPaths : List String} {catalog : ValidationSourceCatalog}
    {validations : List ValidationSpec} {groundings : List ValidationGrounding}
    (pairs : List.Forall₂ (fun validation own => groundValidation repr allowedPaths catalog validation =
      .ok own) validations groundings) :
    groundings.map ValidationGrounding.validationId = validations.map ValidationSpec.id := by
  induction pairs with
  | nil => rfl
  | cons here _ ih => rw [List.map_cons, List.map_cons, (groundValidation_typed here).2, ih]

/-- **Where completion is claimed, every failing test was run again exactly if no earlier result was read
and a validation names each of them.** -/
theorem tests_rerun_iff
    (accepted : invokeLocalFix repr reply operation.plan operation.findings operation.manifest commands =
      .ok result)
    (scanned : ScannedWithTests sha operation.findings) {verification : Verification}
    (handed : verification.OfHandoff (acceptedHandoff sha operation result)) (readers : Readers)
    {script : Script verifierSignature} {value : FixVerificationResult}
    (returned : (verify repr sha readers verification).resultOf script [] = .ok value)
    (claimed : value.completionClaimed = true) :
    (∀ finding ∈ operation.findings, finding.type = regressionKind →
        Rerun ((verify repr sha readers verification).journalOf script []) finding) ↔
      ∀ finding ∈ operation.findings, finding.type = regressionKind →
        Fresh repr script ∧ NamedByValidation
          (buildValidationSourceCatalog operation.findings operation.plan commands)
          result.successDefinition finding := by
  obtain ⟨-, specsOf, checksOf, validationsOf⟩ := entries_ofHandoff handed
  have pairs := (invokeLocalFix_grounded accepted).2
  refine forall_congr' fun finding => forall_congr' fun member => forall_congr' fun kind => ?_
  constructor
  · rintro ⟨tokens, cwd, stdout, stderr, command, ran⟩
    refine ⟨fresh_of_ran returned ⟨cwd, stdout, stderr, ran⟩, ?_⟩
    have asks : (verify repr sha readers verification).Asks (RunsOnly fun tokens =>
        ∃ validation ∈ result.successDefinition.validations,
          (buildValidationSourceCatalog operation.findings operation.plan commands).commandOf validation =
            some tokens) := by
      apply verify_asks
      · intro fields listed
        rw [checksOf, objectsOf_groundings] at listed
        obtain ⟨own, among, rfl⟩ := List.mem_map.mp listed
        have none : authorizedTokens repr own.fields = own.authorizedTokens.getD [] :=
          authorizedTokens_tokensJson rfl
        rw [scanned_grounding accepted scanned among] at none
        exact fun some => absurd none some
      · intro fields listed
        rw [validationsOf, objectsOf_validationGroundings] at listed
        obtain ⟨own, among, rfl⟩ := List.mem_map.mp listed
        obtain ⟨validation, stated, grounded⟩ := exists_mem_of_forall₂ pairs among
        have given : authorizedTokens repr own.fields = own.authorizedTokens.getD [] :=
          authorizedTokens_tokensJson rfl
        intro some
        refine ⟨validation, stated, ?_⟩
        rw [← groundValidation_commandOf grounded, given]
        cases held : own.authorizedTokens with
        | none =>
          rw [given, held] at some
          exact absurd rfl some
        | some words => rfl
    have run := @exec_journalOf _ _ _ script (fun _ _ _ => True) (fun _ _ => trivial)
      (verify repr sha readers verification) []
    obtain ⟨new, split, allowed⟩ := run.asked asks
    rw [split, List.append_nil] at ran
    obtain ⟨validation, stated, names⟩ := allowed _ ran
    exact ⟨validation, stated, tokens, names, command⟩
  · rintro ⟨fresh, validation, stated, tokens, names, command⟩
    obtain ⟨older, results, validated, passed, kept⟩ := validations_met fresh returned claimed
    obtain ⟨index, within, rfl⟩ := List.getElem_of_mem stated
    have within' : index < result.verificationGrounding.validations.length := pairs.length_eq ▸ within
    have grounded := (List.forall₂_iff_get.mp pairs).2 index within within'
    simp only [List.get_eq_getElem] at grounded
    generalize owned : result.verificationGrounding.validations[index] = own at grounded
    generalize result.successDefinition.validations[index] = validation at grounded names stated
    obtain ⟨typed, named⟩ := groundValidation_typed grounded
    have tokensOf : own.authorizedTokens = some tokens :=
      (groundValidation_commandOf grounded).trans names
    have listed : own ∈ result.verificationGrounding.validations := owned ▸ List.getElem_mem within'
    have distinct : (result.verificationGrounding.validations.map ValidationGrounding.validationId).Nodup := by
      rw [validationIds_of_grounded pairs]
      exact (invokeLocalFix_sound accepted).1.distinct
    have found := groundingOf_validation distinct listed
    have command' : textField repr own.fields "source_type" ≠ "deterministic_assertion" := by
      have kind : textField repr own.fields "source_type" = own.sourceType.value := rfl
      unfold ValidationGrounding.Typed at typed
      rw [kind]
      cases source : own.sourceType <;> rw [source] at typed
      case deterministicAssertion =>
        dsimp only at typed
        rw [tokensOf] at typed
        cases typed
      all_goals decide
    have given : authorizedTokens repr own.fields = own.authorizedTokens.getD [] :=
      authorizedTokens_tokensJson rfl
    rw [tokensOf, Option.getD_some] at given
    rw [named, ← validationsOf] at found
    have among : validation.fields ∈ objectsOf (entriesOf verification.contract "validations") := by
      rw [specsOf, objectsOf_validations]
      exact List.mem_map_of_mem stated
    obtain ⟨before, visited, returned', member', inside⟩ := mapM_visit validated among
    have met : visited.passed = true := List.all_eq_true.mp passed visited member'
    obtain ⟨cwd, stdout, stderr, event⟩ :=
      (validation_ran found command' given).of_result returned' met
    exact ⟨tokens, cwd, stdout, stderr, command, (inside.trans kept).subset event⟩

end Groundings

/-! ### A test that is not run again -/

def failingTest : TestRun where
  command := ["tests/run.py", "-q"]
  code := 1
  stdout := ""
  stderr := ""

def testFinding : Finding where
  id := "scan-1347bcbffd61610d"
  type := regressionKind
  file := "tests/run.py"
  severity := "high"
  evidence := .obj (regressionFailure "tests/run.py" failingTest).evidence

theorem testFinding_id :
    ((regressionFailure "tests/run.py" failingTest).finding Aflow.sha256).id = "scan-1347bcbffd61610d" := by
  decide +kernel

def testFix : AcceptedFixOperation where
  operationId := "fix-1"
  findings := [testFinding]
  manifest := {
    files := ["tests/run.py"]
    dependencyClosure := ["tests/run.py"]
    inputHash := "input"
    fileHashes := ∅
    dependencyEvidence := ∅ }
  statements := (sampleFix testFinding none).statements
  plan := (sampleFix testFinding none).plan
  workspaceIdentity := [("root", .str "/repo")]
  authorityContext := []
  aflowAnalysisRequest := none
  authorityDecisions := none
  aflowAnalysisRequestPresent := false

theorem testFix_scanned : ScannedWithTests Aflow.sha256 testFix.findings := by
  have reported : (regressionFailure "tests/run.py" failingTest).finding Aflow.sha256 = testFinding := by
    rw [testFinding, ← testFinding_id]
    rfl
  refine ⟨[], [failingTest], [regressionFailure "tests/run.py" failingTest], by simp, rfl, ?_⟩
  intro finding member
  rw [List.nil_append, reportOf, List.map_singleton, List.mergeSort_singleton, reported]
  exact member

/-- A response that rescans for the finding, with some validations. -/
def rescanFields (validations : List Json) : Dict :=
  [("status", .str "accepted"),
    ("plan", .obj [("steps", .arr [.obj [("id", .str "step-1"), ("action", .str "edit"),
      ("target_file", .str "tests/run.py"),
      ("originating_finding_id", .str "scan-1347bcbffd61610d")]])]),
    ("gap_corrections_applied", .int 0),
    ("success_definition", .obj [
      ("finding_checks", .arr [.obj [("finding_id", .str "scan-1347bcbffd61610d"),
        ("resolution_method", .str "rescan"), ("check", .str "scanner_clear::scan-1347bcbffd61610d"),
        ("expected_result", .str "absent")]]),
      ("validations", .arr validations), ("must_not_regress", .arr []),
      ("success_rule", .str requiredSuccessRule)])]

def rescanVerification (result : FixIgnitionResult) : Verification :=
  verificationOf result [("repository_root", .str "/repo")] [("exit_code", .int 0)] []

/-- The run of the verification in a repository without findings, in which every command succeeds. -/
def rescanRun (result : FixIgnitionResult) : VerifierProgram FixVerificationResult :=
  verify plainRepr Aflow.sha256 ⟨fun _ => none, fun _ => ""⟩ (rescanVerification result)

def claimsCompletion (result : FixIgnitionResult) : Bool :=
  ((rescanRun result).resultOf calmScript []).toOption.any FixVerificationResult.completionClaimed

def recordedValidation : ValidationSpec :=
  ⟨"tests", "recorded-test-scan-1347bcbffd61610d-001", "exit code 0"⟩

theorem rescanFields_claims :
    (readResponse plainRepr (rescanFields []) testFix.plan testFix.findings testFix.manifest
      []).toOption.any (fun result => claimsCompletion result &&
        ((rescanRun result).journalOf calmScript []).all fun event => (commandOf? event).isNone) = true := by
  decide +kernel

theorem recorded_claims :
    (readResponse plainRepr (rescanFields [recordedValidation.plain]) testFix.plan testFix.findings
      testFix.manifest []).toOption.any (fun result => claimsCompletion result &&
        decide (result.successDefinition.validations = [recordedValidation])) = true := by
  decide +kernel

theorem value_of_claims {result : FixIgnitionResult} (claims : claimsCompletion result = true) :
    ∃ value, (rescanRun result).resultOf calmScript [] = .ok value ∧ value.completionClaimed = true := by
  unfold claimsCompletion at claims
  cases returned : (rescanRun result).resultOf calmScript [] with
  | error failure => rw [returned] at claims; cases claims
  | ok value =>
    rw [returned] at claims
    exact ⟨value, rfl, claims⟩

/-- **A failing test counts as fixed though nothing was run**: the scan after the fix runs no tests. -/
theorem unrun_test_completed :
    ∃ result value, invokeLocalFix plainRepr (.answered (some (dumps (.obj (rescanFields [])))))
          testFix.plan testFix.findings testFix.manifest [] = .ok result ∧
        ScannedWithTests Aflow.sha256 testFix.findings ∧
        (rescanVerification result).OfHandoff (acceptedHandoff Aflow.sha256 testFix result) ∧
        (rescanRun result).resultOf calmScript [] = .ok value ∧ value.completionClaimed = true ∧
        ¬ ∀ finding ∈ testFix.findings, finding.type = regressionKind →
          Rerun ((rescanRun result).journalOf calmScript []) finding := by
  have claims := rescanFields_claims
  cases read : readResponse plainRepr (rescanFields []) testFix.plan testFix.findings testFix.manifest [] with
  | error failure => rw [read] at claims; cases claims
  | ok result =>
    rw [read] at claims
    obtain ⟨claimed, quiet⟩ := Bool.and_eq_true_iff.mp claims
    obtain ⟨value, returned, claimed⟩ := value_of_claims claimed
    have accepted : invokeLocalFix plainRepr (.answered (some (dumps (.obj (rescanFields []))))) _ _ _ _ =
        .ok result := bind_eq_ok.mpr ⟨_, oneJsonObject_dumps {} (rescanFields []), read⟩
    refine ⟨result, value, accepted, testFix_scanned, verificationOf_ofHandoff _ _ _ _ _ _, returned,
      claimed, fun rerun => ?_⟩
    obtain ⟨tokens, cwd, stdout, stderr, -, ran⟩ := rerun testFinding List.mem_cons_self rfl
    have none := List.all_eq_true.mp quiet _ ran
    cases none

/-- A test that a validation names is run again. -/
theorem tests_rerun_recorded :
    ∃ result value, invokeLocalFix plainRepr
          (.answered (some (dumps (.obj (rescanFields [recordedValidation.plain])))))
          testFix.plan testFix.findings testFix.manifest [] = .ok result ∧
        (rescanRun result).resultOf calmScript [] = .ok value ∧ value.completionClaimed = true ∧
        ∀ finding ∈ testFix.findings, finding.type = regressionKind →
          Rerun ((rescanRun result).journalOf calmScript []) finding := by
  have claims := recorded_claims
  cases read : readResponse plainRepr (rescanFields [recordedValidation.plain]) testFix.plan
      testFix.findings testFix.manifest [] with
  | error failure => rw [read] at claims; cases claims
  | ok result =>
    rw [read] at claims
    obtain ⟨claimed, stated⟩ := Bool.and_eq_true_iff.mp claims
    obtain ⟨value, returned, claimed⟩ := value_of_claims claimed
    have accepted : invokeLocalFix plainRepr
        (.answered (some (dumps (.obj (rescanFields [recordedValidation.plain]))))) testFix.plan
          testFix.findings testFix.manifest [] = .ok result :=
      bind_eq_ok.mpr ⟨_, oneJsonObject_dumps {} (rescanFields [recordedValidation.plain]), read⟩
    refine ⟨result, value, accepted, returned, claimed,
      (tests_rerun_iff accepted testFix_scanned
        (verificationOf_ofHandoff Aflow.sha256 testFix result _ _ _) _ returned claimed).mpr ?_⟩
    intro finding member _
    obtain rfl := List.mem_singleton.mp member
    refine ⟨rfl, recordedValidation, ?_, ["tests/run.py", "-q"], by decide +kernel, rfl⟩
    rw [of_decide_eq_true stated]
    exact List.mem_cons_self

end Audisor.Fix
