/-
**Which commands the verifier runs.**

* `CommandSource.tokens`, `IsAuthorized` — the tokens of a configured test command, or those of the
  command in the evidence of a finding.
* `lookupCommandSource_authorized`, `invokeLocalFix_tokens` — the tokens of an accepted grounding come
  from the catalog.
* `verify_asks` — the verifier runs no tokens but those of the grounding records.
* **`commands_authorized`** — whatever the model answered, every command run on the handoff persisted from
  it is authorized.
-/

import Audisor.Fix.HandoffAgreement
import Audisor.Fix.Stages
import Audisor.Fix.Verification
import Audisor.Interaction.Scripted

namespace Audisor.Fix

open Checked Interaction Json Text

/-! ### Authorized tokens -/

/-- The tokens of a configured test command, or of the command that a finding records. -/
def IsAuthorized (findings : List Finding) (commands : List (List String)) (tokens : List String) :
    Prop :=
  tokens ∈ commands ∨
    ∃ finding ∈ findings, get? finding.evidenceFields "command" = some (textsJson tokens)

theorem textsOf?_eq_some {items : List Json} {texts : List String} (read : textsOf? items = some texts) :
    items = texts.map .str := by
  induction items generalizing texts with
  | nil =>
    cases read
    rfl
  | cons item rest ih =>
    cases item with
    | str text =>
      obtain ⟨others, rest, rfl⟩ := Option.map_eq_some_iff.mp read
      rw [ih rest, List.map_cons]
    | _ => cases read

section Sources

variable {findings : List Finding} {plan : ImplementationPlan} {commands : List (List String)}
  {sourceId : String}

theorem configuredTest_authorized {source : ConfiguredTestSource}
    (listed : source ∈ configuredTestSources commands) :
    IsAuthorized findings commands source.tokens := by
  obtain ⟨index, bound, rfl⟩ := List.mem_mapIdx.mp listed
  exact .inl (List.getElem_mem bound)

theorem recordedTest_authorized {source : RecordedTestSource}
    (listed : source ∈ findings.filterMap recordedTestSource) :
    IsAuthorized findings commands source.tokens := by
  obtain ⟨finding, member, records⟩ := List.mem_filterMap.mp listed
  refine .inr ⟨finding, member, ?_⟩
  unfold recordedTestSource at records
  split at records
  · rename_i command stated
    obtain ⟨tokens, read, rfl⟩ := Option.map_eq_some_iff.mp records
    rw [stated, textsOf?_eq_some read]
    rfl
  · cases records

def CommandSource.tokens : CommandSource → List String
  | .configured source => source.tokens
  | .recorded source => source.tokens

/-- **What the catalog has under an id is authorized**, whatever the id is. -/
theorem lookupCommandSource_authorized {source : CommandSource}
    (found : (buildValidationSourceCatalog findings plan commands).lookupCommandSource sourceId =
      some source) : IsAuthorized findings commands source.tokens := by
  unfold ValidationSourceCatalog.lookupCommandSource at found
  split at found
  · rename_i configured listed
    cases found
    exact configuredTest_authorized (List.mem_of_find?_eq_some listed)
  · obtain ⟨recorded, listed, rfl⟩ := Option.map_eq_some_iff.mp found
    exact recordedTest_authorized (List.mem_of_find?_eq_some listed)

variable {repr : PythonRepr} {allowedPaths : List String} {tokens : List String}

theorem groundFindingCheck_tokens {check : FindingCheck} {grounding : FindingCheckGrounding}
    (grounded : groundFindingCheck repr findings allowedPaths
      (buildValidationSourceCatalog findings plan commands) check = .ok grounding)
    (held : grounding.authorizedTokens = some tokens) : IsAuthorized findings commands tokens := by
  unfold groundFindingCheck at grounded
  dsimp only at grounded
  split at grounded
  · cases grounded
  · split at grounded
    · cases grounded
      cases held
    · split at grounded
      · cases grounded
        cases held
      · split at grounded
        · split_ifs at grounded <;> cases grounded <;> cases held
        · split at grounded
          · rename_i found
            split_ifs at grounded
            cases grounded
            cases held
            exact lookupCommandSource_authorized found
          · cases grounded

theorem groundValidation_tokens {validation : ValidationSpec} {grounding : ValidationGrounding}
    (grounded : groundValidation repr allowedPaths (buildValidationSourceCatalog findings plan commands)
      validation = .ok grounding)
    (held : grounding.authorizedTokens = some tokens) : IsAuthorized findings commands tokens := by
  unfold groundValidation at grounded
  dsimp only at grounded
  split at grounded
  · split_ifs at grounded
    cases grounded
    cases held
  · split at grounded
    · rename_i found
      cases grounded
      cases held
      exact lookupCommandSource_authorized found
    · rename_i found
      cases grounded
      cases held
      exact lookupCommandSource_authorized found
    · cases grounded

end Sources

/-- A grounding whose tokens are all authorized. -/
structure VerificationGrounding.Authorized (grounding : VerificationGrounding) (findings : List Finding)
    (commands : List (List String)) : Prop where
  checks : ∀ record ∈ grounding.findingChecks, ∀ tokens, record.authorizedTokens = some tokens →
    IsAuthorized findings commands tokens
  validations : ∀ record ∈ grounding.validations, ∀ tokens, record.authorizedTokens = some tokens →
    IsAuthorized findings commands tokens

theorem resolveGrounding_authorized {repr : PythonRepr} {findings : List Finding}
    {manifest : FixScopedManifest} {success : SuccessDefinition} {plan : ImplementationPlan}
    {commands : List (List String)} {grounding : VerificationGrounding}
    (resolved : resolveGrounding repr findings manifest success
      (buildValidationSourceCatalog findings plan commands) = .ok grounding) :
    grounding.Authorized findings commands := by
  unfold resolveGrounding at resolved
  simp only [bind_eq_ok, refuse_eq_ok, not_not, exists_const, pure_eq_ok] at resolved
  obtain ⟨-, checks, checked, validations, validated, rfl⟩ := resolved
  refine ⟨fun record member tokens held => ?_, fun record member tokens held => ?_⟩
  · obtain ⟨check, -, grounded⟩ := exists_mem_of_forall₂ (mapM_eq_ok.mp checked) member
    exact groundFindingCheck_tokens grounded held
  · obtain ⟨validation, -, grounded⟩ := exists_mem_of_forall₂ (mapM_eq_ok.mp validated) member
    exact groundValidation_tokens grounded held

/-- **The tokens of an accepted grounding are authorized.** -/
theorem invokeLocalFix_tokens {repr : PythonRepr} {reply : WorkerReply} {plan : ImplementationPlan}
    {findings : List Finding} {manifest : FixScopedManifest} {commands : List (List String)}
    {result : FixIgnitionResult}
    (accepted : invokeLocalFix repr reply plan findings manifest commands = .ok result) :
    result.verificationGrounding.Authorized findings commands := by
  unfold invokeLocalFix at accepted
  split at accepted
  · cases accepted
  · obtain ⟨fields, -, read⟩ := bind_eq_ok.mp accepted
    unfold readResponse at read
    simp only [bind_eq_ok, pure_eq_ok] at read
    obtain ⟨-, -, -, -, -, -, -, -, success, -, grounding, grounded, rfl⟩ := read
    unfold groundResponse at grounded
    split at grounded
    · rename_i resolved
      cases grounded
      exact resolveGrounding_authorized resolved
    · cases grounded

/-! ### What the verifier asks -/

/-- A question that runs no command but one of `P`. -/
def RunsOnly (P : List String → Prop) : VerifierOp → Prop
  | .runCommand tokens _ => P tokens
  | _ => True

section Asks

variable {repr : PythonRepr} {readers : Readers} {P : List String → Prop} {root : String}

theorem asks_assertion (form : AssertionForm) (relPath : String) (literal : Option String)
    (scopedPaths : Json) :
    (evaluateDeterministicAssertion repr readers form relPath literal root scopedPaths).Asks
      (RunsOnly P) := by
  refine (Program.Asks.ofExcept _).bind fun inScope => ?_
  cases inScope with
  | false => trivial
  | true =>
    refine ⟨trivial, fun base => ⟨trivial, fun target => ?_⟩⟩
    dsimp only [Program.andThen]
    split
    · exact ⟨trivial, fun _ => trivial⟩
    · trivial

theorem asks_command {tokens : List String} (expected : String) (authorized : P tokens) :
    (executeAuthorizedCommand repr tokens root expected).Asks (RunsOnly P) := by
  unfold executeAuthorizedCommand
  split
  · trivial
  · split
    · trivial
    · refine ⟨trivial, fun cwd => ⟨trivial, fun isDir => ?_⟩⟩
      cases isDir with
      | false => trivial
      | true => exact ⟨authorized, fun outcome => Program.Asks.ofExcept _⟩

/-- The tokens of a record, where it has any, are of `P`. -/
def HoldsTokens (repr : PythonRepr) (P : List String → Prop) (grounding : Dict) : Prop :=
  authorizedTokens repr grounding ≠ [] → P (authorizedTokens repr grounding)

theorem asks_findingCheck {evidence : List String} {check grounding : Dict}
    (held : HoldsTokens repr P grounding) :
    (findingCheckVerdict repr readers root evidence check grounding).Asks (RunsOnly P) := by
  unfold findingCheckVerdict
  dsimp only
  split
  · trivial
  · split
    · trivial
    · split
      · split
        · trivial
        · split
          · trivial
          · exact asks_assertion _ _ _ _
      · split
        · split
          · trivial
          · rename_i tokens
            exact (asks_command _ (held tokens)).bind fun _ => trivial
        · trivial

theorem asks_validation {validation grounding : Dict} (held : HoldsTokens repr P grounding) :
    (validationVerdict repr readers root validation grounding).Asks (RunsOnly P) := by
  unfold validationVerdict
  dsimp only
  split
  · split
    · trivial
    · split
      · trivial
      · exact (asks_assertion _ _ _ _).bind fun _ => trivial
  · split
    · split
      · trivial
      · rename_i tokens
        exact asks_command _ (held tokens)
    · trivial

theorem groundingOf_mem {idField id : String} {records : List Json} {grounding : Dict}
    (found : groundingOf idField records id = some grounding) : grounding ∈ objectsOf records :=
  List.mem_reverse.mp (List.mem_of_find?_eq_some found)

theorem asks_findingChecks {evidence : List String} {contract grounding : Dict}
    (held : ∀ record ∈ objectsOf (entriesOf grounding "finding_checks"), HoldsTokens repr P record) :
    (evaluateFindingChecks repr readers root evidence contract grounding).Asks (RunsOnly P) := by
  refine Program.Asks.mapM fun entry _ => ?_
  unfold evaluateFindingCheck
  dsimp only
  split
  · trivial
  · rename_i found
    exact (asks_findingCheck (held _ (groundingOf_mem found))).bind fun _ => trivial

theorem asks_validations {contract grounding : Dict}
    (held : ∀ record ∈ objectsOf (entriesOf grounding "validations"), HoldsTokens repr P record) :
    (evaluateValidations repr readers root contract grounding).Asks (RunsOnly P) := by
  refine Program.Asks.mapM fun validation _ => ?_
  unfold evaluateValidation
  dsimp only
  split
  · trivial
  · rename_i found
    exact (asks_validation (held _ (groundingOf_mem found))).bind fun _ => trivial

theorem asks_persisted (result : FixVerificationResult) : (persisted result).Asks (RunsOnly P) := by
  refine ⟨trivial, fun written => ?_⟩
  cases written <;> trivial

/-- **The verifier runs the tokens of its grounding records only.** -/
theorem verify_asks (sha : Aflow.Sha256) {verification : Verification}
    (checks : ∀ record ∈ objectsOf (entriesOf verification.grounding "finding_checks"),
      HoldsTokens repr P record)
    (validations : ∀ record ∈ objectsOf (entriesOf verification.grounding "validations"),
      HoldsTokens repr P record) :
    (verify repr sha readers verification).Asks (RunsOnly P) := by
  refine ⟨trivial, fun document => (Program.Asks.ofExcept _).bind fun existing => ?_⟩
  cases existing with
  | some result => trivial
  | none =>
    dsimp only
    split
    · refine (Program.Asks.ofExcept _).bind fun config => Program.Asks.bind ?_ fun report => ?_
      · refine ⟨trivial, fun detected => ?_⟩
        cases detected <;> trivial
      · refine (asks_findingChecks checks).bind fun _ => (asks_validations validations).bind fun _ => ?_
        split <;> exact asks_persisted _
    · exact asks_persisted _

end Asks

/-! ### The handoff of an accepted response -/

/-- The verification that `CodexFixContinuation.run` asks for: the contract and its grounding are those
of the handoff. -/
structure Verification.OfHandoff (verification : Verification) (handoff : Dict) : Prop where
  contract : getD handoff "verification_contract" (.obj []) = .obj verification.contract
  grounding : getD handoff "verification_grounding" (.obj []) = .obj verification.grounding

section Handoff

variable {repr : PythonRepr} {findings : List Finding} {commands : List (List String)}

theorem mem_objectsOf {items : List Json} {fields : Dict} :
    fields ∈ objectsOf items ↔ .obj fields ∈ items := by
  unfold objectsOf
  rw [List.mem_filterMap]
  constructor
  · rintro ⟨item, member, found⟩
    cases item <;> cases found
    exact member
  · exact fun member => ⟨_, member, rfl⟩

theorem authorizedTokens_tokensJson {fields : Dict} {tokens : Option (List String)}
    (stated : getD fields "authorized_tokens" .null = tokensJson tokens) :
    authorizedTokens repr fields = tokens.getD [] := by
  have texts : ∀ words : List String, (words.map Json.str).map (strOf repr) = words := fun words => by
    rw [List.map_map]
    exact List.map_id words
  unfold authorizedTokens
  rw [stated]
  rcases tokens with - | - | ⟨token, rest⟩
  · rfl
  · rfl
  · exact texts (token :: rest)

theorem holdsTokens_of {fields : Dict} {tokens : Option (List String)}
    (stated : getD fields "authorized_tokens" .null = tokensJson tokens)
    (held : ∀ words, tokens = some words → IsAuthorized findings commands words) :
    HoldsTokens repr (IsAuthorized findings commands) fields := by
  unfold HoldsTokens
  rw [authorizedTokens_tokensJson stated]
  cases tokens with
  | none => exact fun none => absurd rfl none
  | some words => exact fun _ => held words rfl

/-- **Command authority**: every token list that the verifier runs on the handoff of an accepted response
is a configured test command or the recorded command of a finding. -/
theorem commands_authorized {reply : WorkerReply} {operation : AcceptedFixOperation}
    {result : FixIgnitionResult}
    (accepted : invokeLocalFix repr reply operation.plan operation.findings operation.manifest commands =
      .ok result)
    (sha : Aflow.Sha256) (readers : Readers) {verification : Verification}
    (handed : verification.OfHandoff (acceptedHandoff sha operation result))
    {answers : List (Event verifierSignature) → (op : VerifierOp) → op.Answer → Prop}
    {log : List (Event verifierSignature)} {program : VerifierProgram FixVerificationResult}
    (run : Exec (journal answers) [] (verify repr sha readers verification) log program)
    (tokens : List String) (cwd : Path) (outcome : CommandOutcome)
    (ran : ⟨.runCommand tokens cwd, outcome⟩ ∈ log) :
    IsAuthorized operation.findings commands tokens := by
  have authorized := invokeLocalFix_tokens accepted
  have grounding : Json.obj verification.grounding = result.verificationGrounding.toMapping :=
    handed.grounding.symm.trans (getD_acceptedHandoff (by decide) (by decide) _)
  rw [VerificationGrounding.toMapping] at grounding
  injection grounding with grounding
  have asks : (verify repr sha readers verification).Asks
      (RunsOnly (IsAuthorized operation.findings commands)) := by
    apply verify_asks
    all_goals
      intro fields member
      rw [grounding, mem_objectsOf] at member
      obtain ⟨record, listed, written⟩ := List.mem_map.mp member
      injection written with written
      rw [← written]
    · exact holdsTokens_of rfl (authorized.checks record listed)
    · exact holdsTokens_of rfl (authorized.validations record listed)
  obtain ⟨new, split, allowed⟩ := run.asked asks
  rw [split, List.append_nil] at ran
  exact allowed _ ran

end Handoff

/-- A response whose validation is the first configured test. -/
def testedFields : Dict :=
  [("status", .str "accepted"),
    ("plan", .obj [("steps", .arr [.obj [("id", .str "step-1"), ("action", .str "edit"),
      ("target_file", .str "src/app.py"), ("originating_finding_id", .str "scan-1")]])]),
    ("gap_corrections_applied", .int 0),
    ("success_definition", .obj [
      ("finding_checks", .arr [.obj [("finding_id", .str "scan-1"), ("resolution_method", .str "rescan"),
        ("check", .str "scanner_clear::scan-1"), ("expected_result", .str "absent")]]),
      ("validations", .arr [.obj [("id", .str "tests"),
        ("command_or_assertion", .str "configured-test-001"), ("expected_result", .str "exit code 0")]]),
      ("must_not_regress", .arr []), ("success_rule", .str requiredSuccessRule)])]

def testCommands : List (List String) := [["pytest", "-q"]]

/-- A repository without findings, in which every command succeeds. -/
def calmScript : Script verifierSignature := fun _ op =>
  match op with
  | .loadResult => (none : Option Json)
  | .rescan _ _ => (.ok [] : Except Failure (List Detection))
  | .resolve path => path
  | .readFile _ => FileText.missing
  | .isDir _ => true
  | .runCommand _ _ => CommandOutcome.completed 0 "" ""
  | .persistResult _ => (.ok () : Except Failure Unit)

def verificationOf (result : FixIgnitionResult) (context codexResult : Dict)
    (originalFindings : List Json) : Verification where
  operationId := "fix-1"
  repositoryRoot := "/repo"
  scannerContext := context
  originalFindings := originalFindings
  contract := [("finding_checks", .arr (result.successDefinition.findingChecks.map FindingCheck.plain)),
    ("validations", .arr (result.successDefinition.validations.map ValidationSpec.plain)),
    ("must_not_regress", textsJson result.successDefinition.mustNotRegress),
    ("success_rule", .str result.successDefinition.successRule)]
  grounding := [
    ("finding_checks", .arr (result.verificationGrounding.findingChecks.map
      FindingCheckGrounding.toMapping)),
    ("validations", .arr (result.verificationGrounding.validations.map ValidationGrounding.toMapping))]
  codexResult := codexResult

theorem verificationOf_ofHandoff (sha : Aflow.Sha256) (operation : AcceptedFixOperation)
    (result : FixIgnitionResult) (context codexResult : Dict) (originalFindings : List Json) :
    (verificationOf result context codexResult originalFindings).OfHandoff
      (acceptedHandoff sha operation result) :=
  ⟨getD_acceptedHandoff (by decide) (by decide) _, getD_acceptedHandoff (by decide) (by decide) _⟩

def commandOf? (event : Event verifierSignature) : Option (List String × Path × CommandOutcome) :=
  match event with
  | ⟨.runCommand tokens cwd, outcome⟩ => some (tokens, cwd, outcome)
  | _ => none

theorem commandOf?_eq_some {event : Event verifierSignature} {tokens : List String} {cwd : Path}
    {outcome : CommandOutcome} (found : commandOf? event = some (tokens, cwd, outcome)) :
    event = ⟨.runCommand tokens cwd, outcome⟩ := by
  obtain ⟨op, answer⟩ := event
  cases op <;> cases found
  rfl

theorem testedFields_run :
    (readResponse plainRepr testedFields (sampleFix secretFinding none).plan
      (sampleFix secretFinding none).findings (sampleFix secretFinding none).manifest
      testCommands).toOption.any (fun result =>
        ((verify plainRepr Aflow.sha256 ⟨fun _ => none, fun _ => ""⟩ (verificationOf result
          [("repository_root", .str "/repo")] [("exit_code", .int 0)] [])).journalOf calmScript []).any
            fun event => (commandOf? event).isSome) = true := by
  decide +kernel

/-- **The test command of an accepted response is run, and it is authorized.** -/
theorem commands_authorized_tested :
    ∃ result tokens cwd outcome log program,
      invokeLocalFix plainRepr (.answered (some (dumps (.obj testedFields))))
          (sampleFix secretFinding none).plan (sampleFix secretFinding none).findings
          (sampleFix secretFinding none).manifest testCommands = .ok result ∧
        Exec (journal fun _ _ _ => True) [] (verify plainRepr Aflow.sha256 ⟨fun _ => none, fun _ => ""⟩
          (verificationOf result [("repository_root", .str "/repo")] [("exit_code", .int 0)] []))
          log program ∧
        ⟨.runCommand tokens cwd, outcome⟩ ∈ log ∧
        IsAuthorized (sampleFix secretFinding none).findings testCommands tokens := by
  have ran := testedFields_run
  cases read : readResponse plainRepr testedFields (sampleFix secretFinding none).plan
      (sampleFix secretFinding none).findings (sampleFix secretFinding none).manifest testCommands with
  | error failure => rw [read] at ran; cases ran
  | ok result =>
    rw [read] at ran
    obtain ⟨event, member, command⟩ := List.any_eq_true.mp ran
    obtain ⟨⟨tokens, cwd, outcome⟩, found⟩ := Option.isSome_iff_exists.mp command
    rw [commandOf?_eq_some found] at member
    have accepted : invokeLocalFix plainRepr (.answered (some (dumps (.obj testedFields)))) _ _ _ _ =
        .ok result := bind_eq_ok.mpr ⟨_, oneJsonObject_dumps {} testedFields, read⟩
    have run := @exec_journalOf _ _ _ calmScript (fun _ _ _ => True) (fun _ _ => trivial)
      (verify plainRepr Aflow.sha256 ⟨fun _ => none, fun _ => ""⟩ (verificationOf result
        [("repository_root", .str "/repo")] [("exit_code", .int 0)] [])) []
    exact ⟨result, tokens, cwd, outcome, _, _, accepted, run, member,
      @commands_authorized _ _ _ (sampleFix secretFinding none) _ accepted Aflow.sha256 _ _
        (verificationOf_ofHandoff _ _ _ _ _ _) _ _ _ run tokens cwd outcome member⟩

end Audisor.Fix
