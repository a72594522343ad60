/-
**What the continuation makes of the handoffs that are persisted.**

* `persisted_handoff`, `persisted_contract` — the first two steps accept every handoff of an accepted
  response.
* `persisted_grounding` — the third refuses exactly those with a command that has no token or a path
  outside the manifest.
* **`persisted_refused`** — the fourth refuses every one: no handoff has the scanner context it asks for.
-/

import Audisor.Fix.Continuation
import Audisor.Fix.Handoff
import Audisor.Fix.Responses
import Audisor.Fix.Stages

namespace Audisor.Fix

open Checked Json

variable {repr : PythonRepr} {sha : Aflow.Sha256} {operation : AcceptedFixOperation}
  {result : FixIgnitionResult}

/-! ### The fields of a handoff -/

def acceptedHandoff (sha : Aflow.Sha256) (operation : AcceptedFixOperation)
    (result : FixIgnitionResult) : Dict :=
  persistHandoff sha operation result.ignited

theorem get?_handoffEvidence {key : String} (undecided : key ≠ "authority_decisions") :
    get? (handoffEvidence operation result.ignited) key =
      get? [("verification_contract", result.successDefinition.contract),
        ("verification_grounding", result.verificationGrounding.toMapping)] key := by
  unfold handoffEvidence
  rw [get?_append]
  cases operation.authorityDecisions with
  | none => rfl
  | some decisions =>
    dsimp only
    split
    · rfl
    · rw [get?_cons, if_neg (Ne.symm undecided)]
      rfl

theorem get?_acceptedHandoff {key : String} (other : key ≠ "handoff_sha256")
    (undecided : key ≠ "authority_decisions") :
    get? (acceptedHandoff sha operation result) key =
      get? [("schema_version", .int 1), ("operation_id", .str operation.operationId),
        ("operation_type", .str "fix"), ("findings", .arr (operation.findings.map Finding.plain)),
        ("scoped_manifest", operation.manifest.plain),
        ("statements", .arr (operation.statements.toList.map Statement.plain)),
        ("qualified_plan", result.candidatePlan.plain), ("authority", noAuthority),
        ("verification_contract", result.successDefinition.contract),
        ("verification_grounding", result.verificationGrounding.toMapping)] key := by
  rw [acceptedHandoff, persistHandoff, get?_append, get?_cons, if_neg (Ne.symm other), get?_nil,
    Option.none_or, handoffPayload, get?_append, get?_handoffEvidence undecided, ← get?_append]
  rfl

/-! ### The first step -/

theorem getD_acceptedHandoff {key : String} (other : key ≠ "handoff_sha256")
    (undecided : key ≠ "authority_decisions") (default : Json) :
    getD (acceptedHandoff sha operation result) key default =
      getD [("schema_version", .int 1), ("operation_id", .str operation.operationId),
        ("operation_type", .str "fix"), ("findings", .arr (operation.findings.map Finding.plain)),
        ("scoped_manifest", operation.manifest.plain),
        ("statements", .arr (operation.statements.toList.map Statement.plain)),
        ("qualified_plan", result.candidatePlan.plain), ("authority", noAuthority),
        ("verification_contract", result.successDefinition.contract),
        ("verification_grounding", result.verificationGrounding.toMapping)] key default := by
  rw [getD, get?_acceptedHandoff other undecided]
  rfl

/-- **Every handoff is one of its operation, and grants nothing.** -/
theorem persisted_handoff (path : String) :
    validateHandoff repr (.document (.obj (acceptedHandoff sha operation result))) path
      operation.operationId = .ok (acceptedHandoff sha operation result) := by
  have operationId : getD (acceptedHandoff sha operation result) "operation_id" .null =
      .str operation.operationId := getD_acceptedHandoff (by decide) (by decide) _
  have operationType : getD (acceptedHandoff sha operation result) "operation_type" .null =
      .str "fix" := getD_acceptedHandoff (by decide) (by decide) _
  have authority : getD (acceptedHandoff sha operation result) "authority" (.obj []) = noAuthority :=
    getD_acceptedHandoff (by decide) (by decide) _
  have granted : (authorityFields.find? fun field => !isFalse (get? [("mutation_authorized",
      .bool false), ("execution_authorized", .bool false), ("apply_authorized", .bool false),
      ("completion_claimed", .bool false)] field)) = none := by decide
  unfold validateHandoff
  dsimp only
  rw [operationId, operationType, authority, noAuthority]
  dsimp only
  rw [granted, bind_eq_ok]
  refine ⟨(), refuse_eq_ok.mpr (by simp), bind_eq_ok.mpr ⟨(), refuse_eq_ok.mpr (by simp), rfl⟩⟩

/-! ### The second step -/

theorem hash_str (text : String) : hash (.str text) = .ok () := refuse_eq_ok.mpr (by simp [isHashable])

theorem mapM_hash_str (texts : List String) :
    (texts.map Json.str).mapM hash = .ok (texts.map fun _ => ()) :=
  mapM_map fun text _ => hash_str text

theorem isIn_str {text : String} {texts : List String} :
    isIn (.str text) (texts.map .str) = true ↔ text ∈ texts := by
  have same : ∀ other : String, Json.eq (.str text) (.str other) = decide (text = other) := fun _ => rfl
  rw [isIn, List.any_map, List.any_eq_true]
  simp only [Function.comp_apply, same, decide_eq_true_eq]
  exact ⟨fun ⟨_, member, equal⟩ => equal ▸ member, fun member => ⟨_, member, rfl⟩⟩

theorem filterMap_plain {read : Json → Option Json}
    (reads : ∀ finding : Finding, read finding.plain = some (.str finding.id))
    (findings : List Finding) :
    (findings.map Finding.plain).filterMap read = (findings.map Finding.id).map .str := by
  induction findings with
  | nil => rfl
  | cons finding rest ih => rw [List.map_cons, List.filterMap_cons_some (reads finding), ih]; rfl

theorem handoffFindingIds_accepted :
    handoffFindingIds (acceptedHandoff sha operation result) =
      .ok ((operation.findings.map Finding.id).map .str) := by
  have findings : getD (acceptedHandoff sha operation result) "findings" (.arr []) =
      .arr (operation.findings.map Finding.plain) := getD_acceptedHandoff (by decide) (by decide) _
  have hashed := mapM_hash_str (operation.findings.map Finding.id)
  unfold handoffFindingIds
  rw [findings, iterate, bind_eq_ok]
  refine ⟨_, rfl, ?_⟩
  dsimp only
  rw [filterMap_plain, hashed]
  · rfl
  · exact fun _ => rfl

theorem validateFindingCheck_plain {findingIds : List String} {check : FindingCheck}
    (concrete : check.Concrete findingIds) :
    validateFindingCheck repr (findingIds.map .str) check.plain = .ok (.str check.findingId) := by
  have checked : concreteText [("finding_id", .str check.findingId),
      ("resolution_method", .str check.resolutionMethod), ("check", .str check.check),
      ("expected_result", .str check.expectedResult)] "check" = some check.check :=
    concreteText_of_get? rfl concrete.checked
  have expected : concreteText [("finding_id", .str check.findingId),
      ("resolution_method", .str check.resolutionMethod), ("check", .str check.check),
      ("expected_result", .str check.expectedResult)] "expected_result" = some check.expectedResult :=
    concreteText_of_get? rfl concrete.expected
  have method : isResolutionMethod (.str check.resolutionMethod) = some check.resolutionMethod :=
    if_pos concrete.method
  unfold validateFindingCheck FindingCheck.plain
  simp only [bind_eq_ok, pure_eq_ok, refuse_eq_ok, exists_const]
  refine ⟨(), hash_str _, ?_, ?_, ?_, ?_, rfl⟩
  · exact (Bool.not_eq_false _).mpr (isIn_str.mpr concrete.known)
  · exact fun absent => nomatch method.symm.trans absent
  · rw [checked]
    nofun
  · rw [expected]
    nofun

theorem validateValidation_plain {seenIds : List String} {validation : ValidationSpec}
    (concrete : validation.Concrete) (unseen : validation.id ∉ seenIds) :
    validateValidation seenIds validation.plain = .ok validation.id := by
  have named : concreteText [("id", .str validation.id),
      ("command_or_assertion", .str validation.commandOrAssertion),
      ("expected_result", .str validation.expectedResult)] "id" = some validation.id :=
    concreteText_of_get? rfl concrete.named
  have checked : concreteText [("id", .str validation.id),
      ("command_or_assertion", .str validation.commandOrAssertion),
      ("expected_result", .str validation.expectedResult)] "command_or_assertion" =
        some validation.commandOrAssertion := concreteText_of_get? rfl concrete.checked
  have expected : concreteText [("id", .str validation.id),
      ("command_or_assertion", .str validation.commandOrAssertion),
      ("expected_result", .str validation.expectedResult)] "expected_result" =
        some validation.expectedResult := concreteText_of_get? rfl concrete.expected
  unfold validateValidation ValidationSpec.plain
  dsimp only
  rw [named, checked, expected]
  simp only [bind_eq_ok, pure_eq_ok, refuse_eq_ok, exists_const]
  exact ⟨unseen, nofun, nofun, trivial⟩

/-- **Concrete validations with distinct ids are accepted one after the other.** -/
theorem validateValidations_plain {validations : List ValidationSpec} {seenIds : List String}
    (concrete : ∀ validation ∈ validations, validation.Concrete ∧ validation.id ∉ seenIds)
    (distinct : (validations.map ValidationSpec.id).Nodup) :
    validateValidations seenIds (validations.map ValidationSpec.plain) = .ok () := by
  induction validations generalizing seenIds with
  | nil => rfl
  | cons validation rest ih =>
    obtain ⟨here, later⟩ := List.forall_mem_cons.mp concrete
    obtain ⟨fresh, distinct⟩ := List.nodup_cons.mp distinct
    rw [List.map_cons, validateValidations, validateValidation_plain here.1 here.2]
    refine ih (fun other member => ⟨(later other member).1, ?_⟩) distinct
    intro seen
    obtain same | seen := List.mem_cons.mp seen
    · exact fresh (same ▸ List.mem_map_of_mem member)
    · exact (later other member).2 seen

theorem uncoveredIds_plain {findingIds covered : List String}
    (covers : ∀ id ∈ findingIds, id ∈ covered) :
    uncoveredIds (findingIds.map .str) (covered.map .str) = [] := by
  unfold uncoveredIds
  rw [List.filter_eq_nil_iff]
  rintro value member
  obtain ⟨id, known, rfl⟩ := List.mem_map.mp member
  simp [isIn_str.mpr (covers id known)]

/-- **The contract of a complete success definition is accepted.** -/
theorem persisted_contract
    (complete : result.successDefinition.Complete (operation.findings.map Finding.id)) :
    validateVerificationContract repr (acceptedHandoff sha operation result) = .ok () := by
  have contract : get? (acceptedHandoff sha operation result) "verification_contract" =
      some result.successDefinition.contract := get?_acceptedHandoff (by decide) (by decide)
  have checks := @mapM_map _ _ _ _ _ _ _ (fun check => Json.str check.findingId) fun check member =>
    @validateFindingCheck_plain repr _ check (complete.checks check member)
  have validations := validateValidations_plain
    (fun validation member => ⟨complete.validations validation member, List.not_mem_nil⟩)
    complete.distinct
  have rule : concreteText [("finding_checks", .arr (result.successDefinition.findingChecks.map
      FindingCheck.plain)), ("validations", .arr (result.successDefinition.validations.map
      ValidationSpec.plain)), ("must_not_regress", textsJson result.successDefinition.mustNotRegress),
      ("success_rule", .str result.successDefinition.successRule)] "success_rule" =
        some result.successDefinition.successRule := concreteText_of_get? rfl complete.rule
  have covered : uncoveredIds ((operation.findings.map Finding.id).map .str)
      (result.successDefinition.findingChecks.map fun check => Json.str check.findingId) = [] := by
    rw [← uncoveredIds_plain complete.covers, List.map_map (f := FindingCheck.findingId)]
    rfl
  unfold validateVerificationContract
  rw [contract, SuccessDefinition.contract]
  refine bind_eq_ok.mpr ⟨_, handoffFindingIds_accepted, bind_eq_ok.mpr ⟨_, checks, ?_⟩⟩
  refine bind_eq_ok.mpr ⟨(), refuse_eq_ok.mpr fun missing => missing.2 covered, ?_⟩
  refine bind_eq_ok.mpr ⟨(), validations, refuse_eq_ok.mpr ?_⟩
  rw [rule]
  nofun

/-! ### The third step -/

/-- A record that the third step accepts: a command has a token, and its paths are in the manifest. -/
def Accountable (manifest : FixScopedManifest) (tokens : Option (List String))
    (scopedPaths : List String) : Prop :=
  tokens ≠ some [] ∧ ∀ path ∈ scopedPaths, path = "" ∨ path ∈ manifest.allowedPaths

theorem setOf_texts (texts : List String) : setOf (textsJson texts) = .ok (texts.map .str) := by
  unfold setOf
  rw [textsJson, iterate, bind_eq_ok]
  exact ⟨_, rfl, bind_eq_ok.mpr ⟨_, mapM_hash_str texts, rfl⟩⟩

theorem tokensJson_truthy {tokens : Option (List String)} :
    (tokensJson tokens).truthy = false ↔ tokens = none ∨ tokens = some [] := by
  rcases tokens with - | - | ⟨token, rest⟩ <;> simp [tokensJson, textsJson, truthy]

theorem validateGroundingRecord_obj {kind : GroundingKind} {fields result : Dict}
    {sourceType : GroundingType} {tokens : Option (List String)}
    (stated : ([kind.idField, "source_type", "source_reference", "scoped_paths"].find?
      fun field => !hasKey fields field) = none)
    (source : getD fields "source_type" .null = .str sourceType.value)
    (held : getD fields "authorized_tokens" .null = tokensJson tokens)
    (command : isOneOf (.str sourceType.value) kind.commandTypes = tokens.isSome)
    (other : isOneOf (.str sourceType.value) kind.otherTypes = true → tokens = none) :
    validateGroundingRecord kind (.obj fields) = .ok result ↔ tokens ≠ some [] ∧ fields = result := by
  unfold validateGroundingRecord
  dsimp only
  rw [stated, source, held]
  simp only [bind_eq_ok, refuse_eq_ok, exists_const, pure_eq_ok, command, tokensJson_truthy]
  constructor
  · rintro ⟨some, -, same⟩
    exact ⟨fun empty => some ⟨by rw [empty]; rfl, .inr empty⟩, same⟩
  · rintro ⟨some, same⟩
    refine ⟨?_, fun ⟨typed, tokens⟩ => tokens (by rw [other typed]; rfl), same⟩
    rintro ⟨held, rfl | empty⟩
    · cases held
    · exact some empty

theorem validateGroundingRecord_check {record : FindingCheckGrounding} (typed : record.Typed)
    {result : Dict} :
    validateGroundingRecord checkGroundings record.toMapping = .ok result ↔
      record.authorizedTokens ≠ some [] ∧
        [("finding_id", .str record.findingId), ("resolution_method", .str record.resolutionMethod),
          ("source_type", .str record.sourceType.value),
          ("source_reference", .str record.sourceReference),
          ("authorized_tokens", tokensJson record.authorizedTokens),
          ("scoped_paths", textsJson record.scopedPaths)] = result := by
  refine validateGroundingRecord_obj rfl rfl rfl ?_ ?_
  all_goals unfold FindingCheckGrounding.Typed at typed
  · cases source : record.sourceType <;> rw [source] at typed <;> simp_all <;> rfl
  · cases source : record.sourceType <;> rw [source] at typed <;> simp_all
    exact fun listed => absurd listed (by decide)

theorem validateGroundingRecord_validation {record : ValidationGrounding} (typed : record.Typed)
    {result : Dict} :
    validateGroundingRecord validationGroundings record.toMapping = .ok result ↔
      record.authorizedTokens ≠ some [] ∧
        [("validation_id", .str record.validationId), ("source_type", .str record.sourceType.value),
          ("source_reference", .str record.sourceReference),
          ("authorized_tokens", tokensJson record.authorizedTokens),
          ("scoped_paths", textsJson record.scopedPaths)] = result := by
  refine validateGroundingRecord_obj rfl rfl rfl ?_ ?_
  all_goals unfold ValidationGrounding.Typed at typed
  · cases source : record.sourceType <;> rw [source] at typed <;> simp_all <;> rfl
  · cases source : record.sourceType <;> rw [source] at typed <;> simp_all <;>
      exact fun listed => absurd listed (by decide)

theorem validateScopedPaths_iff {allowed scopedPaths : List String} {record : Dict}
    (paths : getD record "scoped_paths" (.arr []) = textsJson scopedPaths) :
    (∃ done, validateScopedPaths repr (allowed.map .str) record = .ok done) ↔
      ∀ path ∈ scopedPaths, path = "" ∨ path ∈ allowed := by
  unfold validateScopedPaths
  rw [paths, textsJson, iterate]
  simp only [bind_eq_ok, Except.ok.injEq, exists_eq_left', pure_eq_ok, exists_const, and_true]
  rw [mapM_returns, List.forall_mem_map]
  refine forall₂_congr fun path _ => ?_
  by_cases empty : path = ""
  · simp only [empty, truthy, true_or, iff_true]
    exact ⟨(), rfl⟩
  · have truth : (Json.str path).truthy = true := by simp [truthy, empty]
    rw [if_pos truth]
    simp only [bind_eq_ok, hash_str, exists_const, refuse_eq_ok, Bool.not_eq_false, isIn_str]
    simp [empty]

theorem groundingRecords_ok {name : String} {grounding contract : Dict} {records entries : List Json}
    (recorded : getD grounding name (.arr []) = .arr records)
    (listed : getD contract name (.arr []) = .arr entries)
    (same : records.length = entries.length) :
    groundingRecords name grounding contract = .ok records := by
  unfold groundingRecords
  rw [recorded, listed]
  exact bind_eq_ok.mpr ⟨entries, rfl,
    bind_eq_ok.mpr ⟨(), refuse_eq_ok.mpr fun other => other same, rfl⟩⟩

/-- The records of a grounding that the third step accepts. -/
def VerificationGrounding.Accountable (manifest : FixScopedManifest)
    (grounding : VerificationGrounding) : Prop :=
  (∀ record ∈ grounding.findingChecks,
    Fix.Accountable manifest record.authorizedTokens record.scopedPaths) ∧
  ∀ record ∈ grounding.validations,
    Fix.Accountable manifest record.authorizedTokens record.scopedPaths

/-- **The grounding is accepted exactly if every record is accountable.** -/
theorem persisted_grounding
    (grounds : result.verificationGrounding.Grounds result.successDefinition) :
    validateVerificationGrounding repr (acceptedHandoff sha operation result) = .ok () ↔
      result.verificationGrounding.Accountable operation.manifest := by
  have grounding : get? (acceptedHandoff sha operation result) "verification_grounding" =
      some result.verificationGrounding.toMapping := get?_acceptedHandoff (by decide) (by decide)
  have contract : getD (acceptedHandoff sha operation result) "verification_contract" (.obj []) =
      result.successDefinition.contract := getD_acceptedHandoff (by decide) (by decide) _
  have manifest : getD (acceptedHandoff sha operation result) "scoped_manifest" (.obj []) =
      operation.manifest.plain := getD_acceptedHandoff (by decide) (by decide) _
  have checks : ∀ record ∈ result.verificationGrounding.findingChecks, ∀ fields, _ :=
    fun record member fields => (exists_mem_of_forall₂ grounds.checks member).elim
      fun check typed => @validateGroundingRecord_check record typed.2.1 fields
  have validations : ∀ record ∈ result.verificationGrounding.validations, ∀ fields, _ :=
    fun record member fields => (exists_mem_of_forall₂ grounds.validations member).elim
      fun validation typed => @validateGroundingRecord_validation record typed.2.1 fields
  unfold validateVerificationGrounding
  rw [grounding, contract, manifest, VerificationGrounding.toMapping, SuccessDefinition.contract,
    FixScopedManifest.plain]
  dsimp only
  rw [@groundingRecords_ok "finding_checks" [("finding_checks", .arr _), ("validations", .arr _)]
    [("finding_checks", .arr _), ("validations", .arr _), ("must_not_regress", _), ("success_rule", _)]
    _ _ rfl rfl, @groundingRecords_ok "validations" [("finding_checks", .arr _), ("validations", .arr _)]
    [("finding_checks", .arr _), ("validations", .arr _), ("must_not_regress", _), ("success_rule", _)]
    _ _ rfl rfl]
  · simp only [bind_eq_ok, Except.ok.injEq, exists_eq_left', mapM_map_iff checks, mapM_map_iff validations]
    simp only [getD, get?_cons, get?_nil, String.reduceEq, if_false, if_true, Option.or_none,
      Option.none_or, Option.getD_some, setOf_texts, Except.ok.injEq, exists_eq_left', and_assoc,
      exists_and_left, ← List.map_append, mapM_returns, List.forall_mem_append, List.forall_mem_map,
      pure_eq_ok, and_true]
    constructor
    · rintro ⟨checkTokens, validationTokens, checkPaths, validationPaths⟩
      exact ⟨fun record member => ⟨checkTokens record member,
          (validateScopedPaths_iff rfl).mp (checkPaths record member)⟩,
        fun record member => ⟨validationTokens record member,
          (validateScopedPaths_iff rfl).mp (validationPaths record member)⟩⟩
    · rintro ⟨checked, validated⟩
      exact ⟨fun record member => (checked record member).1,
        fun record member => (validated record member).1,
        fun record member => (validateScopedPaths_iff rfl).mpr (checked record member).2,
        fun record member => (validateScopedPaths_iff rfl).mpr (validated record member).2⟩
  · rw [List.length_map, List.length_map, grounds.validations.length_eq]
  · rw [List.length_map, List.length_map, grounds.checks.length_eq]

/-! ### The fourth step -/

theorem persisted_context (disk : Disk) (allowedTargetPaths : List String) :
    validateScannerContextAndRoot disk (acceptedHandoff sha operation result) allowedTargetPaths =
      .error (contextRequired "Handoff does not contain scanner_context") := by
  have absent : get? (acceptedHandoff sha operation result) "scanner_context" = none :=
    get?_acceptedHandoff (by decide) (by decide)
  unfold validateScannerContextAndRoot
  rw [absent]

theorem validateRun_ne_ok (repr : PythonRepr) (disk : Disk) (path : String)
    (allowedTargetPaths : List String) (passed : Dict × String) :
    validateRun repr disk (.document (.obj (acceptedHandoff sha operation result))) path
      operation.operationId allowedTargetPaths ≠ .ok passed := by
  intro run
  obtain ⟨handoff, loaded, run⟩ := bind_eq_ok.mp run
  cases (persisted_handoff path).symm.trans loaded
  obtain ⟨-, -, run⟩ := bind_eq_ok.mp run
  obtain ⟨-, -, run⟩ := bind_eq_ok.mp run
  obtain ⟨root, found, -⟩ := bind_eq_ok.mp run
  cases (persisted_context disk allowedTargetPaths).symm.trans found

/-- **No handoff of an accepted response is continued**: each passes the first two steps, the third
exactly if its records are accountable, and the fourth finds no scanner context in it. -/
theorem persisted_refused (repr : PythonRepr) (sha : Aflow.Sha256) (disk : Disk) (reply : WorkerReply)
    (commands : List (List String)) (operation : AcceptedFixOperation) (result : FixIgnitionResult)
    (path : String) (allowedTargetPaths : List String)
    (accepted : invokeLocalFix repr reply operation.plan operation.findings operation.manifest
      commands = .ok result) :
    validateHandoff repr (.document (.obj (acceptedHandoff sha operation result))) path
        operation.operationId = .ok (acceptedHandoff sha operation result) ∧
      validateVerificationContract repr (acceptedHandoff sha operation result) = .ok () ∧
      (validateVerificationGrounding repr (acceptedHandoff sha operation result) = .ok () ↔
        result.verificationGrounding.Accountable operation.manifest) ∧
      validateScannerContextAndRoot disk (acceptedHandoff sha operation result) allowedTargetPaths =
        .error (contextRequired "Handoff does not contain scanner_context") ∧
      ∀ passed, validateRun repr disk (.document (.obj (acceptedHandoff sha operation result))) path
        operation.operationId allowedTargetPaths ≠ .ok passed := by
  obtain ⟨complete, grounds⟩ := invokeLocalFix_sound accepted
  exact ⟨persisted_handoff path, persisted_contract complete, persisted_grounding grounds,
    persisted_context disk allowedTargetPaths, validateRun_ne_ok repr disk path allowedTargetPaths⟩

/-- The fields of a response that checks the credential by the scan. -/
def sampleFields : Dict :=
  [("status", .str "accepted"),
    ("plan", .obj [("steps", .arr [.obj [("id", .str "step-1"), ("action", .str "edit"),
      ("target_file", .str "src/app.py"), ("originating_finding_id", .str "scan-1")]])]),
    ("gap_corrections_applied", .int 0),
    ("success_definition", .obj [
      ("finding_checks", .arr [.obj [("finding_id", .str "scan-1"), ("resolution_method", .str "rescan"),
        ("check", .str "scanner_clear::scan-1"), ("expected_result", .str "absent")]]),
      ("validations", .arr []), ("must_not_regress", .arr []),
      ("success_rule", .str requiredSuccessRule)])]

theorem sampleFields_accepted :
    (readResponse plainRepr sampleFields (sampleFix secretFinding none).plan
      (sampleFix secretFinding none).findings (sampleFix secretFinding none).manifest
      []).toOption.isSome = true := by
  decide +kernel

theorem sample_accepted :
    ∃ result, invokeLocalFix plainRepr (.answered (some (dumps (.obj sampleFields))))
      (sampleFix secretFinding none).plan (sampleFix secretFinding none).findings
      (sampleFix secretFinding none).manifest [] = .ok result := by
  cases read : readResponse plainRepr sampleFields (sampleFix secretFinding none).plan
      (sampleFix secretFinding none).findings (sampleFix secretFinding none).manifest [] with
  | error failure => exact absurd (read ▸ sampleFields_accepted) (by simp [Except.toOption])
  | ok result => exact ⟨result, bind_eq_ok.mpr ⟨_, oneJsonObject_dumps {} sampleFields, read⟩⟩

theorem persisted_refused_sample :
    ∃ result : FixIgnitionResult, ∀ passed,
      validateRun plainRepr ⟨id, fun _ => true, fun _ => true, ["repo"]⟩
        (.document (.obj (acceptedHandoff Aflow.sha256 (sampleFix secretFinding none) result)))
        "/store/fix-1/qualified-fix-handoff.json" "fix-1" ["src/app.py"] ≠ .ok passed := by
  obtain ⟨result, accepted⟩ := sample_accepted
  exact ⟨result, (persisted_refused plainRepr Aflow.sha256 _ _ [] (sampleFix secretFinding none) result
    _ ["src/app.py"] accepted).2.2.2.2⟩

/-- **A validated plan and an accepted response whose handoff is not continued**, whatever the disk has
and whatever paths are allowed. -/
theorem handoff_not_continued :
    snapshotErrors (sampleFix secretFinding none).manifest = .ok () ∧
      (sampleFix secretFinding none).plan.validate (sampleFix secretFinding none).manifest = .ok () ∧
      ∃ result, invokeLocalFix plainRepr (.answered (some (dumps (.obj sampleFields))))
          (sampleFix secretFinding none).plan (sampleFix secretFinding none).findings
          (sampleFix secretFinding none).manifest [] = .ok result ∧
        ∀ disk path allowedTargetPaths passed, validateRun plainRepr disk
          (.document (.obj (acceptedHandoff Aflow.sha256 (sampleFix secretFinding none) result))) path
          "fix-1" allowedTargetPaths ≠ .ok passed := by
  obtain ⟨result, accepted⟩ := sample_accepted
  exact ⟨by decide +kernel, by decide +kernel, result, accepted, validateRun_ne_ok plainRepr⟩

end Audisor.Fix
