/-
**The package of a Fix operation, and the operation rebuilt from it.**

* `jsonable`, `serializeFixOperation` — `CanonicalOperationService._serialize_fix_operation`.
* `DataclassFields.construct`, `reconstructFixOperation` — what
  `AudisorOperationExecutor._reconstruct_fix_operation` builds from any package, with its errors.
* `AcceptedFixOperation.rebuilt` — an operation as the values of its fields.
* `package_survives_iff` — the rebuilt operation is the original exactly if two fields were never set.
-/

import Audisor.Fix.Stages
import Audisor.Json.Canonical
import Audisor.Lifecycle.Contracts

namespace Audisor.Operations

open Checked Json
open Audisor.Fix (AcceptedFixOperation Finding FixScopedManifest ImplementationPlan MinorIssue PlanStep
  Statement Table sampleFix tableJson textsJson)
open Audisor.Lifecycle (Raised iterate keyError runtimeError typeError)

/-! ### The package -/

mutual

/-- `_jsonable(value)`, of a value that is JSON. -/
def jsonable : Json → Json
  | .arr items => .arr (jsonableItems items)
  | .obj fields => .obj (jsonableFields fields)
  | value => value

def jsonableItems : List Json → List Json
  | [] => []
  | item :: rest => jsonable item :: jsonableItems rest

def jsonableFields : Dict → Dict
  | [] => []
  | (key, value) :: rest => (key, jsonable value) :: jsonableFields rest

end

/-- A value that may be `None`. -/
def optionalJson {α : Type} (write : α → Json) (value : Option α) : Json := value.elim .null write

/-- `_serialize_fix_operation(operation, fallback_operation_id)`: an instance of a dataclass is
written by `asdict` first. -/
def serializeFixOperation (operation : AcceptedFixOperation) : Dict :=
  [("operation_id", .str operation.operationId),
    ("findings", jsonable (.arr (operation.findings.map Finding.plain))),
    ("manifest", jsonable operation.manifest.plain),
    ("statements", jsonable (.arr (operation.statements.toList.map Statement.plain))),
    ("plan", jsonable operation.plan.plain),
    ("workspace_identity", jsonable (.obj operation.workspaceIdentity)),
    ("authority_context", jsonable (.obj operation.authorityContext)),
    ("aflow_analysis_request",
      optionalJson (fun request => jsonable (.obj request)) operation.aflowAnalysisRequest)]

/-! ### Dataclasses -/

/-- An instance of a dataclass: its class, and its fields in the order of the class. -/
structure Instance where
  className : String
  fields : Dict

/-- The fields a dataclass declares: those without a default, then those with one. -/
structure DataclassFields where
  className : String
  required : List String
  defaulted : Dict

def DataclassFields.names (cls : DataclassFields) : List String :=
  cls.required ++ cls.defaulted.map Prod.fst

/-- `type(value).__name__`. -/
def pythonType : Json → String
  | .null => "NoneType"
  | .bool _ => "bool"
  | .int _ => "int"
  | .float _ => "float"
  | .str _ => "str"
  | .arr _ => "list"
  | .obj _ => "dict"

def listedNames : List String → String
  | [] => ""
  | [name] => "'" ++ name ++ "'"
  | [first, last] => "'" ++ first ++ "' and '" ++ last ++ "'"
  | names => String.join (names.dropLast.map fun name => "'" ++ name ++ "', ") ++ "and '" ++
      names.getLastD "" ++ "'"

/-- `cls(**item)`. -/
def DataclassFields.construct (cls : DataclassFields) (item : Json) : Except Raised Instance :=
  match item with
  | .obj fields =>
    match fields.find? fun field => field.1 ∉ cls.names with
    | some field => .error (typeError
        (cls.className ++ ".__init__() got an unexpected keyword argument '" ++ field.1 ++ "'"))
    | none =>
      match cls.required.filter fun name => !hasKey fields name with
      | [] => .ok {
          className := cls.className
          fields := cls.required.map (fun name => (name, getD fields name .null)) ++
            cls.defaulted.map fun field => (field.1, getD fields field.1 field.2) }
      | missing => .error (typeError (cls.className ++ ".__init__() missing " ++
          String.ofList (renderInt missing.length) ++ " required positional argument" ++
          (if missing.length = 1 then "" else "s") ++ ": " ++ listedNames missing))
  | value => .error (typeError ("audisor_backend.schemas.fix.models." ++ cls.className ++
      "() argument after ** must be a mapping, not " ++ pythonType value))

def findingClass : DataclassFields :=
  ⟨"Finding", ["id", "type", "file", "severity", "evidence"], []⟩

def manifestClass : DataclassFields :=
  ⟨"FixScopedManifest", ["files", "dependency_closure", "input_hash"],
    [("file_hashes", .obj []), ("dependency_evidence", .obj [])]⟩

def statementClass : DataclassFields :=
  ⟨"Statement", ["type", "content", "findings_ref_hash", "manifest_ref_hash"], []⟩

def stepClass : DataclassFields :=
  ⟨"PlanStep", ["id", "action", "target_file", "originating_finding_id", "acceptance_criterion"], []⟩

def issueClass : DataclassFields := ⟨"MinorIssue", ["type", "step_id", "detail"], []⟩

/-! ### The operation rebuilt -/

/-- An `ImplementationPlan`, as the values of its fields. -/
structure RebuiltPlan where
  steps : List Instance
  targetFiles : Json
  isQualified : Json
  minorIssues : List Instance

/-- An `AcceptedFixOperation`, as the values of its fields. The dataclass checks none of them. -/
structure RebuiltOperation where
  operationId : Json
  findings : List Instance
  manifest : Instance
  statements : List Instance
  plan : RebuiltPlan
  workspaceIdentity : Json
  authorityContext : Json
  aflowAnalysisRequest : Json
  authorityDecisions : Json
  aflowAnalysisRequestPresent : Bool

/-- `value[key]`, of a value of any type. -/
def subscript (value : Json) (key : String) : Except Raised Json :=
  match value with
  | .obj fields =>
    match get? fields key with
    | some found => .ok found
    | none => .error (keyError key)
  | .str _ => .error (typeError "string indices must be integers, not 'str'")
  | .arr _ => .error (typeError "list indices must be integers or slices, not str")
  | other => .error (typeError ("'" ++ pythonType other ++ "' object is not subscriptable"))

/-- `value.get(key, fallback)`, of what has been subscripted with a text before. -/
def getField (value : Json) (key : String) (fallback : Json) : Json :=
  match value with
  | .obj fields => getD fields key fallback
  | _ => fallback

/-- `[cls(**item) for item in value]`. -/
def constructAll (cls : DataclassFields) (value : Json) : Except Raised (List Instance) := do
  let items ← iterate value
  items.mapM cls.construct

/-- The body of `_reconstruct_fix_operation`, where `audisor_backend` is installed. -/
def rebuildOperation (package : Json) : Except Raised RebuiltOperation := do
  let operationId ← subscript package "operation_id"
  let findings ← constructAll findingClass (← subscript package "findings")
  let manifest ← manifestClass.construct (← subscript package "manifest")
  let statements ← constructAll statementClass (← subscript package "statements")
  let planValue ← subscript package "plan"
  let steps ← constructAll stepClass (← subscript planValue "steps")
  let targetFiles ← subscript planValue "target_files"
  let isQualified ← subscript planValue "is_qualified"
  let minorIssues ← constructAll issueClass (getField planValue "minor_issues" (.arr []))
  let workspaceIdentity ← subscript package "workspace_identity"
  let authorityContext ← subscript package "authority_context"
  return {
    operationId, findings, manifest, statements
    plan := { steps, targetFiles, isQualified, minorIssues }
    workspaceIdentity, authorityContext
    aflowAnalysisRequest := getField package "aflow_analysis_request" .null
    authorityDecisions := getField package "authority_decisions" .null
    -- The flag is not passed on: it has its default.
    aflowAnalysisRequestPresent := false }

/-- `str(exc)`. -/
def excText (exc : Raised) : String :=
  if exc.typeName = "KeyError" then "'" ++ exc.message ++ "'" else exc.message

/-- `_reconstruct_fix_operation(package)`, of a package that is a dictionary. -/
def reconstructFixOperation (package : Dict) : Except Raised RebuiltOperation :=
  match rebuildOperation (.obj package) with
  | .ok operation => .ok operation
  | .error exc =>
    if exc.typeName = "KeyError" ∨ exc.typeName = "TypeError" ∨ exc.typeName = "ValueError" then
      .error (runtimeError {
        category := "validation"
        stage := "request_translation"
        code := "fix_contract_invalid"
        message := "Fix payload is not a valid typed operation: " ++ excText exc })
    else .error exc

/-! ### The original, as the values of its fields -/

/-- The fields of a record that `plain` writes. -/
def fieldsOf : Json → Dict
  | .obj fields => fields
  | _ => []

def findingInstance (finding : Finding) : Instance := ⟨"Finding", fieldsOf finding.plain⟩

def manifestInstance (manifest : FixScopedManifest) : Instance :=
  ⟨"FixScopedManifest", fieldsOf manifest.plain⟩

def statementInstance (statement : Statement) : Instance := ⟨"Statement", fieldsOf statement.plain⟩

def stepInstance (step : PlanStep) : Instance := ⟨"PlanStep", fieldsOf step.plain⟩

def issueInstance (issue : MinorIssue) : Instance := ⟨"MinorIssue", fieldsOf issue.plain⟩

def valuesOf (operation : AcceptedFixOperation) : RebuiltOperation where
  operationId := .str operation.operationId
  findings := operation.findings.map findingInstance
  manifest := manifestInstance operation.manifest
  statements := operation.statements.toList.map statementInstance
  plan := {
    steps := operation.plan.steps.map stepInstance
    targetFiles := textsJson operation.plan.targetFiles
    isQualified := .bool operation.plan.isQualified
    minorIssues := operation.plan.minorIssues.map issueInstance }
  workspaceIdentity := .obj operation.workspaceIdentity
  authorityContext := .obj operation.authorityContext
  aflowAnalysisRequest := optionalJson .obj operation.aflowAnalysisRequest
  authorityDecisions := optionalJson (tableJson id) operation.authorityDecisions
  aflowAnalysisRequestPresent := operation.aflowAnalysisRequestPresent

/-! ### What survives -/

mutual

theorem jsonable_eq : ∀ value : Json, jsonable value = value
  | .null => rfl
  | .bool _ => rfl
  | .int _ => rfl
  | .float _ => rfl
  | .str _ => rfl
  | .arr items => congrArg Json.arr (jsonableItems_eq items)
  | .obj fields => congrArg Json.obj (jsonableFields_eq fields)

theorem jsonableItems_eq : ∀ items : List Json, jsonableItems items = items
  | [] => rfl
  | item :: rest => by rw [jsonableItems, jsonable_eq item, jsonableItems_eq rest]

theorem jsonableFields_eq : ∀ fields : Dict, jsonableFields fields = fields
  | [] => rfl
  | (key, value) :: rest => by rw [jsonableFields, jsonable_eq value, jsonableFields_eq rest]

end

theorem map_getD {fields : Dict} (distinct : (fields.map Prod.fst).Nodup) :
    ((fields.map Prod.fst).map fun name => (name, getD fields name .null)) = fields := by
  rw [List.map_map]
  conv_rhs => rw [← List.map_id fields]
  refine List.map_congr_left fun field member => ?_
  show (field.1, getD fields field.1 .null) = field
  rw [getD, (get?_iff_mem distinct).mpr member]
  rfl

/-- **A record with the fields of a class, in their order, is rebuilt as it is.** -/
theorem construct_fields {cls : DataclassFields} {fields : Dict}
    (stated : fields.map Prod.fst = cls.names) (distinct : cls.names.Nodup) :
    cls.construct (.obj fields) = .ok ⟨cls.className, fields⟩ := by
  have held {name : String} (named : name ∈ cls.names) : ∃ value, get? fields name = some value := by
    rw [← stated] at named
    obtain ⟨field, member, rfl⟩ := List.mem_map.mp named
    exact ⟨field.2, (get?_iff_mem (stated ▸ distinct)).mpr member⟩
  have expected : fields.find? (fun field => field.1 ∉ cls.names) = none := by
    refine List.find?_eq_none.mpr fun field member => ?_
    have named : field.1 ∈ cls.names := stated ▸ List.mem_map_of_mem member
    simpa using named
  have complete : cls.required.filter (fun name => !hasKey fields name) = [] := by
    refine List.filter_eq_nil_iff.mpr fun name named => ?_
    obtain ⟨value, found⟩ := held (List.mem_append_left _ named)
    simp [hasKey, found]
  have defaults : (cls.defaulted.map fun field => (field.1, getD fields field.1 field.2)) =
      (cls.defaulted.map Prod.fst).map fun name => (name, getD fields name .null) := by
    rw [List.map_map]
    refine List.map_congr_left fun field member => ?_
    obtain ⟨value, found⟩ := held (List.mem_append_right _ (List.mem_map_of_mem member))
    show (field.1, getD fields field.1 field.2) = (field.1, getD fields field.1 .null)
    rw [getD, getD, found]
    rfl
  unfold DataclassFields.construct
  simp only [expected, complete]
  rw [defaults, ← List.map_append, ← DataclassFields.names, ← stated, map_getD (stated ▸ distinct)]

theorem constructAll_map {α : Type} {cls : DataclassFields} {plain : α → Json} {rebuilt : α → Instance}
    (each : ∀ item, cls.construct (plain item) = .ok (rebuilt item)) (items : List α) :
    constructAll cls (.arr (items.map plain)) = .ok (items.map rebuilt) :=
  mapM_map fun item _ => each item

theorem construct_finding (finding : Finding) :
    findingClass.construct finding.plain = .ok (findingInstance finding) :=
  construct_fields rfl (by decide)

theorem construct_manifest (manifest : FixScopedManifest) :
    manifestClass.construct manifest.plain = .ok (manifestInstance manifest) :=
  construct_fields rfl (by decide)

theorem construct_statement (statement : Statement) :
    statementClass.construct statement.plain = .ok (statementInstance statement) :=
  construct_fields rfl (by decide)

theorem construct_step (step : PlanStep) : stepClass.construct step.plain = .ok (stepInstance step) :=
  construct_fields rfl (by decide)

theorem construct_issue (issue : MinorIssue) :
    issueClass.construct issue.plain = .ok (issueInstance issue) :=
  construct_fields rfl (by decide)

/-- **What every package is rebuilt as**: the original, without the decisions and without the flag. -/
theorem reconstruct_serialize (operation : AcceptedFixOperation) :
    reconstructFixOperation (serializeFixOperation operation) =
      .ok { valuesOf operation with
            authorityDecisions := .null
            aflowAnalysisRequestPresent := false } := by
  have rebuilt : rebuildOperation (.obj (serializeFixOperation operation)) =
      .ok { valuesOf operation with
            authorityDecisions := .null
            aflowAnalysisRequestPresent := false } := by
    unfold rebuildOperation serializeFixOperation
    simp only [jsonable_eq]
    refine bind_eq_ok.mpr ⟨_, rfl, bind_eq_ok.mpr ⟨_, rfl, ?_⟩⟩
    refine bind_eq_ok.mpr ⟨_, constructAll_map construct_finding _, ?_⟩
    refine bind_eq_ok.mpr ⟨_, rfl, bind_eq_ok.mpr ⟨_, construct_manifest _, ?_⟩⟩
    refine bind_eq_ok.mpr ⟨_, rfl, bind_eq_ok.mpr ⟨_, constructAll_map construct_statement _, ?_⟩⟩
    refine bind_eq_ok.mpr ⟨_, rfl, bind_eq_ok.mpr ⟨_, rfl, ?_⟩⟩
    refine bind_eq_ok.mpr ⟨_, constructAll_map construct_step _, ?_⟩
    refine bind_eq_ok.mpr ⟨_, rfl, bind_eq_ok.mpr ⟨_, rfl, ?_⟩⟩
    refine bind_eq_ok.mpr ⟨_, constructAll_map construct_issue _, ?_⟩
    refine bind_eq_ok.mpr ⟨_, rfl, bind_eq_ok.mpr ⟨_, rfl, ?_⟩⟩
    rfl
  rw [reconstructFixOperation, rebuilt]

/-- **When a Fix package survives its translation**: exactly if the operation carries no decisions, and
does not state that a request was supplied. -/
theorem package_survives_iff (operation : AcceptedFixOperation) :
    reconstructFixOperation (serializeFixOperation operation) = .ok (valuesOf operation) ↔
      operation.authorityDecisions = none ∧ operation.aflowAnalysisRequestPresent = false := by
  rw [reconstruct_serialize, Except.ok.injEq]
  constructor
  · intro same
    have decisions : Json.null = optionalJson (tableJson id) operation.authorityDecisions :=
      congrArg RebuiltOperation.authorityDecisions same
    have present : false = operation.aflowAnalysisRequestPresent :=
      congrArg RebuiltOperation.aflowAnalysisRequestPresent same
    refine ⟨?_, present.symm⟩
    cases held : operation.authorityDecisions with
    | none => rfl
    | some table =>
      rw [held] at decisions
      cases decisions
  · rintro ⟨decisions, present⟩
    unfold valuesOf
    rw [decisions, present]
    rfl

/-! ### A decision that is lost -/

def decidedFinding : Finding where
  id := "F-1"
  type := "authority.competing_authority_path"
  file := "src/app.py"
  severity := "high"
  evidence := .obj []

def userDecision : Table Json :=
  AList.singleton "F-1" (.obj [("decision_kind", .str "select_authoritative_path"),
    ("selected_value", .str "src/app.py"), ("source", .str "user")])

def decidedFix : AcceptedFixOperation := sampleFix decidedFinding (some userDecision)

/-- An operation that states `null` for its request. -/
def nullRequestFix : AcceptedFixOperation :=
  { sampleFix decidedFinding none with aflowAnalysisRequestPresent := true }

/-- The decision is not in the package, and neither is it known that a `null` was supplied. -/
theorem decision_lost :
    (∃ rebuilt, reconstructFixOperation (serializeFixOperation decidedFix) = .ok rebuilt ∧
      rebuilt.authorityDecisions = .null ∧ (valuesOf decidedFix).authorityDecisions =
        .obj [("F-1", .obj [("decision_kind", .str "select_authoritative_path"),
          ("selected_value", .str "src/app.py"), ("source", .str "user")])]) ∧
      ∃ rebuilt, reconstructFixOperation (serializeFixOperation nullRequestFix) = .ok rebuilt ∧
        rebuilt.aflowAnalysisRequestPresent = false ∧
        (valuesOf nullRequestFix).aflowAnalysisRequestPresent = true :=
  ⟨⟨_, reconstruct_serialize decidedFix, rfl, rfl⟩, _, reconstruct_serialize nullRequestFix, rfl, rfl⟩

end Audisor.Operations
