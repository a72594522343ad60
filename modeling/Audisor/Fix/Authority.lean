/-
**Which findings need a decision, and which decisions satisfy them.**

* `authorityPolicy` — the finding types that need a decision, with the kind of the decision.
* `readDecisions` — the decisions an operation carries, as `AuthorityDecision.from_mapping` reads them.
* `evaluateAuthority` — the requirements that are resolved, and those that are not.
* **`evaluateAuthority_pass`** — the evaluation passes exactly when each finding that needs a decision
  has one of the required kind.
-/

import Audisor.Fix.Records
import Audisor.Json.Str

namespace Audisor.Fix

open Json

/-! ### The policy -/

structure AuthorityRequirement where
  findingType : String
  decisionKind : String
  description : String
  allowedOptions : List String
  alwaysRequired : Bool

def authorityPolicy : List (String × AuthorityRequirement) :=
  [("authority.competing_authority_path",
      { findingType := "authority.competing_authority_path"
        decisionKind := "select_authoritative_path"
        description :=
          "Select the authoritative path when multiple authority-named modules exist"
        allowedOptions := []
        alwaysRequired := true }),
    ("structure.duplicate_implementation",
      { findingType := "structure.duplicate_implementation"
        decisionKind := "select_canonical_implementation"
        description :=
          "Select the canonical implementation when repository evidence cannot establish one"
        allowedOptions := []
        alwaysRequired := false }),
    ("security.hardcoded_secret",
      { findingType := "security.hardcoded_secret"
        decisionKind := "confirm_credential_disposition"
        description := "Code removal is implementation work; credential rotation or revocation " ++
          "remains an explicit external decision"
        allowedOptions := []
        alwaysRequired := true })]

/-- `AUTHORITY_POLICY.get(finding_type)`. -/
def authorityRequirement (findingType : String) : Option AuthorityRequirement :=
  authorityPolicy.lookup findingType

/-! ### Decisions -/

structure AuthorityDecision where
  findingId : String
  decisionKind : String
  selectedValue : String
  source : Json

/-- `value[key]`, or the `KeyError`. -/
def required (value : Dict) (key : String) : Except String Json :=
  match get? value key with
  | some found => .ok found
  | none => .error ("KeyError: '" ++ key ++ "'")

/-- `AuthorityDecision.from_mapping(value)`. -/
def AuthorityDecision.fromMapping (repr : PythonRepr) (value : Dict) : Except String AuthorityDecision := do
  let findingId ← required value "finding_id"
  let decisionKind ← required value "decision_kind"
  let selectedValue ← required value "selected_value"
  return {
    findingId := strOf repr findingId
    decisionKind := strOf repr decisionKind
    selectedValue := strOf repr selectedValue
    source := getD value "source" (.str "user") }

/-- The decisions of an operation, under the ids they are given for. What is no mapping is passed
over. -/
def readDecisions (repr : PythonRepr) :
    List (Σ _ : String, Json) → Except String (List (String × AuthorityDecision))
  | [] => .ok []
  | ⟨findingId, .obj value⟩ :: rest => do
    let decision ← AuthorityDecision.fromMapping repr value
    let others ← readDecisions repr rest
    return (findingId, decision) :: others
  | _ :: rest => readDecisions repr rest

/-! ### The evaluation -/

/-- The decision that satisfies a requirement on a finding. -/
def satisfying (decisions : List (String × AuthorityDecision)) (finding : Finding)
    (requirement : AuthorityRequirement) : Option AuthorityDecision :=
  match decisions.lookup finding.id with
  | some decision => if decision.decisionKind = requirement.decisionKind then some decision else none
  | none => none

def resolvedEntry (decisions : List (String × AuthorityDecision)) (finding : Finding) : Option Json :=
  match authorityRequirement finding.type with
  | none => none
  | some requirement =>
    (satisfying decisions finding requirement).map fun decision =>
      .obj [("finding_id", .str finding.id), ("finding_type", .str finding.type),
        ("decision_kind", .str requirement.decisionKind),
        ("selected_value", .str decision.selectedValue), ("source", decision.source)]

def unresolvedEntry (decisions : List (String × AuthorityDecision)) (finding : Finding) :
    Option Json :=
  match authorityRequirement finding.type with
  | none => none
  | some requirement =>
    if (satisfying decisions finding requirement).isSome then none
    else
      some (.obj [("finding_id", .str finding.id), ("finding_type", .str finding.type),
        ("decision_kind", .str requirement.decisionKind),
        ("description", .str requirement.description), ("evidence", .obj finding.evidenceFields)])

inductive AuthorityStatus where
  | pass | decisionRequired
  deriving DecidableEq, Repr

def AuthorityStatus.value : AuthorityStatus → String
  | .pass => "pass"
  | .decisionRequired => "decision_required"

structure AuthorityEvaluation where
  resolvedRequirements : List Json
  unresolvedRequirements : List Json
  status : AuthorityStatus

def AuthorityEvaluation.toMapping (evaluation : AuthorityEvaluation) : Json :=
  .obj [("resolved_requirements", .arr evaluation.resolvedRequirements),
    ("unresolved_requirements", .arr evaluation.unresolvedRequirements),
    ("status", .str evaluation.status.value)]

def evaluateAuthority (findings : List Finding) (decisions : List (String × AuthorityDecision)) :
    AuthorityEvaluation :=
  let unresolved := findings.filterMap (unresolvedEntry decisions)
  { resolvedRequirements := findings.filterMap (resolvedEntry decisions)
    unresolvedRequirements := unresolved
    status := if unresolved.isEmpty then .pass else .decisionRequired }

/-! ### What a pass means -/

theorem authorityRequirement_isWord {findingType : String} {requirement : AuthorityRequirement}
    (needed : authorityRequirement findingType = some requirement) :
    isWord requirement.decisionKind = true := by
  have words : (authorityPolicy.all fun entry => isWord entry.2.decisionKind) = true := by decide
  obtain ⟨before, after, policy, -⟩ := List.lookup_eq_some_iff.mp needed
  have listed : (findingType, requirement) ∈ authorityPolicy := by simp [policy]
  exact List.all_eq_true.mp words (findingType, requirement) listed

theorem satisfying_eq_some {decisions : List (String × AuthorityDecision)} {finding : Finding}
    {requirement : AuthorityRequirement} {decision : AuthorityDecision} :
    satisfying decisions finding requirement = some decision ↔
      decisions.lookup finding.id = some decision ∧
        decision.decisionKind = requirement.decisionKind := by
  unfold satisfying
  cases decisions.lookup finding.id with
  | none => simp
  | some held =>
    simp only [Option.ite_none_right_eq_some, Option.some.injEq]
    exact ⟨fun ⟨kind, same⟩ => ⟨same, same ▸ kind⟩, fun ⟨same, kind⟩ => ⟨same ▸ kind, same⟩⟩

theorem unresolvedEntry_eq_none {decisions : List (String × AuthorityDecision)} {finding : Finding} :
    unresolvedEntry decisions finding = none ↔
      ∀ requirement, authorityRequirement finding.type = some requirement →
        (satisfying decisions finding requirement).isSome := by
  unfold unresolvedEntry
  cases authorityRequirement finding.type <;> simp [Option.isSome_iff_ne_none]

/-- **The evaluation passes when every finding that needs a decision has one.** -/
theorem evaluateAuthority_pass {findings : List Finding}
    {decisions : List (String × AuthorityDecision)} :
    (evaluateAuthority findings decisions).status = .pass ↔
      ∀ finding ∈ findings, ∀ requirement, authorityRequirement finding.type = some requirement →
        (satisfying decisions finding requirement).isSome := by
  unfold evaluateAuthority
  simp only [ite_eq_left_iff, reduceCtorEq, imp_false, not_not, List.isEmpty_iff,
    List.filterMap_eq_nil_iff, unresolvedEntry_eq_none]

/-! ### The decisions an operation holds -/

/-- The operation holds a decision of the required kind for the finding. -/
def Decided (decisions : Option (Table Json)) (finding : Finding)
    (requirement : AuthorityRequirement) : Prop :=
  ∃ held value, decisions = some held ∧ held.lookup finding.id = some (.obj value) ∧
    get? value "decision_kind" = some (.str requirement.decisionKind)

theorem required_eq_ok {value : Dict} {key : String} {found : Json} :
    required value key = .ok found ↔ get? value key = some found := by
  unfold required
  cases get? value key <;> simp

theorem AuthorityDecision.fromMapping_kind {repr : PythonRepr} {value : Dict}
    {decision : AuthorityDecision} (read : fromMapping repr value = .ok decision) :
    ∃ kind, get? value "decision_kind" = some kind ∧ decision.decisionKind = strOf repr kind := by
  unfold fromMapping at read
  cases id : required value "finding_id" with
  | error message => rw [id] at read; cases read
  | ok findingId =>
    cases kinds : required value "decision_kind" with
    | error message => rw [id, kinds] at read; cases read
    | ok kind =>
      cases chosen : required value "selected_value" with
      | error message => rw [id, kinds, chosen] at read; cases read
      | ok selected =>
        rw [id, kinds, chosen] at read
        cases read
        exact ⟨kind, required_eq_ok.mp kinds, rfl⟩

theorem mem_of_readDecisions {repr : PythonRepr} {entries : List (Σ _ : String, Json)}
    {decisions : List (String × AuthorityDecision)} (read : readDecisions repr entries = .ok decisions)
    {findingId : String} {decision : AuthorityDecision}
    (found : decisions.lookup findingId = some decision) :
    ∃ value, (⟨findingId, .obj value⟩ : Σ _ : String, Json) ∈ entries ∧
      AuthorityDecision.fromMapping repr value = .ok decision := by
  induction entries generalizing decisions with
  | nil =>
    cases read
    cases found
  | cons entry rest ih =>
    obtain ⟨own, stated⟩ := entry
    have passed : ∀ {later}, readDecisions repr rest = .ok later → later.lookup findingId = some decision →
        ∃ value, (⟨findingId, .obj value⟩ : Σ _ : String, Json) ∈ ⟨own, stated⟩ :: rest ∧
          AuthorityDecision.fromMapping repr value = .ok decision := fun read found =>
      (ih read found).imp fun _ both => ⟨List.mem_cons_of_mem _ both.1, both.2⟩
    cases stated with
    | obj value =>
      rw [readDecisions] at read
      cases here : AuthorityDecision.fromMapping repr value with
      | error message => rw [here] at read; cases read
      | ok own_decision =>
        cases later : readDecisions repr rest with
        | error message => rw [here, later] at read; cases read
        | ok others =>
          rw [here, later] at read
          cases read
          by_cases same : findingId = own
          · subst same
            rw [List.lookup_cons_self, Option.some.injEq] at found
            exact ⟨value, List.mem_cons_self, found ▸ here⟩
          · rw [List.lookup_cons, beq_eq_false_iff_ne.mpr same] at found
            exact passed later found
    | _ => exact passed read found

/-- **A satisfying decision that was read is held by the operation.** -/
theorem decided_of_satisfying {repr : PythonRepr} {held : Table Json}
    {decisions : List (String × AuthorityDecision)}
    (read : readDecisions repr held.entries = .ok decisions) {finding : Finding}
    {requirement : AuthorityRequirement}
    (needed : authorityRequirement finding.type = some requirement)
    (satisfied : (satisfying decisions finding requirement).isSome) :
    Decided (some held) finding requirement := by
  obtain ⟨decision, found⟩ := Option.isSome_iff_exists.mp satisfied
  obtain ⟨listed, kind⟩ := satisfying_eq_some.mp found
  obtain ⟨value, member, mapped⟩ := mem_of_readDecisions read listed
  obtain ⟨stated, named, shown⟩ := AuthorityDecision.fromMapping_kind mapped
  have word := (strOf_eq_iff repr (authorityRequirement_isWord needed)).mp (shown.symm.trans kind)
  exact ⟨held, value, rfl, AList.mem_lookup_iff.mpr member, named.trans (congrArg some word)⟩

end Audisor.Fix
