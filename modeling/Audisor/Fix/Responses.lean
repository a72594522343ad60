/-
**What an accepted response of the model guarantees.**

* `SuccessDefinition.Complete` — the checks are concrete and cover the findings, and the validations are
  concrete with distinct ids. `successDefinitionFromJson_complete` reads it off the parser.
* `FindingCheckGrounding.Typed`, `ValidationGrounding.Typed` — commands have tokens, other sources have
  none. `resolveGrounding_typed` reads it off the resolver.
* **`invokeLocalFix_sound`** — both, for every response that the boundary accepts.
-/

import Audisor.Fix.LocalFix
import Audisor.Json.Scan
import Mathlib.Data.List.Dedup

namespace Audisor.Fix

open Checked Json Text

/-! ### The answer -/

/-- **An object that is written out is read back.** -/
theorem oneJsonObject_dumps (style : Style) (fields : Dict) :
    oneJsonObject (some (dumps (.obj fields) style)) = .ok fields := by
  obtain ⟨front, closes, -⟩ := renderFields_scan style fields
  have text : (dumps (.obj fields) style).toList = '{' :: (front ++ ['}']) := by
    rw [dumps, String.toList_ofList, render, closes]
  have stripped : strip ('{' :: (front ++ ['}'])) = '{' :: (front ++ ['}']) := by
    rw [strip_opens (by decide), List.rdropWhile_concat_neg _ _ _ (by decide)]
  have opens : fence.isPrefixOf ('{' :: (front ++ ['}'])) = false := rfl
  have ends : fence.isSuffixOf ('{' :: (front ++ ['}'])) = false := by
    rw [List.isSuffixOf, List.reverse_cons, List.reverse_append]
    rfl
  have read : loads (String.ofList ('{' :: (front ++ ['}']))) = some (.obj fields) := by
    rw [← text, String.ofList_toList, loads_dumps]
  unfold oneJsonObject
  simp only [text, stripped]
  rw [if_neg (by simp), if_neg (by simp [opens, ends]), read]

/-! ### Concrete texts -/

theorem concreteText_eq_some {fields : Dict} {key text : String}
    (read : concreteText fields key = some text) : isBlank text = false := by
  unfold concreteText at read
  split at read
  · split_ifs at read with blank
    cases read
    exact Bool.not_eq_true _ ▸ blank
  · cases read

theorem concreteText_of_get? {fields : Dict} {key text : String}
    (stated : get? fields key = some (.str text)) (concrete : isBlank text = false) :
    concreteText fields key = some text := by
  unfold concreteText
  rw [stated]
  exact if_neg (by rw [concrete]; decide)

/-! ### The success definition -/

structure FindingCheck.Concrete (findingIds : List String) (check : FindingCheck) : Prop where
  known : check.findingId ∈ findingIds
  method : check.resolutionMethod ∈ resolutionMethods
  checked : isBlank check.check = false
  expected : isBlank check.expectedResult = false

structure ValidationSpec.Concrete (validation : ValidationSpec) : Prop where
  named : isBlank validation.id = false
  checked : isBlank validation.commandOrAssertion = false
  expected : isBlank validation.expectedResult = false

/-- A success definition as the boundary accepts it. -/
structure SuccessDefinition.Complete (findingIds : List String) (success : SuccessDefinition) :
    Prop where
  some : success.findingChecks ≠ []
  checks : ∀ check ∈ success.findingChecks, check.Concrete findingIds
  covers : ∀ id ∈ findingIds, id ∈ success.findingChecks.map FindingCheck.findingId
  validations : ∀ validation ∈ success.validations, validation.Concrete
  distinct : (success.validations.map ValidationSpec.id).Nodup
  rule : isBlank success.successRule = false

theorem isResolutionMethod_eq_some {value : Json} {method : String}
    (read : isResolutionMethod value = some method) : method ∈ resolutionMethods := by
  unfold isResolutionMethod at read
  split at read
  · split_ifs at read with listed
    cases read
    exact listed
  · cases read

theorem checkFromJson_concrete {repr : PythonRepr} {findingIds : List String} {item : Json}
    {check : FindingCheck} (read : checkFromJson repr findingIds item = .ok check) :
    check.Concrete findingIds := by
  unfold checkFromJson at read
  split at read
  · split at read
    · cases read
    · split_ifs at read with known
      split at read
      · cases read
      · rename_i method stated
        split at read
        · cases read
        · rename_i checked concrete
          split at read
          · cases read
          · rename_i expected written
            cases read
            exact ⟨known, isResolutionMethod_eq_some stated,
              concreteText_eq_some concrete, concreteText_eq_some written⟩
  · cases read

theorem validationFromJson_concrete {seenIds : List String} {item : Json}
    {validation : ValidationSpec} (read : validationFromJson seenIds item = .ok validation) :
    validation.Concrete ∧ validation.id ∉ seenIds := by
  unfold validationFromJson at read
  split at read
  · split at read
    · cases read
    · rename_i id named
      split_ifs at read with seen
      split at read
      · cases read
      · rename_i command checked
        split at read
        · cases read
        · rename_i expected written
          cases read
          exact ⟨⟨concreteText_eq_some named, concreteText_eq_some checked,
            concreteText_eq_some written⟩, seen⟩
  · cases read

/-- **The validations are concrete, and their ids are distinct and not seen before.** -/
theorem validationsFromJson_concrete {seenIds : List String} {items : List Json}
    {validations : List ValidationSpec} (read : validationsFromJson seenIds items = .ok validations) :
    (∀ validation ∈ validations, validation.Concrete ∧ validation.id ∉ seenIds) ∧
      (validations.map ValidationSpec.id).Nodup := by
  induction items generalizing seenIds validations with
  | nil =>
    cases read
    exact ⟨nofun, List.nodup_nil⟩
  | cons item rest ih =>
    rw [validationsFromJson] at read
    simp only [bind_eq_ok, pure_eq_ok] at read
    obtain ⟨validation, here, others, there, rfl⟩ := read
    obtain ⟨concrete, unseen⟩ := validationFromJson_concrete here
    obtain ⟨each, distinct⟩ := ih there
    refine ⟨List.forall_mem_cons.mpr ⟨⟨concrete, unseen⟩, fun other member => ?_⟩, ?_⟩
    · exact ⟨(each other member).1, fun seen => (each other member).2 (List.mem_cons_of_mem _ seen)⟩
    · rw [List.map_cons, List.nodup_cons]
      refine ⟨fun repeated => ?_, distinct⟩
      obtain ⟨other, member, same⟩ := List.mem_map.mp repeated
      exact (each other member).2 (same ▸ List.mem_cons_self)

theorem covers_of_uncovered {findingIds : List String} {checks : List FindingCheck}
    (none : uncovered findingIds checks = []) :
    ∀ id ∈ findingIds, id ∈ checks.map FindingCheck.findingId := by
  intro id member
  have covered := List.filter_eq_nil_iff.mp none id (List.mem_dedup.mpr member)
  simpa using covered

/-- **An accepted success definition is complete.** -/
theorem successDefinitionFromJson_complete {repr : PythonRepr} {value : Json}
    {findings : List Finding} {success : SuccessDefinition}
    (read : successDefinitionFromJson repr value findings = .ok success) :
    success.Complete (findings.map Finding.id) := by
  unfold successDefinitionFromJson at read
  dsimp only at read
  split at read
  · split at read
    · rename_i first others stated
      simp only [bind_eq_ok, refuse_eq_ok, not_not, exists_const] at read
      obtain ⟨checks, checked, covered, read⟩ := read
      have each := mapM_eq_ok.mp checked
      split at read
      · obtain ⟨validations, validated, read⟩ := bind_eq_ok.mp read
        split at read
        · split at read
          · rename_i rule concrete
            cases read
            obtain ⟨concretes, distinct⟩ := validationsFromJson_concrete validated
            refine ⟨?_, fun check member => ?_, covers_of_uncovered covered,
              fun validation member => (concretes validation member).1, distinct,
              concreteText_eq_some concrete⟩
            · rintro rfl
              cases each
            · obtain ⟨index, bound, rfl⟩ := List.getElem_of_mem member
              have here := (List.forall₂_iff_get.mp each).2 index
                (by rw [(List.forall₂_iff_get.mp each).1]; exact bound) bound
              exact checkFromJson_concrete here
          · cases read
        · cases read
      · cases read
    · cases read
  · cases read

/-! ### The grounding -/

def FindingCheckGrounding.Typed (grounding : FindingCheckGrounding) : Prop :=
  match grounding.sourceType with
  | .scannerCheck | .planAcceptance | .deterministicAssertion => grounding.authorizedTokens = none
  | .recordedTest => grounding.authorizedTokens.isSome = true
  | .configuredTest => False

/-- Only a command has tokens, and the scanner grounds no validation. -/
def ValidationGrounding.Typed (grounding : ValidationGrounding) : Prop :=
  match grounding.sourceType with
  | .deterministicAssertion => grounding.authorizedTokens = none
  | .recordedTest | .configuredTest => grounding.authorizedTokens.isSome = true
  | .scannerCheck | .planAcceptance => False

theorem groundFindingCheck_typed {repr : PythonRepr} {findings : List Finding}
    {allowedPaths : List String} {catalog : ValidationSourceCatalog} {check : FindingCheck}
    {grounding : FindingCheckGrounding}
    (grounded : groundFindingCheck repr findings allowedPaths catalog check = .ok grounding) :
    grounding.Typed ∧ grounding.findingId = check.findingId := by
  unfold groundFindingCheck at grounded
  dsimp only at grounded
  split at grounded
  · cases grounded
  · split at grounded
    · cases grounded
      exact ⟨rfl, rfl⟩
    · split at grounded
      · cases grounded
        exact ⟨rfl, rfl⟩
      · split at grounded
        · split_ifs at grounded <;> cases grounded <;> exact ⟨rfl, rfl⟩
        · split at grounded
          · split_ifs at grounded
            cases grounded
            exact ⟨rfl, rfl⟩
          · cases grounded

theorem groundValidation_typed {repr : PythonRepr} {allowedPaths : List String}
    {catalog : ValidationSourceCatalog} {validation : ValidationSpec}
    {grounding : ValidationGrounding}
    (grounded : groundValidation repr allowedPaths catalog validation = .ok grounding) :
    grounding.Typed ∧ grounding.validationId = validation.id := by
  unfold groundValidation at grounded
  dsimp only at grounded
  split at grounded
  · split_ifs at grounded
    cases grounded
    exact ⟨rfl, rfl⟩
  · split at grounded <;> cases grounded <;> exact ⟨rfl, rfl⟩

/-- A grounding that has one typed record for each entry of its success definition. -/
structure VerificationGrounding.Grounds (grounding : VerificationGrounding)
    (success : SuccessDefinition) : Prop where
  checks : List.Forall₂ (fun (check : FindingCheck) (record : FindingCheckGrounding) =>
    record.Typed ∧ record.findingId = check.findingId) success.findingChecks grounding.findingChecks
  validations : List.Forall₂ (fun (validation : ValidationSpec) (record : ValidationGrounding) =>
    record.Typed ∧ record.validationId = validation.id) success.validations grounding.validations

/-- **The resolver grounds every entry.** -/
theorem resolveGrounding_grounds {repr : PythonRepr} {findings : List Finding}
    {manifest : FixScopedManifest} {success : SuccessDefinition} {catalog : ValidationSourceCatalog}
    {grounding : VerificationGrounding}
    (resolved : resolveGrounding repr findings manifest success catalog = .ok grounding) :
    grounding.Grounds success ∧ success.successRule = requiredSuccessRule := by
  unfold resolveGrounding at resolved
  simp only [bind_eq_ok, refuse_eq_ok, not_not, exists_const, pure_eq_ok] at resolved
  obtain ⟨rule, checks, checked, validations, validated, rfl⟩ := resolved
  exact ⟨⟨(mapM_eq_ok.mp checked).imp fun _ _ => groundFindingCheck_typed,
    (mapM_eq_ok.mp validated).imp fun _ _ => groundValidation_typed⟩, rule⟩

/-- **What every accepted response guarantees.** -/
theorem invokeLocalFix_sound {repr : PythonRepr} {reply : WorkerReply} {plan : ImplementationPlan}
    {findings : List Finding} {manifest : FixScopedManifest} {commands : List (List String)}
    {result : FixIgnitionResult}
    (accepted : invokeLocalFix repr reply plan findings manifest commands = .ok result) :
    result.successDefinition.Complete (findings.map Finding.id) ∧
      result.verificationGrounding.Grounds result.successDefinition := by
  unfold invokeLocalFix at accepted
  split at accepted
  · cases accepted
  · obtain ⟨fields, -, read⟩ := bind_eq_ok.mp accepted
    unfold readResponse at read
    simp only [bind_eq_ok, pure_eq_ok] at read
    obtain ⟨-, -, eligible, -, candidate, -, -, -, success, parsed, grounding, grounded, rfl⟩ := read
    refine ⟨successDefinitionFromJson_complete parsed, ?_⟩
    unfold groundResponse at grounded
    split at grounded
    · rename_i resolved
      cases grounded
      exact (resolveGrounding_grounds resolved).1
    · cases grounded

end Audisor.Fix
