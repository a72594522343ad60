/-
**Which grounding decides a finding check.**

* `FindingCheckGrounding.source` — what the verifier reads of a grounding. `sourceFor` — what the resolver
  gives a check: from its finding alone, or from its text.
* `OwnVerdicts` — each finding check is evaluated as with its own grounding alone, and so are all of them.
* `AlikeChecks` — the checks of one finding have one text, unless the scanner or the plan grounds them.
* **`own_verdicts_iff`** — the verifier evaluates each check with its own grounding exactly when the checks
  of one finding are alike: it keeps one grounding for each finding, the last.
-/

import Audisor.Fix.CommandAuthority

namespace Audisor.Fix

open Checked Interaction Json Text

/-! ### What the verifier reads -/

def FindingCheck.fields (check : FindingCheck) : Dict :=
  [("finding_id", .str check.findingId), ("resolution_method", .str check.resolutionMethod),
    ("check", .str check.check), ("expected_result", .str check.expectedResult)]

def FindingCheckGrounding.fields (grounding : FindingCheckGrounding) : Dict :=
  [("finding_id", .str grounding.findingId),
    ("resolution_method", .str grounding.resolutionMethod),
    ("source_type", .str grounding.sourceType.value),
    ("source_reference", .str grounding.sourceReference),
    ("authorized_tokens", tokensJson grounding.authorizedTokens),
    ("scoped_paths", textsJson grounding.scopedPaths)]

/-- What grounds a check: the kind of its source, its reference, its tokens and its paths. -/
structure GroundingSource where
  sourceType : GroundingType
  sourceReference : String
  authorizedTokens : Option (List String)
  scopedPaths : List String

def FindingCheckGrounding.source (grounding : FindingCheckGrounding) : GroundingSource where
  sourceType := grounding.sourceType
  sourceReference := grounding.sourceReference
  authorizedTokens := grounding.authorizedTokens
  scopedPaths := grounding.scopedPaths

theorem objectsOf_groundings (groundings : List FindingCheckGrounding) :
    objectsOf (groundings.map FindingCheckGrounding.toMapping) =
      groundings.map FindingCheckGrounding.fields := by
  induction groundings with
  | nil => rfl
  | cons grounding rest ih =>
    rw [List.map_cons, List.map_cons, ← ih]
    rfl

def lastGrounding (groundings : List FindingCheckGrounding) (id : String) : Option FindingCheckGrounding :=
  groundings.reverse.find? fun grounding => grounding.findingId = id

/-- **The verifier finds the last grounding of a finding.** -/
theorem groundingOf_groundings (groundings : List FindingCheckGrounding) (id : String) :
    groundingOf "finding_id" (groundings.map FindingCheckGrounding.toMapping) id =
      (lastGrounding groundings id).map FindingCheckGrounding.fields := by
  rw [groundingOf, objectsOf_groundings, ← List.map_reverse, List.find?_map, lastGrounding]
  congr 2
  funext grounding
  have stated : get? grounding.fields "finding_id" = some (.str grounding.findingId) := rfl
  simp only [Function.comp_apply, stated, Option.some.injEq, Json.str.injEq]

section Evaluation

variable {repr : PythonRepr} {readers : Readers} {root : String} {evidence : List String} {index : Nat}
  {check : FindingCheck} {first second : FindingCheckGrounding}

theorem findingCheckVerdict_source (same : first.source = second.source) (check : Dict) :
    findingCheckVerdict repr readers root evidence check first.fields =
      findingCheckVerdict repr readers root evidence check second.fields := by
  obtain ⟨id, method, kind, reference, tokens, paths⟩ := first
  obtain ⟨id', method', kind', reference', tokens', paths'⟩ := second
  cases same
  rfl

/-- **What grounds a check decides its evaluation.** -/
theorem evaluateFindingCheck_source {records others : List Json} (same : first.source = second.source)
    (found : groundingOf "finding_id" records check.findingId = some first.fields)
    (found' : groundingOf "finding_id" others check.findingId = some second.fields) :
    evaluateFindingCheck repr readers root evidence records index check.fields =
      evaluateFindingCheck repr readers root evidence others index check.fields := by
  have id : textField repr check.fields "finding_id" = check.findingId := rfl
  have kinds : textField repr first.fields "source_type" = textField repr second.fields "source_type" :=
    congrArg (fun source => source.sourceType.value) same
  have references : textField repr first.fields "source_reference" =
      textField repr second.fields "source_reference" := congrArg GroundingSource.sourceReference same
  unfold evaluateFindingCheck
  dsimp only
  rw [id, found, found']
  dsimp only
  rw [findingCheckVerdict_source same, kinds, references]

end Evaluation

/-! ### What the resolver gives -/

/-- The scanner or the plan grounds the checks of the finding, whatever they say. -/
def ValidationSourceCatalog.groundsFinding (catalog : ValidationSourceCatalog) (id : String) : Bool :=
  (catalog.scannerChecks.any fun source => source.findingId = id) ||
    catalog.planAcceptances.any fun source => source.findingId = id

/-- What the text of a check grounds it in, where it does. -/
def textSource (catalog : ValidationSourceCatalog) (finding : Finding) (text : String) :
    Option GroundingSource :=
  match parseAssertion text with
  | some (form, path, _) =>
    some ⟨.deterministicAssertion, "assertion:" ++ text, none,
      [if form = .scannerClear then finding.file else path]⟩
  | none =>
    match catalog.lookupCommandSource text with
    | some (.recorded source) =>
      some ⟨.recordedTest, source.sourceId, some source.tokens, [finding.file]⟩
    | _ => none

/-- What the resolver grounds a check in, by its finding and its text, where it does. -/
def sourceFor (findings : List Finding) (catalog : ValidationSourceCatalog) (id text : String) :
    Option GroundingSource :=
  match catalog.scannerChecks.find? fun source => source.findingId = id with
  | some source => some ⟨.scannerCheck, "scanner:" ++ source.findingId, none, [source.scopedPath]⟩
  | none =>
    match catalog.planAcceptances.find? fun source => source.findingId = id with
    | some source => some ⟨.planAcceptance, "plan:" ++ source.stepId, none, [source.targetFile]⟩
    | none =>
      (findings.find? fun finding => finding.id = id).bind fun finding => textSource catalog finding text

section Sources

variable {repr : PythonRepr} {findings : List Finding} {allowedPaths : List String}
  {catalog : ValidationSourceCatalog} {check : FindingCheck} {grounding : FindingCheckGrounding}

/-- **The resolver grounds a check by its finding and its text.** -/
theorem groundFindingCheck_source
    (grounded : groundFindingCheck repr findings allowedPaths catalog check = .ok grounding) :
    sourceFor findings catalog check.findingId check.check = some grounding.source := by
  unfold groundFindingCheck at grounded
  dsimp only at grounded
  split at grounded
  · cases grounded
  · rename_i finding known
    split at grounded
    · rename_i source scanned
      cases grounded
      rw [sourceFor, scanned]
      rfl
    · rename_i unscanned
      split at grounded
      · rename_i source planned
        cases grounded
        rw [sourceFor, unscanned]
        dsimp only
        rw [planned]
        rfl
      · rename_i unplanned
        -- Neither the scanner nor the plan grounds the check: its text does.
        have textual : sourceFor findings catalog check.findingId check.check =
            textSource catalog finding check.check := by
          rw [sourceFor, unscanned]
          dsimp only
          rw [unplanned, known]
          rfl
        rw [textual]
        split at grounded
        · rename_i form path literal parsed
          rw [textSource, parsed]
          dsimp only
          split_ifs at grounded with clear named inside
          · cases grounded
            rw [if_pos clear]
            rfl
          · cases grounded
            rw [if_neg clear]
            rfl
        · rename_i unparsed
          split at grounded
          · rename_i source listed
            split_ifs at grounded
            cases grounded
            rw [textSource, unparsed]
            dsimp only
            rw [listed]
            rfl
          · cases grounded

theorem sourceFor_groundsFinding {id : String} (grounds : catalog.groundsFinding id = true)
    (text other : String) : sourceFor findings catalog id text = sourceFor findings catalog id other := by
  unfold sourceFor
  cases scanned : catalog.scannerChecks.find? fun source => source.findingId = id with
  | some source => rfl
  | none =>
    cases planned : catalog.planAcceptances.find? fun source => source.findingId = id with
    | some source => rfl
    | none =>
      rw [ValidationSourceCatalog.groundsFinding, Bool.or_eq_true, List.any_eq_true,
        List.any_eq_true] at grounds
      obtain ⟨source, member, about⟩ | ⟨source, member, about⟩ := grounds
      · exact absurd about (List.find?_eq_none.mp scanned source member)
      · exact absurd about (List.find?_eq_none.mp planned source member)

theorem sourceFor_reference {plan : ImplementationPlan} {commands : List (List String)} {id text : String}
    {source : GroundingSource}
    (other : (buildValidationSourceCatalog findings plan commands).groundsFinding id = false)
    (given : sourceFor findings (buildValidationSourceCatalog findings plan commands) id text = some source) :
    source.sourceReference = "assertion:" ++ text ∨
      source.sourceReference = text ∧ ∃ rest, text = "recorded-test-" ++ rest := by
  rw [ValidationSourceCatalog.groundsFinding, Bool.or_eq_false_iff] at other
  unfold sourceFor at given
  rw [List.find?_eq_none.mpr (List.any_eq_false.mp other.1),
    List.find?_eq_none.mpr (List.any_eq_false.mp other.2)] at given
  dsimp only at given
  obtain ⟨finding, -, given⟩ := Option.bind_eq_some_iff.mp given
  unfold textSource at given
  split at given
  · cases given
    exact .inl rfl
  · split at given
    · rename_i recorded found
      cases given
      unfold ValidationSourceCatalog.lookupCommandSource at found
      split at found
      · cases found
      · obtain ⟨listed, searched, same⟩ := Option.map_eq_some_iff.mp found
        cases same
        have named : recorded.sourceId = text := by simpa using List.find?_some searched
        obtain ⟨origin, -, records⟩ := List.mem_filterMap.mp (List.mem_of_find?_eq_some searched)
        unfold recordedTestSource at records
        split at records
        · obtain ⟨tokens, -, rfl⟩ := Option.map_eq_some_iff.mp records
          exact .inr ⟨named, origin.id ++ "-001", by rw [← named, String.append_assoc]⟩
        · cases records
    · cases given

/-- **Equal references come from equal texts.** -/
theorem text_of_reference {plan : ImplementationPlan} {commands : List (List String)}
    {id text text' : String} {source source' : GroundingSource}
    (other : (buildValidationSourceCatalog findings plan commands).groundsFinding id = false)
    (given : sourceFor findings (buildValidationSourceCatalog findings plan commands) id text = some source)
    (given' : sourceFor findings (buildValidationSourceCatalog findings plan commands) id text' =
      some source')
    (same : source.sourceReference = source'.sourceReference) : text = text' := by
  have apart (word rest : String) : "assertion:" ++ word ≠ "recorded-test-" ++ rest := by
    intro equal
    have letters := congrArg (fun joined => joined.toList.head?) equal
    simp only [String.toList_append] at letters
    have heads : some 'a' = some 'r' := letters
    exact absurd heads (by decide)
  obtain first | ⟨first, rest, recorded⟩ := sourceFor_reference other given <;>
    obtain second | ⟨second, rest', recorded'⟩ := sourceFor_reference other given' <;>
    rw [first, second] at same
  · exact String.append_right_inj _ |>.mp same
  · rw [recorded'] at same
    exact absurd same (apart _ _)
  · rw [recorded] at same
    exact absurd same.symm (apart _ _)
  · exact same

end Sources

section Accepted

variable {repr : PythonRepr} {reply : WorkerReply} {plan : ImplementationPlan} {findings : List Finding}
  {manifest : FixScopedManifest} {commands : List (List String)} {result : FixIgnitionResult}

/-- **The entries of an accepted response, each with its grounding.** -/
theorem invokeLocalFix_grounded
    (accepted : invokeLocalFix repr reply plan findings manifest commands = .ok result) :
    List.Forall₂ (fun check own => groundFindingCheck repr findings manifest.allowedPaths
        (buildValidationSourceCatalog findings plan commands) check = .ok own)
        result.successDefinition.findingChecks result.verificationGrounding.findingChecks ∧
      List.Forall₂ (fun validation own => groundValidation repr manifest.allowedPaths
        (buildValidationSourceCatalog findings plan commands) validation = .ok own)
        result.successDefinition.validations result.verificationGrounding.validations := by
  unfold invokeLocalFix at accepted
  split at accepted
  · cases accepted
  · obtain ⟨fields, -, read⟩ := bind_eq_ok.mp accepted
    unfold readResponse at read
    simp only [bind_eq_ok, pure_eq_ok] at read
    obtain ⟨-, -, -, -, -, -, -, -, success, -, grounding, grounded, rfl⟩ := read
    unfold groundResponse at grounded
    split at grounded
    · rename_i resolved
      cases grounded
      unfold resolveGrounding at resolved
      simp only [bind_eq_ok, refuse_eq_ok, not_not, exists_const, pure_eq_ok] at resolved
      obtain ⟨-, checks, checked, validations, validated, rfl⟩ := resolved
      exact ⟨mapM_eq_ok.mp checked, mapM_eq_ok.mp validated⟩
    · cases grounded

end Accepted

/-! ### References in the results -/

def quietScript : Script verifierSignature := fun _ op =>
  match op with
  | .loadResult => (none : Option Json)
  | .rescan _ _ => (.ok [] : Except Failure (List Detection))
  | .resolve _ => ([] : Path)
  | .readFile _ => FileText.missing
  | .isDir _ => false
  | .runCommand _ _ => CommandOutcome.timeout "" ""
  | .persistResult _ => (.ok () : Except Failure Unit)

section References

variable {repr : PythonRepr} {readers : Readers} {root : String} {evidence : List String} {index : Nat}
  {check : FindingCheck} {first second : FindingCheckGrounding}

theorem isInScope_texts (relPath : String) (paths : List String) :
    ∃ inside, isInScope relPath (textsJson paths) = .ok inside := by
  unfold isInScope
  split
  · exact ⟨false, rfl⟩
  · exact ⟨_, rfl⟩

theorem findingCheckVerdict_quiet (check : Dict) (grounding : FindingCheckGrounding)
    (log : List (Event verifierSignature)) :
    ∃ verdict, (findingCheckVerdict repr readers root evidence check grounding.fields).resultOf quietScript
      log = .ok verdict := by
  unfold findingCheckVerdict
  dsimp only
  split
  · exact ⟨_, rfl⟩
  · split
    · exact ⟨_, rfl⟩
    · split
      · split
        · exact ⟨_, rfl⟩
        · rename_i form path literal parsed
          split
          · exact ⟨_, rfl⟩
          · obtain ⟨inside, decided⟩ := isInScope_texts path grounding.scopedPaths
            have stated : getD grounding.fields "scoped_paths" (.arr []) =
              textsJson grounding.scopedPaths := rfl
            unfold evaluateDeterministicAssertion
            rw [stated, decided]
            cases inside <;> exact ⟨_, rfl⟩
      · split
        · split
          · exact ⟨_, rfl⟩
          · unfold executeAuthorizedCommand
            split
            · exact ⟨_, rfl⟩
            · split <;> exact ⟨_, rfl⟩
        · exact ⟨_, rfl⟩

theorem evaluateFindingCheck_quiet {records : List Json}
    (found : groundingOf "finding_id" records check.findingId = some first.fields) :
    ∃ value, (evaluateFindingCheck repr readers root evidence records index check.fields).resultOf quietScript
        [] = .ok value ∧ value.sourceReference = first.sourceReference := by
  obtain ⟨verdict, returned⟩ := @findingCheckVerdict_quiet repr readers root evidence check.fields first []
  have id : textField repr check.fields "finding_id" = check.findingId := rfl
  unfold evaluateFindingCheck
  dsimp only
  rw [id, found]
  exact ⟨_, resultOf_bind_eq_ok.mpr ⟨verdict, returned, rfl⟩, rfl⟩

theorem reference_of_evaluation {records others : List Json}
    (found : groundingOf "finding_id" records check.findingId = some first.fields)
    (found' : groundingOf "finding_id" others check.findingId = some second.fields)
    (same : evaluateFindingCheck repr readers root evidence records index check.fields =
      evaluateFindingCheck repr readers root evidence others index check.fields) :
    first.sourceReference = second.sourceReference := by
  obtain ⟨value, returned, quotes⟩ := evaluateFindingCheck_quiet found
  obtain ⟨value', returned', quotes'⟩ := evaluateFindingCheck_quiet found'
  rw [← quotes, ← quotes']
  rw [same, returned'] at returned
  rw [Except.ok.inj returned]

end References

/-! ### Each check by its own grounding -/

variable (repr : PythonRepr)

/-- Each finding check is evaluated as with its own grounding alone, and so are all of them. -/
structure OwnVerdicts (verification : Verification) (result : FixIgnitionResult) : Prop where
  each : ∀ readers root evidence (index : Nat) check own,
    result.successDefinition.findingChecks[index]? = some check →
      result.verificationGrounding.findingChecks[index]? = some own →
        evaluateFindingCheck repr readers root evidence
            (entriesOf verification.grounding "finding_checks") index check.fields =
          evaluateFindingCheck repr readers root evidence [own.toMapping] index check.fields
  whole : ∀ readers root evidence,
    evaluateFindingChecks repr readers root evidence verification.contract verification.grounding =
      (result.successDefinition.findingChecks.zip
        result.verificationGrounding.findingChecks).zipIdx.mapM fun row =>
          evaluateFindingCheck repr readers root evidence [row.1.2.toMapping] row.2 row.1.1.fields

/-- The checks of one finding have one text, unless the scanner or the plan grounds them. -/
def AlikeChecks (catalog : ValidationSourceCatalog) (success : SuccessDefinition) : Prop :=
  ∀ check ∈ success.findingChecks, ∀ other ∈ success.findingChecks, other.findingId = check.findingId →
    other.check = check.check ∨ catalog.groundsFinding check.findingId = true

variable {repr}

def objectEntry (entry : Nat × Json) : Option (Nat × Dict) :=
  match entry.2 with
  | .obj fields => some (entry.1, fields)
  | _ => none

theorem enumerateObjects_plain (checks : List FindingCheck) :
    enumerateObjects (checks.map FindingCheck.plain) =
      checks.mapIdx fun index check => (index, check.fields) := by
  have numbered (start : Nat) : (((checks.map FindingCheck.plain).zipIdx start).map fun row =>
      (row.2, row.1)).filterMap objectEntry = (checks.zipIdx start).map fun row => (row.2, row.1.fields) := by
    induction checks generalizing start with
    | nil => rfl
    | cons check rest ih =>
      have here : objectEntry (start, check.plain) = some (start, check.fields) := rfl
      rw [List.map_cons, List.zipIdx_cons, List.zipIdx_cons, List.map_cons, List.map_cons,
        List.filterMap_cons_some here, ih (start + 1)]
  have unfolded : enumerateObjects (checks.map FindingCheck.plain) =
      ((checks.map FindingCheck.plain).mapIdx fun index entry => (index, entry)).filterMap objectEntry := rfl
  rw [unfolded, List.mapIdx_eq_zipIdx_map, List.mapIdx_eq_zipIdx_map]
  exact numbered 0

theorem mapM_eq_mapM {m : Type → Type} [Monad m] [LawfulMonad m] {α β γ : Type} {f : α → m γ} {g : β → m γ}
    {items : List α} {others : List β} (each : List.Forall₂ (fun item other => f item = g other) items others) :
    items.mapM f = others.mapM g := by
  induction each with
  | nil => rfl
  | cons here _ ih => rw [List.mapM_cons, List.mapM_cons, here, ih]

section Handoff

variable {reply : WorkerReply} {operation : AcceptedFixOperation} {commands : List (List String)}
  {result : FixIgnitionResult} {sha : Aflow.Sha256} {verification : Verification}

theorem entries_ofHandoff (handed : verification.OfHandoff (acceptedHandoff sha operation result)) :
    entriesOf verification.contract "finding_checks" =
        result.successDefinition.findingChecks.map FindingCheck.plain ∧
      entriesOf verification.contract "validations" =
        result.successDefinition.validations.map ValidationSpec.plain ∧
      entriesOf verification.grounding "finding_checks" =
        result.verificationGrounding.findingChecks.map FindingCheckGrounding.toMapping ∧
      entriesOf verification.grounding "validations" =
        result.verificationGrounding.validations.map ValidationGrounding.toMapping := by
  have contract : Json.obj verification.contract = result.successDefinition.contract :=
    handed.contract.symm.trans (getD_acceptedHandoff (by decide) (by decide) _)
  have grounding : Json.obj verification.grounding = result.verificationGrounding.toMapping :=
    handed.grounding.symm.trans (getD_acceptedHandoff (by decide) (by decide) _)
  rw [SuccessDefinition.contract] at contract
  rw [VerificationGrounding.toMapping] at grounding
  injection contract with contract
  injection grounding with grounding
  rw [contract, grounding]
  exact ⟨rfl, rfl, rfl, rfl⟩

theorem found_of_mem
    (accepted : invokeLocalFix repr reply operation.plan operation.findings operation.manifest commands =
      .ok result)
    {check : FindingCheck} {own : FindingCheckGrounding} {index : Nat}
    (stated : result.successDefinition.findingChecks[index]? = some check)
    (grounded : result.verificationGrounding.findingChecks[index]? = some own) :
    own.findingId = check.findingId ∧
      sourceFor operation.findings (buildValidationSourceCatalog operation.findings operation.plan commands)
        check.findingId check.check = some own.source ∧
      ∃ found : FindingCheckGrounding, lastGrounding result.verificationGrounding.findingChecks
          check.findingId = some found ∧
        ∃ last ∈ result.successDefinition.findingChecks, last.findingId = check.findingId ∧
          sourceFor operation.findings
            (buildValidationSourceCatalog operation.findings operation.plan commands)
            check.findingId last.check = some found.source := by
  have pairs := (invokeLocalFix_grounded accepted).1
  have here : groundFindingCheck repr operation.findings operation.manifest.allowedPaths
      (buildValidationSourceCatalog operation.findings operation.plan commands) check = .ok own := by
    obtain ⟨within, rfl⟩ := List.getElem?_eq_some_iff.mp stated
    obtain ⟨within', rfl⟩ := List.getElem?_eq_some_iff.mp grounded
    exact (List.forall₂_iff_get.mp pairs).2 index within within'
  have named : own.findingId = check.findingId := (groundFindingCheck_typed here).2
  refine ⟨named, groundFindingCheck_source here, ?_⟩
  have listed : own ∈ result.verificationGrounding.findingChecks := List.mem_of_getElem? grounded
  obtain ⟨found, searched⟩ : ∃ found, lastGrounding result.verificationGrounding.findingChecks
      check.findingId = some found := by
    rw [← Option.isSome_iff_exists, lastGrounding, List.find?_isSome]
    exact ⟨own, List.mem_reverse.mpr listed, decide_eq_true named⟩
  have about : found.findingId = check.findingId := by simpa using List.find?_some searched
  obtain ⟨last, member, ground⟩ :=
    exists_mem_of_forall₂ pairs (List.mem_reverse.mp (List.mem_of_find?_eq_some searched))
  have same : last.findingId = check.findingId := (groundFindingCheck_typed ground).2.symm.trans about
  refine ⟨found, searched, last, member, same, ?_⟩
  rw [← same]
  exact groundFindingCheck_source ground

theorem groundingOf_own {own : FindingCheckGrounding} {id : String} (named : own.findingId = id) :
    groundingOf "finding_id" [own.toMapping] id = some own.fields := by
  rw [← List.map_singleton, groundingOf_groundings, lastGrounding, List.reverse_singleton, List.find?_cons,
    decide_eq_true named]
  rfl

/-- **Each check is evaluated with its own grounding exactly when the checks of one finding are alike.** -/
theorem own_verdicts_iff
    (accepted : invokeLocalFix repr reply operation.plan operation.findings operation.manifest commands =
      .ok result)
    (handed : verification.OfHandoff (acceptedHandoff sha operation result)) :
    OwnVerdicts repr verification result ↔
      AlikeChecks (buildValidationSourceCatalog operation.findings operation.plan commands)
        result.successDefinition := by
  have pairs := (invokeLocalFix_grounded accepted).1
  obtain ⟨checksOf, -, groundingsOf, -⟩ := entries_ofHandoff handed
  have paired {check : FindingCheck} (member : check ∈ result.successDefinition.findingChecks) :
      ∃ (index : Nat) (own : FindingCheckGrounding),
        result.successDefinition.findingChecks[index]? = some check ∧
          result.verificationGrounding.findingChecks[index]? = some own := by
    obtain ⟨index, within, rfl⟩ := List.getElem_of_mem member
    have within' : index < result.verificationGrounding.findingChecks.length :=
      pairs.length_eq ▸ within
    exact ⟨index, _, List.getElem?_eq_getElem within, List.getElem?_eq_getElem within'⟩
  constructor
  · intro verdicts check member other member' same
    by_contra apart
    obtain ⟨different, other'⟩ := not_or.mp apart
    obtain ⟨index, own, stated, grounded⟩ := paired member
    obtain ⟨index', own', stated', grounded'⟩ := paired member'
    obtain ⟨named, source, found, searched, last, -, -, sourced⟩ := found_of_mem accepted stated grounded
    obtain ⟨named', source', found', searched', -⟩ := found_of_mem accepted stated' grounded'
    have foundOf := groundingOf_groundings result.verificationGrounding.findingChecks check.findingId
    rw [same] at source' named' searched'
    rw [searched] at foundOf searched'
    cases searched'
    have first : found.sourceReference = own.sourceReference :=
      reference_of_evaluation foundOf (groundingOf_own named)
        (groundingsOf ▸ verdicts.each ⟨fun _ => none, fun _ => ""⟩ "" [] index check own stated grounded)
    have second : found.sourceReference = own'.sourceReference :=
      reference_of_evaluation (same ▸ foundOf) (groundingOf_own (named'.trans same.symm))
        (groundingsOf ▸ verdicts.each ⟨fun _ => none, fun _ => ""⟩ "" [] index' other own' stated' grounded')
    have unscanned := Bool.not_eq_true _ ▸ other'
    exact different (text_of_reference unscanned source' source (second.symm.trans first))
  · intro alike
    have each : ∀ readers root evidence (index : Nat) check own,
        result.successDefinition.findingChecks[index]? = some check →
          result.verificationGrounding.findingChecks[index]? = some own →
            evaluateFindingCheck repr readers root evidence
                (entriesOf verification.grounding "finding_checks") index check.fields =
              evaluateFindingCheck repr readers root evidence [own.toMapping] index check.fields := by
      intro readers root evidence index check own stated grounded
      obtain ⟨named, source, found, searched, last, member, about, sourced⟩ :=
        found_of_mem accepted stated grounded
      have foundOf := groundingOf_groundings result.verificationGrounding.findingChecks check.findingId
      rw [searched] at foundOf
      have equal : found.source = own.source := by
        rcases alike check (List.mem_of_getElem? stated) last member about with text | grounds
        · rw [text, source] at sourced
          exact (Option.some.inj sourced).symm
        · rw [sourceFor_groundsFinding grounds last.check check.check, source] at sourced
          exact (Option.some.inj sourced).symm
      rw [groundingsOf]
      exact evaluateFindingCheck_source equal foundOf (groundingOf_own named)
    refine ⟨each, fun readers root evidence => ?_⟩
    unfold evaluateFindingChecks
    rw [checksOf, enumerateObjects_plain]
    have zipped : (result.successDefinition.findingChecks.zip
        result.verificationGrounding.findingChecks).length =
          result.successDefinition.findingChecks.length := by
      rw [List.length_zip, ← pairs.length_eq, Nat.min_self]
    refine mapM_eq_mapM (List.forall₂_iff_get.mpr ⟨?_, fun index within within' => ?_⟩)
    · rw [List.length_mapIdx, List.length_zipIdx, zipped]
    · have bound : index < result.successDefinition.findingChecks.length := by
        rw [← List.length_mapIdx]
        exact within
      have bound' : index < result.verificationGrounding.findingChecks.length := pairs.length_eq ▸ bound
      simp only [List.get_eq_getElem, List.getElem_mapIdx, List.getElem_zipIdx, List.getElem_zip,
        Nat.zero_add]
      exact each readers root evidence index _ _ (List.getElem?_eq_getElem bound)
        (List.getElem?_eq_getElem bound')

end Handoff

instance (catalog : ValidationSourceCatalog) (success : SuccessDefinition) :
    Decidable (AlikeChecks catalog success) :=
  inferInstanceAs (Decidable (∀ check ∈ success.findingChecks, ∀ other ∈ success.findingChecks,
    other.findingId = check.findingId → other.check = check.check ∨
      catalog.groundsFinding check.findingId = true))

/-- The one check of a finding that the scanner grounds is evaluated with its grounding. -/
theorem own_verdicts_tested :
    ∃ result, invokeLocalFix plainRepr (.answered (some (dumps (.obj testedFields))))
          (sampleFix secretFinding none).plan (sampleFix secretFinding none).findings
          (sampleFix secretFinding none).manifest testCommands = .ok result ∧
        OwnVerdicts plainRepr (verificationOf result [] [] []) result := by
  have alike : (readResponse plainRepr testedFields (sampleFix secretFinding none).plan
      (sampleFix secretFinding none).findings (sampleFix secretFinding none).manifest
      testCommands).toOption.any (fun result => decide (AlikeChecks (buildValidationSourceCatalog
        (sampleFix secretFinding none).findings (sampleFix secretFinding none).plan testCommands)
        result.successDefinition)) = true := by decide +kernel
  cases read : readResponse plainRepr testedFields (sampleFix secretFinding none).plan
      (sampleFix secretFinding none).findings (sampleFix secretFinding none).manifest testCommands with
  | error failure => rw [read] at alike; cases alike
  | ok result =>
    rw [read] at alike
    have accepted : invokeLocalFix plainRepr (.answered (some (dumps (.obj testedFields)))) _ _ _ _ =
        .ok result := bind_eq_ok.mpr ⟨_, oneJsonObject_dumps {} testedFields, read⟩
    exact ⟨result, accepted, (@own_verdicts_iff plainRepr _ (sampleFix secretFinding none) testCommands
      result Aflow.sha256 _ accepted (verificationOf_ofHandoff _ _ _ _ _ _)).mpr (of_decide_eq_true alike)⟩

/-! ### A finding with two kinds of checks -/

/-- A finding that records a command, and not how it is reproduced. -/
def commandFinding : Finding where
  id := "scan-1"
  type := "test.regression_failure"
  file := "src/app.py"
  severity := "high"
  evidence := .obj [("command", .arr [.str "pytest"])]

/-- A response with two checks of one finding: its recorded test, and that the file exists. -/
def mixedFields : Dict :=
  [("status", .str "accepted"),
    ("plan", .obj [("steps", .arr [.obj [("id", .str "step-1"), ("action", .str "edit"),
      ("target_file", .str "src/app.py"), ("originating_finding_id", .str "scan-1")]])]),
    ("gap_corrections_applied", .int 0),
    ("success_definition", .obj [
      ("finding_checks", .arr [
        .obj [("finding_id", .str "scan-1"), ("resolution_method", .str "test"),
          ("check", .str "recorded-test-scan-1-001"), ("expected_result", .str "exit code 0")],
        .obj [("finding_id", .str "scan-1"), ("resolution_method", .str "assertion"),
          ("check", .str "file_exists::src/app.py"), ("expected_result", .str "exists")]]),
      ("validations", .arr []), ("must_not_regress", .arr []),
      ("success_rule", .str requiredSuccessRule)])]

/-- The first check fails with the persisted groundings, and passes with its own. -/
def firstCheckDiffers (result : FixIgnitionResult) : Bool :=
  result.successDefinition.findingChecks[0]?.any fun check =>
    result.verificationGrounding.findingChecks[0]?.any fun own =>
      ((evaluateFindingCheck plainRepr ⟨fun _ => none, fun _ => ""⟩ "/repo" []
          (entriesOf (verificationOf result [] [] []).grounding "finding_checks") 0 check.fields).resultOf
            calmScript []).toOption.any (fun outcome => !outcome.passed) &&
        ((evaluateFindingCheck plainRepr ⟨fun _ => none, fun _ => ""⟩ "/repo" [] [own.toMapping] 0
          check.fields).resultOf calmScript []).toOption.any FindingCheckResult.passed

theorem mixedFields_differs :
    (readResponse plainRepr mixedFields (sampleFix commandFinding none).plan
      (sampleFix commandFinding none).findings (sampleFix commandFinding none).manifest
      []).toOption.any firstCheckDiffers = true := by
  decide +kernel

/-- **A recorded test is evaluated as an assertion**: the grounding of the second check has replaced its
own. -/
theorem mixed_checks_confused :
    ∃ result, invokeLocalFix plainRepr (.answered (some (dumps (.obj mixedFields))))
          (sampleFix commandFinding none).plan (sampleFix commandFinding none).findings
          (sampleFix commandFinding none).manifest [] = .ok result ∧
        (verificationOf result [] [] []).OfHandoff
          (acceptedHandoff Aflow.sha256 (sampleFix commandFinding none) result) ∧
        ¬ OwnVerdicts plainRepr (verificationOf result [] [] []) result := by
  have differs := mixedFields_differs
  cases read : readResponse plainRepr mixedFields (sampleFix commandFinding none).plan
      (sampleFix commandFinding none).findings (sampleFix commandFinding none).manifest [] with
  | error failure => rw [read] at differs; cases differs
  | ok result =>
    rw [read] at differs
    have accepted : invokeLocalFix plainRepr (.answered (some (dumps (.obj mixedFields)))) _ _ _ _ =
        .ok result := bind_eq_ok.mpr ⟨_, oneJsonObject_dumps {} mixedFields, read⟩
    refine ⟨result, accepted, verificationOf_ofHandoff _ _ _ _ _ _, fun verdicts => ?_⟩
    change firstCheckDiffers result = true at differs
    unfold firstCheckDiffers at differs
    obtain ⟨check, stated, differs⟩ := (Option.any_eq_true _ _).mp differs
    obtain ⟨own, grounded, differs⟩ := (Option.any_eq_true _ _).mp differs
    rw [verdicts.each _ _ _ 0 check own stated grounded, Bool.and_eq_true] at differs
    obtain ⟨fails, passes⟩ := differs
    obtain ⟨outcome, returned, failed⟩ := (Option.any_eq_true _ _).mp fails
    obtain ⟨outcome', returned', passed⟩ := (Option.any_eq_true _ _).mp passes
    rw [returned] at returned'
    cases returned'
    rw [passed] at failed
    cases failed

end Audisor.Fix
