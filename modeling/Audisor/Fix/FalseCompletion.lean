/-
**When a completion may be false.**

* `Remains` — a finding of the scan equals an original one up to its id and its position.
* `scanOf` — the scan behind the implementation, with the journal up to it.
* `NamedByScan` — a check of the contract names the id, and the scan decides it. `Overlooked` — a finding
  remains, and no such check names the id it is reported under.
* `EntriesHold` — every check and every validation holds when its turn comes.
* **`completion_sound_iff`** — a completion is never false exactly if no finding is overlooked while the
  entries of the contract hold. A credential that moves by a line is reported under another id.
-/

import Audisor.Fix.Stages
import Audisor.Fix.Verification
import Audisor.Interaction.Scripted

namespace Audisor.Fix

open Checked Interaction Json Text

/-! ### Findings that remain -/

def withoutPosition : Json → Json
  | .obj fields => .obj (fields.filter fun field => field.1 ≠ "line" ∧ field.1 ≠ "column")
  | evidence => evidence

def findingContent (type file severity evidence : Json) : Json :=
  .obj [("type", type), ("file", file), ("severity", severity), ("evidence", withoutPosition evidence)]

/-- The finding equals the original one, up to its id, its line and its column. -/
def Remains (original : Dict) (finding : Finding) : Prop :=
  Json.eq
    (findingContent (.str finding.type) (.str finding.file) (.str finding.severity) finding.evidence)
    (findingContent (getD original "type" .null) (getD original "file" .null)
      (getD original "severity" .null) (getD original "evidence" .null)) = true

instance (original : Dict) (finding : Finding) : Decidable (Remains original finding) :=
  inferInstanceAs (Decidable (_ = true))

variable (repr : PythonRepr) (sha : Aflow.Sha256) (readers : Readers)

/-! ### The scan of a run -/

def scanOf (script : Script verifierSignature) (verification : Verification) :
    Option (List Finding × List (Event verifierSignature)) :=
  let document : Option Json := script [] .loadResult
  match existingResult repr document, reconstructScanConfig repr verification.scannerContext with
  | .ok none, .ok config =>
    if Json.eq (getD verification.codexResult "exit_code" .null) (.int 0) then
      let loaded : Event verifierSignature := ⟨.loadResult, document⟩
      let detected : Except Failure (List Detection) :=
        script [loaded] (.rescan config verification.repositoryRoot)
      match detected with
      | .ok detections =>
        some (reportOf sha detections,
          [⟨.rescan config verification.repositoryRoot, detected⟩, loaded])
      | .error _ => none
    else none
  | _, _ => none

variable {repr sha readers} {script : Script verifierSignature} {verification : Verification}
  {report : List Finding} {log : List (Event verifierSignature)}

theorem rescan_journalOf (config : ScanConfig) (root : String) :
    (rescan sha config root).journalOf script log =
      ⟨.rescan config root, script log (.rescan config root)⟩ :: log := by
  change (match script log (.rescan config root) with
    | .ok detections => Program.done (reportOf sha detections)
    | .error failure => .raise failure : VerifierProgram _).journalOf script _ = _
  split <;> rfl

theorem rescan_resultOf {config : ScanConfig} {root : String} {detections : List Detection}
    (detected : script log (.rescan config root) = (.ok detections : Except Failure _)) :
    (rescan sha config root).resultOf script log = .ok (reportOf sha detections) := by
  change (match script log (.rescan config root) with
    | .ok detections => Program.done (reportOf sha detections)
    | .error failure => .raise failure : VerifierProgram _).resultOf script _ = _
  rw [detected]
  rfl

theorem verify_of_scanOf (scanned : scanOf repr sha script verification = some (report, log)) :
    (verify repr sha readers verification).resultOf script [] =
      (verifyReport repr readers verification report).resultOf script log := by
  unfold scanOf at scanned
  dsimp only at scanned
  split at scanned
  · rename_i config absent context
    split_ifs at scanned with success
    split at scanned
    · rename_i detections detected
      cases scanned
      change Program.resultOf script (Program.ofExcept (existingResult repr (script [] .loadResult)) >>= _)
        _ = _
      rw [absent]
      change Program.resultOf script (if _ then _ else _) _ = _
      rw [if_pos success, context]
      change Program.resultOf script (rescan sha config _ >>= _) _ = _
      rw [resultOf_bind, rescan_resultOf detected, rescan_journalOf]
    · cases scanned
  · cases scanned

/-! ### Checks that the scan decides -/

variable (repr) in
def IsScanCheck (check grounding : Dict) : Prop :=
  textField repr grounding "source_type" = "scanner_check" ∨
    textField repr grounding "source_type" = "plan_acceptance" ∨
    textField repr grounding "source_type" = "deterministic_assertion" ∧
      ∃ path literal, parseAssertion (textField repr check "check") = some (.scannerClear, path, literal)

variable (repr) in
/-- A check of the contract names the id, and the scan decides it. -/
def NamedByScan (verification : Verification) (id : String) : Prop :=
  ∃ entry ∈ enumerateObjects (entriesOf verification.contract "finding_checks"),
    textField repr entry.2 "finding_id" = id ∧
      ∃ grounding, groundingOf "finding_id" (entriesOf verification.grounding "finding_checks") id =
        some grounding ∧ IsScanCheck repr entry.2 grounding

variable (repr) in
/-- A finding remains, under an id that no check that the scan decides names. -/
def Overlooked (verification : Verification) (report : List Finding) : Prop :=
  ∃ finding ∈ report, ∃ original ∈ objectsOf verification.originalFindings,
    Remains original finding ∧ ¬ NamedByScan repr verification finding.id

theorem findingCheckVerdict_scan {evidence : List String} {root : String} {check grounding : Dict}
    (decided : IsScanCheck repr check grounding) :
    findingCheckVerdict repr readers root evidence check grounding =
      .done (scannerClear evidence (textField repr check "finding_id")) := by
  unfold findingCheckVerdict
  dsimp only
  rcases decided with scanner | plan | ⟨assertion, path, literal, parsed⟩
  · rw [if_pos scanner]
  · rw [if_neg (by rw [plan]; decide), if_pos plan]
  · rw [if_neg (by rw [assertion]; decide), if_neg (by rw [assertion]; decide), if_pos assertion, parsed]
    exact if_pos rfl

theorem absent_of_passed {evidence : List String} {root : String} {records : List Json} {index : Nat}
    {check grounding : Dict} {older : List (Event verifierSignature)} {result : FindingCheckResult}
    (grounded : groundingOf "finding_id" records (textField repr check "finding_id") = some grounding)
    (decided : IsScanCheck repr check grounding)
    (returned : (evaluateFindingCheck repr readers root evidence records index check).resultOf script
      older = .ok result) (passed : result.passed = true) :
    textField repr check "finding_id" ∉ evidence := by
  unfold evaluateFindingCheck at returned
  dsimp only at returned
  rw [grounded] at returned
  dsimp only at returned
  rw [findingCheckVerdict_scan decided] at returned
  cases returned
  intro reported
  rw [scannerClear, if_pos reported] at passed
  cases passed

/-! ### Completions -/

variable (repr readers script verification report log) in
/-- Every check and every validation holds when its turn comes, and the success rule is the one there is. -/
def EntriesHold : Prop :=
  getD verification.contract "success_rule" .null = .str supportedSuccessRule ∧
    EachMeets script
      (fun entry => evaluateFindingCheck repr readers verification.repositoryRoot (scannerEvidence report)
        (entriesOf verification.grounding "finding_checks") entry.1 entry.2)
      FindingCheckResult.passed (enumerateObjects (entriesOf verification.contract "finding_checks")) log ∧
    EachMeets script
      (evaluateValidation repr readers verification.repositoryRoot
        (entriesOf verification.grounding "validations"))
      ValidationResult.passed (objectsOf (entriesOf verification.contract "validations"))
      ((evaluateFindingChecks repr readers verification.repositoryRoot (scannerEvidence report)
        verification.contract verification.grounding).journalOf script log)

theorem persisted_eq_ok {result other : FixVerificationResult}
    (returned : (persisted result).resultOf script log = .ok other) : result = other := by
  change (match script log (.persistResult result.toMapping) with
    | .ok () => Program.done result
    | .error failure => .raise failure : VerifierProgram _).resultOf script _ = _ at returned
  split at returned <;> cases returned
  rfl

/-- **A verification that returns claims completion exactly if its entries hold.** -/
theorem claims_iff {result : FixVerificationResult}
    (returned : (verifyReport repr readers verification report).resultOf script log = .ok result) :
    result.completionClaimed = true ↔ EntriesHold repr readers script verification report log := by
  obtain ⟨checks, checked, returned⟩ := resultOf_bind_eq_ok.mp returned
  obtain ⟨validations, validated, returned⟩ := resultOf_bind_eq_ok.mp returned
  unfold EntriesHold
  rw [eachMeets_iff checked, eachMeets_iff validated]
  split at returned
  · rename_i rule
    cases persisted_eq_ok returned
    rw [and_iff_right rule]
    exact Bool.and_eq_true_iff
  · rename_i rule
    cases persisted_eq_ok returned
    exact iff_of_false nofun fun holds => rule holds.1

theorem reportOf_id {detections : List Detection} {finding : Finding}
    (reported : finding ∈ reportOf sha detections) : finding.id ≠ "" := by
  obtain ⟨detection, -, rfl⟩ := List.mem_map.mp (List.mem_mergeSort.mp reported)
  intro none
  have letters := congrArg String.toList none
  rw [Detection.finding, String.toList_append] at letters
  exact absurd letters (by simp)

/-- **Where no finding is overlooked, a completion leaves nothing that remains.** -/
theorem gone_of_claimed {detections : List Detection} {result : FixVerificationResult}
    (returned : (verifyReport repr readers verification (reportOf sha detections)).resultOf script log =
      .ok result)
    (claimed : result.completionClaimed = true)
    (seen : ¬ Overlooked repr verification (reportOf sha detections)) :
    ∀ finding ∈ reportOf sha detections, ∀ original ∈ objectsOf verification.originalFindings,
      ¬ Remains original finding := by
  intro finding reported original member remains
  obtain ⟨entry, listed, named, grounding, grounded, decided⟩ : NamedByScan repr verification finding.id := by
    by_contra unnamed
    exact seen ⟨finding, reported, original, member, remains, unnamed⟩
  obtain ⟨older, value, passed⟩ := ((claims_iff returned).mp claimed).2.1.of_mem listed
  rw [← named] at grounded
  refine absent_of_passed grounded decided passed.1 passed.2 (List.mem_filter.mpr ⟨?_, ?_⟩)
  · exact named ▸ List.mem_map_of_mem reported
  · exact decide_eq_true (named ▸ reportOf_id reported)

theorem scanOf_report (scanned : scanOf repr sha script verification = some (report, log)) :
    ∃ detections, report = reportOf sha detections := by
  unfold scanOf at scanned
  dsimp only at scanned
  split at scanned
  · split_ifs at scanned
    split at scanned <;> cases scanned
    exact ⟨_, rfl⟩
  · cases scanned

variable (repr sha readers script verification) in
/-- A completion that the run claims is never false: its scan has no finding that remains. -/
def CompletionSound : Prop :=
  ∀ result report log, (verify repr sha readers verification).resultOf script [] = .ok result →
    result.completionClaimed = true → scanOf repr sha script verification = some (report, log) →
      ∀ finding ∈ report, ∀ original ∈ objectsOf verification.originalFindings, ¬ Remains original finding

/-- **No false completion, exactly where nothing is overlooked**: a verification that returns overlooks no
finding, or some entry of the contract does not hold. -/
theorem completion_sound_iff (repr : PythonRepr) (sha : Aflow.Sha256) (readers : Readers)
    (script : Script verifierSignature) (verification : Verification) :
    CompletionSound repr sha readers script verification ↔
      ∀ report log, scanOf repr sha script verification = some (report, log) →
        (∃ result, (verify repr sha readers verification).resultOf script [] = .ok result) →
          ¬ Overlooked repr verification report ∨
            ¬ EntriesHold repr readers script verification report log := by
  constructor
  · intro sound report log scanned ⟨result, returned⟩
    by_contra both
    obtain ⟨overlooked, holds⟩ := not_or.mp both
    have behind := returned
    rw [verify_of_scanOf scanned] at behind
    obtain ⟨finding, reported, original, member, remains, -⟩ := not_not.mp overlooked
    exact sound result report log returned ((claims_iff behind).mpr (not_not.mp holds)) scanned finding
      reported original member remains
  · intro condition result report log returned claimed scanned
    have behind := returned
    rw [verify_of_scanOf scanned] at behind
    obtain ⟨detections, rfl⟩ := scanOf_report scanned
    rcases condition _ log scanned ⟨result, returned⟩ with seen | fails
    · exact gone_of_claimed behind claimed seen
    · exact absurd ((claims_iff behind).mp claimed) fails

/-! ### A credential that moves -/

/-- What the scanner reports of a credential in `src/app.py`. -/
def secretAt (line : Int) : Detection where
  kind := "security.hardcoded_secret"
  file := "src/app.py"
  severity := "critical"
  evidence := [("line", .int line), ("rule", .str "credential-like literal"),
    ("repro", .str "search credential patterns in src/app.py")]

theorem secretAt_first : ((secretAt 1).finding Aflow.sha256).id = "scan-7825ab2895cf4252" := by
  decide +kernel

theorem secretAt_second : ((secretAt 2).finding Aflow.sha256).id = "scan-dd7c64738e51f6b4" := by
  decide +kernel

def secretUnder (id : String) (line : Int) : Finding :=
  { id, type := "security.hardcoded_secret", file := "src/app.py", severity := "critical"
    evidence := .obj (secretAt line).evidence }

def secretContract : Dict :=
  [("finding_checks", .arr [.obj [("finding_id", .str "scan-7825ab2895cf4252"),
      ("resolution_method", .str "rescan"), ("check", .str "scanner_clear::scan-7825ab2895cf4252"),
      ("expected_result", .str "absent")]]),
    ("validations", .arr []), ("must_not_regress", .arr []), ("success_rule", .str supportedSuccessRule)]

def secretGrounding : Dict :=
  [("finding_checks", .arr [.obj [("finding_id", .str "scan-7825ab2895cf4252"),
      ("resolution_method", .str "rescan"), ("source_type", .str "scanner_check"),
      ("source_reference", .str "scanner:scan-7825ab2895cf4252"), ("authorized_tokens", .null),
      ("scoped_paths", .arr [.str "src/app.py"])]]),
    ("validations", .arr [])]

def secretContext : Dict :=
  [("repository_root", .str "/repo"), ("extensions", .arr [.str ".py"])]

def secretHandoff : Dict :=
  [("operation_id", .str "fix-1"), ("operation_type", .str "fix"),
    ("findings", .arr [(secretUnder "scan-7825ab2895cf4252" 1).plain]),
    ("scoped_manifest", .obj [("files", .arr [.str "src/app.py"]),
      ("dependency_closure", .arr [.str "src/app.py"])]),
    ("qualified_plan", .obj [("target_files", .arr [.str "src/app.py"])]), ("authority", noAuthority),
    ("verification_contract", .obj secretContract), ("verification_grounding", .obj secretGrounding),
    ("scanner_context", .obj secretContext), ("workspace_identity", .obj [("root", .str "/repo")])]

def secretVerification : Verification where
  operationId := "fix-1"
  repositoryRoot := "/repo"
  scannerContext := secretContext
  originalFindings := [(secretUnder "scan-7825ab2895cf4252" 1).plain]
  contract := secretContract
  grounding := secretGrounding
  codexResult := [("exit_code", .int 0)]

/-- The repository whose credential has moved to the second line. -/
def movedScript : Script verifierSignature := fun _ op =>
  match op with
  | .loadResult => (none : Option Json)
  | .rescan _ _ => (.ok [secretAt 2] : Except Failure (List Detection))
  | .resolve path => path
  | .readFile _ => FileText.missing
  | .isDir _ => true
  | .runCommand _ _ => CommandOutcome.completed 0 "" ""
  | .persistResult _ => (.ok () : Except Failure Unit)

def plainReaders : Readers := ⟨fun _ => none, fun _ => ""⟩

theorem moved_report :
    reportOf Aflow.sha256 [secretAt 2] = [secretUnder "scan-dd7c64738e51f6b4" 2] := by
  have moved : (secretAt 2).finding Aflow.sha256 = secretUnder "scan-dd7c64738e51f6b4" 2 := by
    rw [← secretAt_second]
    rfl
  rw [reportOf, List.map_singleton, List.mergeSort_singleton, moved]

theorem moved_scan :
    ∃ log, scanOf plainRepr Aflow.sha256 movedScript secretVerification =
      some ([secretUnder "scan-dd7c64738e51f6b4" 2], log) ∧
        ((verifyReport plainRepr plainReaders secretVerification
          [secretUnder "scan-dd7c64738e51f6b4" 2]).resultOf movedScript log).toOption.any
            FixVerificationResult.completionClaimed = true := by
  have scanned : scanOf plainRepr Aflow.sha256 movedScript secretVerification =
      some (reportOf Aflow.sha256 [secretAt 2], _) := rfl
  rw [moved_report] at scanned
  exact ⟨_, scanned, by decide +kernel⟩

/-- **A completion is claimed though the credential is still there**: it has moved by one line, and its new
id is not the one that the contract checks. -/
theorem moved_credential_completed :
    (validateRun plainRepr ⟨id, fun _ => true, fun _ => true, ["repo"]⟩ (.document (.obj secretHandoff))
        "/store/fix-1/qualified-fix-handoff.json" "fix-1" ["src/app.py"]).toOption.isSome = true ∧
      ((secretAt 1).finding Aflow.sha256).plain ∈ secretVerification.originalFindings ∧
      ¬ CompletionSound plainRepr Aflow.sha256 plainReaders movedScript secretVerification := by
  refine ⟨by decide +kernel, ?_, fun sound => ?_⟩
  · have original : (secretAt 1).finding Aflow.sha256 = secretUnder "scan-7825ab2895cf4252" 1 := by
      rw [← secretAt_first]
      rfl
    rw [original]
    exact List.mem_cons_self
  obtain ⟨log, scanned, claims⟩ := moved_scan
  cases returned : (verifyReport plainRepr plainReaders secretVerification
      [secretUnder "scan-dd7c64738e51f6b4" 2]).resultOf movedScript log with
  | error failure => rw [returned] at claims; cases claims
  | ok result =>
    rw [returned] at claims
    rw [← verify_of_scanOf scanned] at returned
    refine sound result _ log returned claims scanned _ List.mem_cons_self _ List.mem_cons_self ?_
    decide +kernel

end Audisor.Fix
