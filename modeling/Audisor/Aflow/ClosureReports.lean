/-
**What a closure reports.**

* `closeFindings_eq_ok` — when a closure returns, and what it returns. `closed_entry` — the status of each
  prior finding in it.
* `gate_readable` — the predicates of a prior finding are evaluated on every request that is admitted.
* **`closure_reported`** — a checked closure is returned, with an entry for each prior finding, unless the
  new decision is clean and some predicate is not satisfied. `closure_unreported` — a request that is
  clean, and a plan that has not changed where it was challenged.
-/

import Audisor.Aflow.Candidates
import Audisor.Aflow.CleanRequests
import Audisor.Aflow.ClosingFindings
import Audisor.Aflow.LockedPlans
import Audisor.Aflow.Pointers

namespace Audisor.Aflow

open Json Checked

variable {sha : Sha256} {input : ClosureInput} {result : ClosureResult}

/-! ### Steps -/

@[simp] theorem calls_eq_ok {α : Type} {outcome : Except AflowError α} {value : α} :
    calls outcome = .ok value ↔ outcome = .ok value := by
  cases outcome <;> simp [calls, Except.mapError]

@[simp] theorem binds_eq_ok {condition : Bool} {message : String} {done : Unit} :
    binds condition message = .ok done ↔ condition = true := by
  rw [binds, refuse_eq_ok, Bool.not_eq_false]

/-- **A closure returns** when its input is checked, the request is analysed again, every predicate is
evaluated, and the result is valid. -/
theorem closeFindings_eq_ok : closeFindings sha input = .ok result ↔
    input.checkBindings sha = .ok () ∧ input.checkAdded = .ok () ∧
      ∃ decision results, input.reanalyze sha = .ok decision ∧
        List.Forall₂ (fun finding entry => input.result decision finding = .ok entry)
          input.priorDecision.findings results ∧
        (input.conclude sha decision results).validate sha = .ok () ∧
        result = input.conclude sha decision results := by
  simp only [closeFindings, bind_eq_ok, mapM_eq_ok, calls_eq_ok, pure_eq_ok]
  constructor
  · rintro ⟨⟨⟩, checked, ⟨⟩, added, decision, analyzed, results, settled, ⟨⟩, valid, rfl⟩
    exact ⟨checked, added, decision, results, analyzed, settled, valid, rfl⟩
  · rintro ⟨checked, added, decision, results, analyzed, settled, valid, rfl⟩
    exact ⟨(), checked, (), added, decision, analyzed, results, settled, (), valid, rfl⟩

def ClosureInput.entry (input : ClosureInput) (decision : AnalysisDecision) (finding : Finding)
    (gate : Bool × String) : FindingResult :=
  { findingId := finding.findingId
    status := (settleFinding decision finding gate).1
    evidenceReferences := input.closure.addedEvidence.map Evidence.ref
    reason := (settleFinding decision finding gate).2 }

theorem result_eq_ok {decision : AnalysisDecision} {finding : Finding} {entry : FindingResult} :
    input.result decision finding = .ok entry ↔
      ∃ gate, input.gate finding = .ok gate ∧ entry = input.entry decision finding gate := by
  simp only [ClosureInput.result, bind_eq_ok, pure_eq_ok]
  constructor
  · rintro ⟨gate, evaluated, rfl⟩
    exact ⟨gate, evaluated, rfl⟩
  · rintro ⟨gate, evaluated, rfl⟩
    exact ⟨gate, evaluated, rfl⟩

/-! ### Statuses -/

section

variable {decision : AnalysisDecision} {finding : Finding} {gate : Bool × String}

/-- **A finding counts as closed** when its gap is gone and its predicates are satisfied. -/
theorem settleFinding_closed :
    (settleFinding decision finding gate).1 = .closed ∨
        (settleFinding decision finding gate).1 = .partiallyClosed ↔
      gapRemains decision finding = false ∧ gate.1 = true := by
  rw [settleFinding]
  cases gapRemains decision finding <;> cases gate.1 <;>
    cases decide (decision.decision = .noMaterialGap) <;> simp

/-- **A finding is open** otherwise. -/
theorem settleFinding_open : (settleFinding decision finding gate).1 = .open ↔
    gapRemains decision finding = true ∨ gate.1 = false := by
  rw [settleFinding]
  cases gapRemains decision finding <;> cases gate.1 <;>
    cases decide (decision.decision = .noMaterialGap) <;> simp

theorem gapRemains_clean (clean : decision.findings = []) : gapRemains decision finding = false := by
  rw [gapRemains, clean]
  rfl

theorem settleFinding_reason : (settleFinding decision finding gate).2 ≠ "" := by
  have long {first second : String} (written : 0 < first.length + second.length) :
      first ++ second ≠ "" := by
    intro empty
    have none := congrArg String.length empty
    rw [String.length_append, String.length_empty] at none
    omega
  rw [settleFinding]
  split
  · exact long (Nat.lt_add_left _ (by decide))
  · split
    · exact long (Nat.lt_add_left _ (by decide))
    · split
      · exact long (Nat.lt_add_right _ (by decide))
      · decide

end

/-! ### Entries -/

section

variable {α β : Type} {related : α → β → Prop} {items : List α} {results : List β} {id : α → String}
  {id' : β → String}

theorem paired_ids (paired : List.Forall₂ related items results)
    (same : ∀ item result, related item result → id' result = id item) :
    results.map id' = items.map id := by
  induction paired with
  | nil => rfl
  | cons here _ ih => rw [List.map_cons, List.map_cons, same _ _ here, ih]

theorem paired_of_id (paired : List.Forall₂ related items results)
    (same : ∀ item result, related item result → id' result = id item)
    (distinct : (items.map id).Nodup) {item : α} (listed : item ∈ items) {result : β}
    (among : result ∈ results) (named : id' result = id item) : related item result := by
  induction paired with
  | nil => cases listed
  | cons here there ih =>
    have ids := paired_ids there same
    rw [List.map_cons, List.nodup_cons] at distinct
    rcases List.mem_cons.mp listed with rfl | inner <;>
      rcases List.mem_cons.mp among with rfl | inner'
    · exact here
    · refine absurd ?_ distinct.1
      rw [← named, ← ids]
      exact List.mem_map_of_mem inner'
    · refine absurd ?_ distinct.1
      rw [← same _ _ here, named]
      exact List.mem_map_of_mem inner
    · exact ih distinct.2 inner inner'

end

theorem entry_findingId {decision : AnalysisDecision} {finding : Finding} {entry : FindingResult}
    (settled : input.result decision finding = .ok entry) :
    entry.findingId = finding.findingId := by
  obtain ⟨_, _, rfl⟩ := result_eq_ok.mp settled
  rfl

theorem checkBindings_prior (checked : input.checkBindings sha = .ok ()) :
    input.priorDecision.validate sha = .ok () := by
  obtain ⟨⟨⟩, valid, _⟩ := bind_eq_ok.mp checked
  exact calls_eq_ok.mp valid

/-- **The entry of a prior finding in a closure that returns.** -/
theorem closed_entry (returned : closeFindings sha input = .ok result) :
    input.reanalyze sha = .ok result.newDecision ∧
      ∀ finding ∈ input.priorDecision.findings, ∃ gate, input.gate finding = .ok gate ∧
        input.entry result.newDecision finding gate ∈ result.findingResults ∧
        ∀ entry ∈ result.findingResults, entry.findingId = finding.findingId →
          entry = input.entry result.newDecision finding gate := by
  obtain ⟨checked, -, decision, results, analyzed, settled, -, rfl⟩ :=
    closeFindings_eq_ok.mp returned
  refine ⟨analyzed, fun finding listed => ?_⟩
  have distinct := ((AnalysisDecision.validate_ok sha).mp (checkBindings_prior checked)).2.1
  obtain ⟨position, inside, rfl⟩ := List.getElem_of_mem listed
  have paired := settled.get inside (settled.length_eq ▸ inside)
  obtain ⟨gate, evaluated, entered⟩ := result_eq_ok.mp paired
  refine ⟨gate, evaluated, ?_, fun entry among named => ?_⟩
  · exact (show _ = input.entry decision _ gate from entered) ▸ List.getElem_mem _
  · obtain ⟨gate', evaluated', rfl⟩ := result_eq_ok.mp (paired_of_id settled
      (fun _ _ => entry_findingId) distinct listed among named)
    cases evaluated.symm.trans evaluated'
    rfl

/-! ### Predicates -/

section

variable {finding : Finding} {changed added : Bool} {request : Dict} {plan : Plan}
  {reviewer : Option Reviewer}

/-- The predicates ask for an environment, and are evaluated. -/
def asksEnvironment (finding : Finding) (reviewer : Option Reviewer) : Bool :=
  !unreplayed finding reviewer &&
    decide (finding.requiredClosure.closureCode = .exerciseRequiredEnvironment)

/-- **The predicates are evaluated** unless the proofs that they ask for cannot be read. -/
theorem predicateGate_returns :
    (∃ gate, predicateGate finding changed added request plan reviewer = .ok gate) ↔
      (asksEnvironment finding reviewer = true → ∃ table, proofTable request = .ok table) := by
  rw [predicateGate, asksEnvironment]
  cases unreplayed finding reviewer with
  | true => exact iff_of_true ⟨_, rfl⟩ (by rintro ⟨⟩)
  | false =>
    simp only [Bool.false_eq_true, if_false, Bool.not_false, Bool.true_and, decide_eq_true_eq]
    by_cases environment : finding.requiredClosure.closureCode = .exerciseRequiredEnvironment
    · simp only [environment, if_true, true_imp_iff]
      cases proofTable request with
      | error raised => exact iff_of_false (by rintro ⟨_, ⟨⟩⟩) (by rintro ⟨_, ⟨⟩⟩)
      | ok table => exact iff_of_true ⟨_, rfl⟩ ⟨_, rfl⟩
    · simp only [environment, if_false, false_imp_iff, iff_true]
      split
      · exact ⟨_, rfl⟩
      · split
        · exact ⟨_, rfl⟩
        · exact ⟨_, rfl⟩

/-- **Where a change is asked for**, the predicates are satisfied by a change. -/
theorem predicateGate_change (replayed : unreplayed finding reviewer = false)
    (code : finding.requiredClosure.closureCode ∈ changeCodes) :
    predicateGate finding changed added request plan reviewer =
      .ok (changed, evaluated finding "the challenged plan location") := by
  have apart : ∀ code ∈ changeCodes, code ≠ .exerciseRequiredEnvironment ∧ code ∉ evidenceCodes := by
    decide
  obtain ⟨environment, evidence⟩ := apart _ code
  rw [predicateGate, replayed]
  simp only [Bool.false_eq_true, if_false, environment, evidence, code, if_true]
  rfl

theorem predicateGate_unreplayed (missed : unreplayed finding reviewer = true) :
    ∃ reason, predicateGate finding changed added request plan reviewer = .ok (false, reason) := by
  rw [predicateGate, missed]
  exact ⟨_, rfl⟩

end

/-! ### Requests that are admitted -/

theorem keyed_texts {α : Type} {key : String} {write : α → Json} {id : α → String}
    (stated : ∀ item, subscript (write item) key = .ok (.str (id item))) (items : List α) :
    keyed key (items.map write) = .ok (items.map fun item => (.str (id item), write item)) := by
  induction items with
  | nil => rfl
  | cons item rest ih =>
    rw [keyed] at ih ⊢
    rw [List.map_cons, List.mapM_cons, stated, ih]
    rfl

theorem fields_plan (request : AnalysisRequest) :
    subscript (.obj request.toDict) "plan" = .ok request.plan.toJson := by
  simp [subscript, AnalysisRequest.toDict, version]

theorem fields_success (request : AnalysisRequest) :
    subscript (.obj request.toDict) "success_definition" = .ok request.successDefinition.toJson := by
  simp [subscript, AnalysisRequest.toDict, version]

theorem fields_evidence (request : AnalysisRequest) : subscript (.obj request.toDict) "evidence" =
    .ok (.arr (request.evidence.map Evidence.toJson)) := by
  simp [subscript, AnalysisRequest.toDict, version, listOf]

theorem evidence_keyed (items : List Evidence) :
    keyed "evidence_id" (items.map Evidence.toJson) =
      .ok (items.map fun item => (.str item.evidenceId.val, item.toJson)) := by
  refine keyed_texts (fun item => ?_) items
  cases summary : item.payloadSummary <;> cases artifact : item.rawArtifactRef <;>
    simp [subscript, Evidence.toJson, version, optional, summary, artifact]

/-- **The proofs of an admitted request can be read.** -/
theorem proofTable_admitted (request : AnalysisRequest) :
    proofTable request.toDict = .ok (request.successDefinition.proofObligations.val.map fun proof =>
      (.str proof.proofId.val, proof.toJson)) := by
  have obligations : subscript request.successDefinition.toJson "proof_obligations" =
      .ok (.arr (request.successDefinition.proofObligations.val.map ProofObligation.toJson)) := by
    simp [subscript, SuccessDefinition.toJson, Aflow.version, listOf]
  have table : keyed "proof_id"
      (request.successDefinition.proofObligations.val.map ProofObligation.toJson) =
        .ok (request.successDefinition.proofObligations.val.map fun proof =>
          (.str proof.proofId.val, proof.toJson)) := by
    refine keyed_texts (fun proof => ?_) _
    cases environment : proof.requiredEnvironment <;> cases types : proof.requiredEvidenceTypes <;>
      simp [subscript, ProofObligation.toJson, optional, environment, types]
  rw [proofTable, fields_success]
  refine bind_eq_ok.mpr ⟨_, rfl, bind_eq_ok.mpr ⟨_, obligations, bind_eq_ok.mpr ⟨_, rfl, table⟩⟩⟩

/-- **The predicates of a prior finding are evaluated** on every request that is admitted. -/
theorem gate_readable {request : AnalysisRequest}
    (admitted : input.revisedRequest = .admitted request) (finding : Finding) :
    ∃ gate, input.gate finding = .ok gate := by
  rw [ClosureInput.gate, admitted]
  exact predicateGate_returns.mpr fun _ => ⟨_, proofTable_admitted request⟩

/-! ### Valid results -/

section

variable {decision : AnalysisDecision}

theorem refusedDecision_ok {fields : Dict} {errors : List AdmissionError} {decidedAt : String}
    (decided : refusedDecision sha fields errors decidedAt = .ok decision) :
    decision.validate sha = .ok () ∧ decision.decision = .materialGapFound := by
  obtain ⟨parts, -, decided⟩ := bind_eq_ok.mp decided
  cases parts with
  | none => cases decided
  | some parts =>
    obtain ⟨⟨⟩, valid, same⟩ := bind_eq_ok.mp decided
    cases same
    exact ⟨calls_eq_ok.mp valid, rfl⟩

theorem reanalyze_ok (analyzed : input.reanalyze sha = .ok decision) :
    decision.validate sha = .ok () ∧ (decision.decision = .noMaterialGap →
      ∃ request, input.revisedRequest = .admitted request) := by
  rw [ClosureInput.reanalyze] at analyzed
  cases submitted : input.revisedRequest with
  | admitted request =>
    rw [submitted] at analyzed
    exact ⟨analyze_valid (calls_eq_ok.mp analyzed), fun _ => ⟨request, rfl⟩⟩
  | refused fields errors =>
    rw [submitted] at analyzed
    obtain ⟨valid, found⟩ := refusedDecision_ok analyzed
    exact ⟨valid, fun clean => absurd (found.symm.trans clean) (by decide)⟩

theorem clean_findings (valid : decision.validate sha = .ok ())
    (clean : decision.decision = .noMaterialGap) : decision.findings = [] := by
  have admitted := ((AnalysisDecision.validate_ok sha).mp valid).1
  simp only [UnsealedDecision.admitted, clean, if_true, Bool.and_eq_true, List.isEmpty_iff] at admitted
  exact admitted.2.2

/-- The predicates of a prior finding are evaluated, and are not satisfied. -/
def ClosureInput.Unsatisfied (input : ClosureInput) (finding : Finding) : Prop :=
  ∃ reason, input.gate finding = .ok (false, reason)

def unresolved (results : List FindingResult) : Bool :=
  results.any fun item => item.status ∈ [ClosureStatus.open, ClosureStatus.partiallyClosed]

/-- **In a clean closure a finding stays unresolved when its predicates are not satisfied.** -/
theorem unresolved_clean {results : List FindingResult} (nothing : decision.findings = [])
    (clean : decision.decision = .noMaterialGap)
    (settled : List.Forall₂ (fun finding entry => input.result decision finding = .ok entry)
      input.priorDecision.findings results) :
    unresolved results = true ↔ ∃ finding ∈ input.priorDecision.findings,
      input.Unsatisfied finding := by
  have status (finding : Finding) (gate : Bool × String) :
      (input.entry decision finding gate).status ∈
        [ClosureStatus.open, ClosureStatus.partiallyClosed] ↔ gate.1 = false := by
    rw [ClosureInput.entry, settleFinding, gapRemains_clean nothing, clean]
    cases gate.1 <;> simp
  simp only [unresolved, List.any_eq_true, decide_eq_true_eq]
  generalize input.priorDecision.findings = findings at settled
  induction settled with
  | nil => exact iff_of_false (by rintro ⟨_, ⟨⟩, _⟩) (by rintro ⟨_, ⟨⟩, _⟩)
  | cons here _ ih =>
    obtain ⟨gate, evaluated, rfl⟩ := result_eq_ok.mp here
    rw [List.exists_mem_cons_iff, List.exists_mem_cons_iff, status]
    refine or_congr ⟨fun failed => ⟨gate.2, ?_⟩, ?_⟩ ih
    · rw [evaluated, ← failed]
    · rintro ⟨reason, failed⟩
      cases evaluated.symm.trans failed
      rfl

theorem closure_validate {results : List FindingResult} (found : input.priorDecision.findings ≠ [])
    (prior : input.priorDecision.validate sha = .ok ()) (valid : decision.validate sha = .ok ())
    (settled : List.Forall₂ (fun finding entry => input.result decision finding = .ok entry)
      input.priorDecision.findings results) :
    (input.conclude sha decision results).validate sha =
      if unresolved results && decide (decision.decision = .noMaterialGap) then
        .error (.domainInvariant
          "closure cannot be clean while an original finding remains unresolved")
      else .ok () := by
  obtain ⟨admitted, distinct, -, -⟩ := (AnalysisDecision.validate_ok sha).mp prior
  have ids := @paired_ids _ _ _ _ _ Finding.findingId FindingResult.findingId settled
    fun _ _ => entry_findingId
  have named : ∀ item ∈ results, isIdentifier item.findingId = true ∧ item.reason ≠ "" := by
    intro item listed
    obtain ⟨position, inside, rfl⟩ := List.getElem_of_mem listed
    have inside' : position < input.priorDecision.findings.length := settled.length_eq ▸ inside
    obtain ⟨gate, -, same⟩ := result_eq_ok.mp (settled.get inside' inside)
    rw [show results[position] = _ from same]
    refine ⟨?_, settleFinding_reason⟩
    simp only [UnsealedDecision.admitted, Bool.and_eq_true, List.all_eq_true] at admitted
    have fit := admitted.1.1 _ (List.getElem_mem inside')
    simp only [Finding.admitted, Bool.and_eq_true] at fit
    exact fit.1.1.1.1.1.1.1.1
  have some : results ≠ [] := by
    intro empty
    exact found (List.length_eq_zero_iff.mp (by rw [settled.length_eq, empty]; rfl))
  have fits : (input.conclude sha decision results).admitted = true := by
    simp only [UnsealedClosure.admitted, Bool.and_eq_true, Bool.not_eq_true', List.isEmpty_eq_false_iff,
      List.all_eq_true, bne_iff_ne]
    exact ⟨⟨some, named⟩, ((AnalysisDecision.validate_ok sha).mp valid).1⟩
  have once : unique ((input.conclude sha decision results).findingResults.map
      FindingResult.findingId) "closure finding" = .ok () :=
    unique_ok.mpr (ids ▸ distinct)
  have sealed : verifyHash sha (input.conclude sha decision results).contentHash
      (input.conclude sha decision results).toJson = true := by
    rw [verifyHash, ClosureResult.toJson, canonicalHash_contentHash]
    exact beq_self_eq_true _
  rw [ClosureResult.validate, fits, once, sealed]
  have listed : ((input.conclude sha decision results).findingResults.any fun item =>
      item.status ∈ [ClosureStatus.open, ClosureStatus.partiallyClosed]) = unresolved results := rfl
  have decided : (input.conclude sha decision results).newDecision = decision := rfl
  simp only [listed, decided, Bool.not_true, Bool.false_eq_true, if_false]
  cases unresolved results && decide (decision.decision = .noMaterialGap) <;> rfl

end

/-! ### Reports -/

def ClosureInput.Readable (input : ClosureInput) : Prop :=
  (∃ finding ∈ input.priorDecision.findings, asksEnvironment finding input.reviewer = true) →
    ∃ table, proofTable input.revisedRequest.fields = .ok table

theorem readable_iff : input.Readable ↔
    ∀ finding ∈ input.priorDecision.findings, ∃ gate, input.gate finding = .ok gate := by
  simp only [ClosureInput.gate, predicateGate_returns]
  constructor
  · exact fun readable finding listed asks => readable ⟨finding, listed, asks⟩
  · rintro every ⟨finding, listed, asks⟩
    exact every finding listed asks

/-- A sealed result with one entry for each prior finding. -/
structure Reports (sha : Sha256) (input : ClosureInput) (result : ClosureResult) : Prop where
  entries : result.findingResults.map FindingResult.findingId =
    input.priorDecision.findings.map Finding.findingId
  distinct : (result.findingResults.map FindingResult.findingId).Nodup
  valid : result.validate sha = .ok ()
  sealed : verifyHash sha result.contentHash result.toJson = true

section

variable {decision : AnalysisDecision} (checked : input.checkBindings sha = .ok ())
  (added : input.checkAdded = .ok ()) (found : input.priorDecision.findings ≠ [])
  (analyzed : input.reanalyze sha = .ok decision)

include checked added found analyzed

theorem closeFindings_settled (reads : input.Readable) : ∃ results,
    List.Forall₂ (fun finding entry => input.result decision finding = .ok entry)
      input.priorDecision.findings results ∧
    closeFindings sha input =
      if unresolved results && decide (decision.decision = .noMaterialGap) then
        .error (.aflow (.domainInvariant
          "closure cannot be clean while an original finding remains unresolved"))
      else .ok (input.conclude sha decision results) := by
  have prior := checkBindings_prior checked
  obtain ⟨valid, -⟩ := reanalyze_ok analyzed
  have each : ∀ finding ∈ input.priorDecision.findings,
      ∃ entry, input.result decision finding = .ok entry := by
    intro finding listed
    obtain ⟨gate, evaluated⟩ := readable_iff.mp reads finding listed
    exact ⟨_, result_eq_ok.mpr ⟨gate, evaluated, rfl⟩⟩
  obtain ⟨results, walked⟩ := Checked.mapM_returns.mpr each
  have settled := mapM_eq_ok.mp walked
  refine ⟨results, settled, ?_⟩
  rw [closeFindings, checked, added, analyzed]
  simp only [bind, Except.bind, walked, closure_validate found prior valid settled]
  cases unresolved results && decide (decision.decision = .noMaterialGap) <;> rfl

/-- **A readable closure is reported** where a clean decision leaves no predicate unsatisfied. -/
theorem closeFindings_reports (reads : input.Readable)
    (quiet : ¬ (decision.decision = .noMaterialGap ∧
      ∃ finding ∈ input.priorDecision.findings, input.Unsatisfied finding)) :
    ∃ result, closeFindings sha input = .ok result ∧ Reports sha input result := by
  have prior := checkBindings_prior checked
  obtain ⟨valid, -⟩ := reanalyze_ok analyzed
  obtain ⟨results, settled, same⟩ := closeFindings_settled checked added found analyzed reads
  have kept : (unresolved results && decide (decision.decision = .noMaterialGap)) = false := by
    rw [Bool.eq_false_iff, ne_eq, Bool.and_eq_true, decide_eq_true_eq]
    rintro ⟨remains, clean⟩
    exact quiet ⟨clean, (unresolved_clean (clean_findings valid clean) clean settled).mp remains⟩
  have checks := closure_validate found prior valid settled
  rw [kept] at same checks
  have ids := @paired_ids _ _ _ _ _ Finding.findingId FindingResult.findingId settled
    fun _ _ => entry_findingId
  refine ⟨_, same, ids, ?_, checks, ?_⟩
  · exact ids ▸ ((AnalysisDecision.validate_ok sha).mp prior).2.1
  · rw [verifyHash, ClosureResult.toJson, canonicalHash_contentHash]
    exact beq_self_eq_true _

/-- **A clean decision with an unsatisfied predicate makes the closure raise.** -/
theorem closeFindings_raises (clean : decision.decision = .noMaterialGap)
    (unsatisfied : ∃ finding ∈ input.priorDecision.findings, input.Unsatisfied finding) :
    closeFindings sha input = .error (.aflow (.domainInvariant
      "closure cannot be clean while an original finding remains unresolved")) := by
  obtain ⟨valid, admits⟩ := reanalyze_ok analyzed
  obtain ⟨request, submitted⟩ := admits clean
  obtain ⟨results, settled, same⟩ := closeFindings_settled checked added found analyzed
    (readable_iff.mpr fun finding _ => gate_readable submitted finding)
  rw [same, (unresolved_clean (clean_findings valid clean) clean settled).mpr unsatisfied, clean]
  rfl

/-- **A closure whose input is checked and analysed again is reported**, unless the new decision is clean
and some predicate is not satisfied, or the proofs of a refused request cannot be read. -/
theorem closure_reported :
    ((∃ result, closeFindings sha input = .ok result ∧ Reports sha input result) ↔
      input.Readable ∧ ¬ (decision.decision = .noMaterialGap ∧
        ∃ finding ∈ input.priorDecision.findings, input.Unsatisfied finding)) ∧
    (decision.decision = .noMaterialGap →
      (∃ finding ∈ input.priorDecision.findings, input.Unsatisfied finding) →
      closeFindings sha input = .error (.aflow (.domainInvariant
        "closure cannot be clean while an original finding remains unresolved"))) ∧
    ((∃ request, input.revisedRequest = .admitted request) → input.Readable) := by
  refine ⟨⟨?_, ?_⟩, closeFindings_raises checked added found analyzed, ?_⟩
  · rintro ⟨result, returned, reports⟩
    refine ⟨readable_iff.mpr fun finding listed => ?_, ?_⟩
    · obtain ⟨gate, evaluated, _⟩ := (closed_entry returned).2 finding listed
      exact ⟨gate, evaluated⟩
    · rintro ⟨clean, unsatisfied⟩
      have raised := closeFindings_raises checked added found analyzed clean unsatisfied
      cases raised.symm.trans returned
  · rintro ⟨reads, quiet⟩
    exact closeFindings_reports checked added found analyzed reads quiet
  · rintro ⟨request, submitted⟩
    exact readable_iff.mpr fun finding _ => gate_readable submitted finding

end

/-! ### Requests of one plan after another -/

/-- The closure of a decision by a request that is admitted, without added evidence. -/
def closureOf (sha : Sha256) (original revised : AnalysisRequest) (prior : AnalysisDecision) :
    ClosureInput where
  closure :=
    { closureId := identifier "closure-1", priorDecisionReference := prior.ref
      originalPlanReference := original.plan.ref sha, revisedPlan := revised.plan
      addedEvidence := [] }
  priorDecision := prior
  originalPlan := original.plan
  revisedRequest := .admitted revised
  reviewer := none
  decidedAt := "2026-01-02T00:00:00Z"

section

variable {original revised request : AnalysisRequest} {prior : AnalysisDecision}

/-- **The findings of the checks are what an analysis decides on.** -/
theorem analyze_objected {findings : List Finding} (found : deterministicFindings sha request = findings)
    (some : findings ≠ []) (fits : ∀ finding ∈ findings, finding.admitted = true)
    (distinct : (findings.map Finding.findingId).Nodup) (decidedAt : String) :
    analyze sha request none decidedAt = .ok (decisionOn sha request findings [] decidedAt) := by
  have objected : findingsOf sha request none = (findings, []) := by
    rw [findingsOf, found, if_neg fun empty => some (List.isEmpty_iff.mp empty)]
  refine analyze_ok.mpr ⟨fun clean => absurd (found.symm.trans clean) some, ?_⟩
  rw [objected]
  exact conclude_ok.mpr ⟨⟨fits, distinct⟩, ⟨List.forall_mem_nil _, List.nodup_nil⟩, rfl⟩

/-- **Where only the documents beside the plan are wrong**, the checks of hashes and references say so. -/
theorem deterministicFindings_documents (success : request.successDefinition.validate sha = .ok ())
    (plan : request.plan.validate = .ok ()) (covered : CoverageChecks.Covered request)
    (settled : DependencyChecks.Settled request.plan)
    (permitted : AuthorityChecks.Permitted request.plan)
    (active : ∀ action ∈ request.plan.actions.val,
      ActivationChecks.actionProblems request action = []) :
    deterministicFindings sha request =
      EvidenceChecks.check sha request ++ ReferenceChecks.check sha request := by
  have distinct := (Plan.validate_distinct plan).2.1
  rw [deterministicFindings, domainFindings_eq_nil.mpr ⟨success, plan⟩, checkFindings,
    CoverageChecks.check_eq_nil.mpr covered, (DependencyChecks.check_eq_nil distinct).mpr settled,
    AuthorityChecks.check_eq_nil.mpr ⟨permitted.targets, permitted.actions, permitted.risks⟩,
    ActivationChecks.check_eq_nil.mpr active]
  simp only [List.append_nil, List.isEmpty_nil, if_true]

theorem located_admitted {findingId location claim : String} {gap : GapType} {origin : Origin}
    {evidence : List EvidenceRef} (named : isIdentifier findingId = true)
    (pointer : isJsonPointer location = true) (claimed : claim ≠ "") (cites : evidence ≠ []) :
    (makeFinding findingId gap origin [location] claim evidence).admitted = true := by
  have stated : ({} : FindingOptions).Stated :=
    { reasoning := by rintro ⟨⟩, why := by rintro ⟨⟩, predicates := by rintro _ ⟨⟩ }
  rw [makeFinding_admitted (List.cons_ne_nil _ _) (List.nodup_singleton _)
    (List.forall_mem_singleton.mpr pointer) claimed cites stated]
  exact named

theorem successRef_toJson (success : SuccessDefinition) :
    successRef sha success.toJson = .ok (success.ref sha).toJson := by
  simp [successRef, asDict, subscript, SuccessDefinition.toJson, Aflow.version, SuccessDefinition.ref,
    artifactRef, ArtifactRef.toJson, truthy, bind, Except.bind, pure, Except.pure]

/-- **The closure of an analysis is checked** when both requests share their success definition. -/
theorem closureOf_checked {decidedAt : String}
    (analyzed : analyze sha original none decidedAt = .ok prior)
    (valid : original.plan.validate = .ok ())
    (shared : revised.successDefinition = original.successDefinition)
    (bound : revised.plan.successDefinitionReference = revised.successDefinition.ref sha) :
    (closureOf sha original revised prior).checkBindings sha = .ok () ∧
      (closureOf sha original revised prior).checkAdded = .ok () := by
  obtain ⟨-, -, same⟩ := conclude_ok.mp (analyze_ok.mp analyzed).2
  have about : prior.planReference = original.plan.ref sha := by rw [same]; rfl
  have success : prior.successDefinitionReference = original.successDefinition.ref sha := by
    rw [same]
    rfl
  have again : (successRef sha revised.successDefinition.toJson) =
      .ok (original.successDefinition.ref sha).toJson := by rw [successRef_toJson, shared]
  constructor
  · simp only [ClosureInput.checkBindings, closureOf, RevisedRequest.fields, bind_eq_ok, calls_eq_ok,
      binds_eq_ok, fields_plan, fields_success]
    refine ⟨(), analyze_valid analyzed, (), valid, _, rfl, (), Json.eq_self _, _, rfl, _, again, (),
      decide_eq_true trivial, (), decide_eq_true trivial, (), decide_eq_true about, (), ?_,
      decide_eq_true (bound.trans (shared ▸ success.symm))⟩
    rw [success]
    exact Json.eq_self _
  · simp only [ClosureInput.checkAdded, closureOf, RevisedRequest.fields, fields_evidence, iterate,
      bind_eq_ok, binds_eq_ok]
    exact ⟨_, rfl, _, rfl, _, evidence_keyed _, (), rfl, rfl⟩

end

/-! ### An authority that another plan was bound to -/

def otherAuthority : AuthorityEvidence :=
  AuthorityEvidence.seal sha256
    { smallAuthority sha256 with authorityBundleId := identifier "authority-bundle-2" }

/-- A small request whose plan is bound to another authority bundle. -/
def unboundRequest : AnalysisRequest :=
  { Variant.request sha256 {} with authorityEvidence := otherAuthority }

theorem unbound_findings : deterministicFindings sha256 unboundRequest =
    [ReferenceChecks.artifactFinding unboundRequest "authority_bundle_reference"] := by
  have clean := deterministicFindings_clean.mp
    (small_sound.clean (List.isEmpty_iff.mp rfl) (List.isEmpty_iff.mp rfl))
  have evidence : EvidenceChecks.check sha256 unboundRequest = [] :=
    EvidenceChecks.check_eq_nil.mpr { clean.evident with
      authority := AuthorityEvidence.seal_verifies sha256 _ }
  have references : ReferenceChecks.check sha256 unboundRequest =
      [ReferenceChecks.artifactFinding unboundRequest "authority_bundle_reference"] := by
    have apart : unboundRequest.plan.authorityBundleReference ≠
        unboundRequest.authorityEvidence.ref := by
      intro same
      exact absurd (congrArg ArtifactRef.artifactId same) (by decide)
    have baseline : unboundRequest.plan.repositoryBaselineReference = unboundRequest.baseline.ref :=
      clean.bound.baseline
    rw [ReferenceChecks.check, if_neg apart, if_pos baseline]
    have success : unboundRequest.plan.successDefinitionReference =
        unboundRequest.successDefinition.ref sha256 := clean.bound.success
    rw [success]
    simp [ReferenceChecks.successFields]
  have documents := @deterministicFindings_documents sha256 unboundRequest clean.success clean.plan
    { clean.covered with } clean.settled clean.permitted clean.active
  rw [documents, evidence, references]
  rfl

/-- What was decided on the plan with the other authority. -/
def unboundDecision : AnalysisDecision :=
  decisionOn sha256 unboundRequest
    [ReferenceChecks.artifactFinding unboundRequest "authority_bundle_reference"] []
    "2026-01-01T00:00:00Z"

theorem unbound_analyzed :
    analyze sha256 unboundRequest none "2026-01-01T00:00:00Z" = .ok unboundDecision := by
  have admitted : (ReferenceChecks.artifactFinding unboundRequest
      "authority_bundle_reference").admitted = true :=
    located_admitted (by decide) (by decide) (by decide) (List.cons_ne_nil _ _)
  exact analyze_objected unbound_findings (List.cons_ne_nil _ _)
    (List.forall_mem_singleton.mpr admitted) (List.nodup_singleton _) _

/-- The same plan, with the authority that it is bound to. -/
def unboundClosure : ClosureInput :=
  closureOf sha256 unboundRequest (Variant.request sha256 {}) unboundDecision

theorem unbound_checked : unboundClosure.checkBindings sha256 = .ok () ∧
    unboundClosure.checkAdded = .ok () := by
  have clean := deterministicFindings_clean.mp
    (small_sound.clean (List.isEmpty_iff.mp rfl) (List.isEmpty_iff.mp rfl))
  exact closureOf_checked unbound_analyzed clean.plan rfl clean.bound.success

theorem unbound_reanalyzed : unboundClosure.reanalyze sha256 =
    .ok (decisionOn sha256 (Variant.request sha256 {}) [] [] "2026-01-02T00:00:00Z") := by
  obtain ⟨decision, returned, -, rfl⟩ := @Variant.ready sha256 {}
    (small_sound.clean (List.isEmpty_iff.mp rfl) (List.isEmpty_iff.mp rfl))
    (List.isEmpty_iff.mp rfl) "2026-01-02T00:00:00Z"
  exact calls_eq_ok.mpr returned

theorem unbound_unsatisfied : ∃ finding ∈ unboundClosure.priorDecision.findings,
    unboundClosure.Unsatisfied finding := by
  refine ⟨ReferenceChecks.artifactFinding unboundRequest "authority_bundle_reference",
    List.mem_singleton_self _, evaluated (ReferenceChecks.artifactFinding unboundRequest
      "authority_bundle_reference") "the challenged plan location", ?_⟩
  have unchanged : unboundClosure.changed
      (ReferenceChecks.artifactFinding unboundRequest "authority_bundle_reference") = false := by
    have found : ∃ value, pointerValue (Variant.plan sha256 {}).toJson
        "/plan/authority_bundle_reference" = some value := by
      have tokens : pointerTokens (planScoped "/plan/authority_bundle_reference") =
          ["authority_bundle_reference".toList] := by decide
      have path : (planScoped "/plan/authority_bundle_reference").isEmpty = false := by decide
      refine ⟨(Variant.plan sha256 {}).authorityBundleReference.toJson, ?_⟩
      rw [pointerValue, path]
      simp only [Bool.false_eq_true, if_false, tokens, List.foldl_cons, List.foldl_nil,
        Option.bind_some]
      rw [Plan.toJson, stepInto_field]
      rfl
    obtain ⟨value, found⟩ := found
    show List.any ["/plan/authority_bundle_reference"] (changedAt (Variant.plan sha256 {})
      (Variant.plan sha256 {})) = false
    rw [List.any_cons, List.any_nil, Bool.or_false, changedAt, found]
    exact congrArg Bool.not (Json.eq_self value)
  rw [ClosureInput.gate, unchanged]
  exact predicateGate_change rfl (by decide)

/-- **The plan that is clean with its own authority cannot be closed.** -/
theorem closure_unreported :
    analyze sha256 unboundRequest none "2026-01-01T00:00:00Z" = .ok unboundClosure.priorDecision ∧
      unboundClosure.priorDecision.findings ≠ [] ∧
      unboundClosure.checkBindings sha256 = .ok () ∧ unboundClosure.checkAdded = .ok () ∧
      (∃ decision, unboundClosure.reanalyze sha256 = .ok decision) ∧
      ¬ ∃ result, closeFindings sha256 unboundClosure = .ok result := by
  refine ⟨unbound_analyzed, List.cons_ne_nil _ _, unbound_checked.1, unbound_checked.2,
    ⟨_, unbound_reanalyzed⟩, ?_⟩
  rintro ⟨result, returned⟩
  have raised := closeFindings_raises unbound_checked.1 unbound_checked.2 (List.cons_ne_nil _ _)
    unbound_reanalyzed rfl unbound_unsatisfied
  cases raised.symm.trans returned

theorem closure_reported_unbound : unboundClosure.Readable ∧
    closeFindings sha256 unboundClosure = .error (.aflow (.domainInvariant
      "closure cannot be clean while an original finding remains unresolved")) := by
  have reports := closure_reported unbound_checked.1 unbound_checked.2 (List.cons_ne_nil _ _)
    unbound_reanalyzed
  exact ⟨reports.2.2 ⟨_, rfl⟩, reports.2.1 rfl unbound_unsatisfied⟩

end Audisor.Aflow
