/-
**Which gaps are closed by a real change.**

* `Differs`, `Nowhere` — the two plans differ at a location, and neither of them has a value there.
* `changedAt_iff` — a location is taken for changed in both cases.
* **`closes_on_change_iff`** — a gap that asks for a change is closed by one exactly where each such
  finding has a location that differs, or is challenged only inside the plans, or stays open anyway.
  `closed_unchanged` — a gap that the same plan closes.
-/

import Audisor.Aflow.ClosureReports

namespace Audisor.Aflow

open Json Checked

variable {sha : Sha256} {input : ClosureInput} {result : ClosureResult}

/-! ### Locations -/

/-- The plans differ at a location, where one of them may have no value. -/
def Differs (original revised : Plan) (location : String) : Prop :=
  match pointerValue original.toJson location, pointerValue revised.toJson location with
  | some before, some after => Json.eq before after = false
  | none, none => False
  | _, _ => True

def Nowhere (original revised : Plan) (location : String) : Prop :=
  pointerValue original.toJson location = none ∧ pointerValue revised.toJson location = none

/-- **A location is taken for changed** when the plans differ there, or have nothing there. -/
theorem changedAt_iff {original revised : Plan} {location : String} :
    changedAt original revised location = true ↔
      Differs original revised location ∨ Nowhere original revised location := by
  rw [changedAt, Differs, Nowhere]
  cases pointerValue original.toJson location <;> cases pointerValue revised.toJson location <;>
    simp

theorem not_differs_self (plan : Plan) (location : String) : ¬ Differs plan plan location := by
  rw [Differs]
  cases pointerValue plan.toJson location with
  | none => exact id
  | some value =>
    show ¬ Json.eq value value = false
    rw [Json.eq_self]
    exact Bool.noConfusion

/-! ### Closed by a change -/

/-- A prior finding that asks for a change of the plan counts as closed only where the plans differ. -/
def ClosesOnChange (input : ClosureInput) (result : ClosureResult) : Prop :=
  ∀ finding ∈ input.priorDecision.findings,
    finding.requiredClosure.closureCode ∈ changeCodes →
    ∀ entry ∈ result.findingResults, entry.findingId = finding.findingId →
      entry.status = .closed ∨ entry.status = .partiallyClosed →
      ∃ location ∈ finding.planLocations,
        Differs input.originalPlan input.closure.revisedPlan location

def Reproduced (sha : Sha256) (input : ClosureInput) (finding : Finding) : Prop :=
  ∃ decision, input.reanalyze sha = .ok decision ∧ gapRemains decision finding = true

/-- **A change closes what asks for a change**, exactly when each such finding has a location where the
plans differ, or no location that is in neither plan, unless its gap is found again or its reviewer is not
asked again. -/
theorem closes_on_change_iff (returned : closeFindings sha input = .ok result) :
    ClosesOnChange input result ↔
      ∀ finding ∈ input.priorDecision.findings,
        finding.requiredClosure.closureCode ∈ changeCodes →
        (∃ location ∈ finding.planLocations,
          Differs input.originalPlan input.closure.revisedPlan location) ∨
        (∀ location ∈ finding.planLocations,
          ¬ Nowhere input.originalPlan input.closure.revisedPlan location) ∨
        Reproduced sha input finding ∨ unreplayed finding input.reviewer = true := by
  obtain ⟨analyzed, entries⟩ := closed_entry returned
  refine forall₂_congr fun finding listed => forall_congr' fun code => ?_
  obtain ⟨gate, gated, entered, only⟩ := entries finding listed
  have moved : input.changed finding = true ↔ ∃ location ∈ finding.planLocations,
      Differs input.originalPlan input.closure.revisedPlan location ∨
        Nowhere input.originalPlan input.closure.revisedPlan location := by
    simp only [ClosureInput.changed, List.any_eq_true, changedAt_iff]
  -- the gate of a finding that asks for a change is the change itself
  have satisfied : gate.1 = true ↔
      unreplayed finding input.reviewer = false ∧ input.changed finding = true := by
    cases replayed : unreplayed finding input.reviewer with
    | true =>
      obtain ⟨reason, missed⟩ := @predicateGate_unreplayed finding (input.changed finding)
        (!input.closure.addedEvidence.isEmpty) input.revisedRequest.fields
        input.closure.revisedPlan input.reviewer replayed
      cases gated.symm.trans missed
      simp
    | false =>
      cases gated.symm.trans (predicateGate_change replayed code)
      simp
  constructor
  · intro closes
    by_contra bare
    push Not at bare
    obtain ⟨same, ⟨location, among, nowhere⟩, absent, replayed⟩ := bare
    have gone : gapRemains result.newDecision finding = false := by
      rw [Bool.eq_false_iff]
      exact fun remains => absent ⟨_, analyzed, remains⟩
    have counted := settleFinding_closed.mpr ⟨gone, satisfied.mpr
      ⟨Bool.eq_false_iff.mpr replayed, moved.mpr ⟨location, among, .inr nowhere⟩⟩⟩
    obtain ⟨other, inside, differs⟩ := closes _ entered rfl counted
    exact same other inside differs
  · rintro reasons entry member named counted
    obtain rfl := only entry member named
    obtain ⟨gone, passed⟩ := settleFinding_closed.mp counted
    obtain ⟨replayed, changed⟩ := satisfied.mp passed
    rcases reasons with differs | inside | ⟨decision, analyzed', remains⟩ | missed
    · exact differs
    · obtain ⟨location, among, differs | nowhere⟩ := moved.mp changed
      · exact ⟨location, among, differs⟩
      · exact absurd nowhere (inside location among)
    · cases analyzed.symm.trans analyzed'
      exact absurd (gone.symm.trans remains) (by decide)
    · exact absurd (replayed.symm.trans missed) (by decide)

/-! ### Evidence that is given twice -/

def evidenced : Variant := { evidence := [smallEvidence sha256 .codex] }

theorem evidenced_clean : deterministicFindings sha256 (evidenced.request sha256) = [] := by
  have sound : evidenced.Sound sha256 :=
    { small_sound with
      sealed := List.forall_mem_singleton.mpr (Evidence.seal_verifies sha256 _)
      evidence := List.nodup_singleton _ }
  exact sound.clean (List.isEmpty_iff.mp rfl) (List.isEmpty_iff.mp rfl)

def repeatedRequest : AnalysisRequest :=
  { evidenced.request sha256 with
    evidence := [smallEvidence sha256 .codex, smallEvidence sha256 .codex] }

def repeatedFinding : Finding :=
  EvidenceChecks.add repeatedRequest ("evidence.duplicate." ++ "evidence-1") "/evidence"
    ("Evidence ID " ++ "evidence-1" ++ " is duplicated in the bounded input.")

theorem repeated_findings : deterministicFindings sha256 repeatedRequest = [repeatedFinding] := by
  have clean := deterministicFindings_clean.mp evidenced_clean
  have references : ReferenceChecks.check sha256 repeatedRequest = [] :=
    ReferenceChecks.check_eq_nil.mpr
      ⟨clean.bound.success, clean.bound.baseline, clean.bound.authority⟩
  have evidence : EvidenceChecks.check sha256 repeatedRequest = [repeatedFinding] := by
    have twice : duplicates (ids repeatedRequest.evidence Evidence.evidenceId) = ["evidence-1"] := by
      decide
    have hashes : EvidenceChecks.artifacts sha256 repeatedRequest =
        [(true, "/authority_evidence/content_hash", "authority evidence"),
          (true, "/repository_evidence/content_hash", "repository evidence"),
          (true, "/baseline/content_hash", "repository baseline")] := by
      have authority' : verifyHash sha256 repeatedRequest.authorityEvidence.contentHash
          repeatedRequest.authorityEvidence.toJson = true := clean.evident.authority
      have repository : verifyHash sha256 repeatedRequest.repositoryEvidence.contentHash
          repeatedRequest.repositoryEvidence.toJson = true := clean.evident.repository
      have baseline : verifyHash sha256 repeatedRequest.baseline.contentHash
          repeatedRequest.baseline.toJson = true := clean.evident.baseline
      rw [EvidenceChecks.artifacts, authority', repository, baseline]
    have unreferenced : EvidenceChecks.references repeatedRequest.plan = [] :=
      List.isEmpty_iff.mp rfl
    have sealed : ∀ item ∈ repeatedRequest.evidence,
        verifyHash sha256 item.contentHash item.toJson = true := by
      intro item member
      have listed : item ∈ (evidenced.request sha256).evidence := by
        rcases List.mem_cons.mp member with rfl | again
        · exact List.mem_singleton_self _
        · exact again
      exact clean.evident.sealed item listed
    have quiet : (objections repeatedRequest.evidence fun item index =>
        if verifyHash sha256 item.contentHash item.toJson then none
        else some (EvidenceChecks.add repeatedRequest ("hash.evidence." ++ numeral index)
          ("/evidence/" ++ numeral index ++ "/content_hash")
          ("Evidence " ++ item.evidenceId.val ++ " has a content-hash mismatch."))) = [] := by
      rw [objections_eq_nil]
      rintro ⟨item, index⟩ member
      exact if_pos (sealed item (List.mem_of_getElem? (List.mk_mem_zipIdx_iff_getElem?.mp member)))
    rw [EvidenceChecks.check, twice, hashes, unreferenced, quiet]
    rfl
  have documents := @deterministicFindings_documents sha256 repeatedRequest clean.success clean.plan
    { clean.covered with } clean.settled clean.permitted clean.active
  rw [documents, evidence, references]
  rfl

def repeatedDecision : AnalysisDecision :=
  decisionOn sha256 repeatedRequest [repeatedFinding] [] "2026-01-01T00:00:00Z"

theorem repeated_analyzed :
    analyze sha256 repeatedRequest none "2026-01-01T00:00:00Z" = .ok repeatedDecision := by
  have admitted : repeatedFinding.admitted = true :=
    located_admitted (by decide) (by decide) (by decide) (List.cons_ne_nil _ _)
  exact analyze_objected repeated_findings (List.cons_ne_nil _ _)
    (List.forall_mem_singleton.mpr admitted) (List.nodup_singleton _) _

def repeatedClosure : ClosureInput :=
  closureOf sha256 repeatedRequest (evidenced.request sha256) repeatedDecision

theorem repeated_nowhere : Nowhere repeatedClosure.originalPlan repeatedClosure.closure.revisedPlan
    "/evidence" := by
  have absent : pointerValue (evidenced.plan sha256).toJson "/evidence" = none := by
    have tokens : pointerTokens (planScoped "/evidence") = ["evidence".toList] := by decide
    have path : (planScoped "/evidence").isEmpty = false := by decide
    rw [pointerValue, path]
    simp only [Bool.false_eq_true, if_false, tokens, List.foldl_cons, List.foldl_nil,
      Option.bind_some]
    rw [Plan.toJson, stepInto_field]
    rfl
  exact ⟨absent, absent⟩

theorem repeated_closed : ∃ result, closeFindings sha256 repeatedClosure = .ok result ∧
    ∃ entry ∈ result.findingResults, entry.findingId = repeatedFinding.findingId ∧
      entry.status = .closed := by
  have clean := deterministicFindings_clean.mp evidenced_clean
  obtain ⟨checked, added⟩ := closureOf_checked repeated_analyzed clean.plan
    (show (evidenced.request sha256).successDefinition = repeatedRequest.successDefinition from rfl)
    clean.bound.success
  obtain ⟨decision, returned, -, decided⟩ := Variant.ready evidenced_clean
    (List.isEmpty_iff.mp rfl) "2026-01-02T00:00:00Z"
  have analyzed : repeatedClosure.reanalyze sha256 = .ok decision := calls_eq_ok.mpr returned
  have changed : repeatedClosure.changed repeatedFinding = true :=
    List.any_eq_true.mpr ⟨"/evidence", List.mem_singleton_self _,
      changedAt_iff.mpr (.inr repeated_nowhere)⟩
  have gated : repeatedClosure.gate repeatedFinding =
      .ok (true, evaluated repeatedFinding "the challenged plan location") := by
    rw [ClosureInput.gate, changed]
    exact predicateGate_change rfl (by decide)
  have satisfied : ¬ ∃ finding ∈ repeatedClosure.priorDecision.findings,
      repeatedClosure.Unsatisfied finding := by
    rintro ⟨finding, listed, reason, failed⟩
    obtain rfl := List.mem_singleton.mp listed
    cases gated.symm.trans failed
  obtain ⟨result, closed, -⟩ := closeFindings_reports checked added (List.cons_ne_nil _ _) analyzed
    (readable_iff.mpr fun finding _ => gate_readable rfl finding) fun both => satisfied both.2
  obtain ⟨analyzed', entries⟩ := closed_entry closed
  cases analyzed.symm.trans analyzed'
  obtain ⟨gate, gated', entered, -⟩ := entries repeatedFinding (List.mem_singleton_self _)
  cases gated.symm.trans gated'
  refine ⟨result, closed, _, entered, rfl, ?_⟩
  have nothing : result.newDecision.findings = [] := by rw [decided]; rfl
  have verdict : result.newDecision.decision = .noMaterialGap := by rw [decided]; rfl
  rw [ClosureInput.entry, settleFinding, gapRemains_clean nothing, verdict]
  rfl

/-- **A plan that has not changed closes the finding on its evidence.** -/
theorem closed_unchanged : ∃ result,
    analyze sha256 repeatedRequest none "2026-01-01T00:00:00Z" =
        .ok repeatedClosure.priorDecision ∧
      repeatedClosure.closure.revisedPlan = repeatedClosure.originalPlan ∧
      repeatedFinding.requiredClosure.closureCode ∈ changeCodes ∧
      closeFindings sha256 repeatedClosure = .ok result ∧
      (∃ entry ∈ result.findingResults, entry.findingId = repeatedFinding.findingId ∧
        entry.status = .closed) ∧ ¬ ClosesOnChange repeatedClosure result := by
  obtain ⟨result, returned, entry, listed, named, closed⟩ := repeated_closed
  refine ⟨result, repeated_analyzed, rfl, by decide, returned, ⟨entry, listed, named, closed⟩, ?_⟩
  intro closes
  obtain ⟨location, -, differs⟩ := closes repeatedFinding (List.mem_singleton_self _) (by decide)
    entry listed named (.inl closed)
  exact not_differs_self _ location differs

theorem closes_on_change_iff_repeated : ∃ result,
    closeFindings sha256 repeatedClosure = .ok result ∧ (ClosesOnChange repeatedClosure result ↔
      ∀ finding ∈ repeatedClosure.priorDecision.findings,
        finding.requiredClosure.closureCode ∈ changeCodes →
        (∃ location ∈ finding.planLocations, Differs repeatedClosure.originalPlan
          repeatedClosure.closure.revisedPlan location) ∨
        (∀ location ∈ finding.planLocations, ¬ Nowhere repeatedClosure.originalPlan
          repeatedClosure.closure.revisedPlan location) ∨
        Reproduced sha256 repeatedClosure finding ∨
          unreplayed finding repeatedClosure.reviewer = true) := by
  obtain ⟨result, returned, -⟩ := repeated_closed
  exact ⟨result, returned, closes_on_change_iff returned⟩

end Audisor.Aflow
