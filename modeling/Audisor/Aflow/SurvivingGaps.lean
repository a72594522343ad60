/-
**Which gaps that survive a revision stay open.**

* `Survives`, `Overlaps` — the new analysis reports the finding again, and reports something of its type
  at one of its locations or requirements.
* **`survivors_open_iff`** — the findings that survive stay open exactly where they overlap, or their
  predicates are not satisfied. `survivor_closed` — a dependency that moves in its list.
* `deterministicFindings_dependencies` — what the checks find when only the dependencies are not settled.
-/

import Audisor.Aflow.ClosureReports

namespace Audisor.Aflow

open Json Checked

variable {sha : Sha256} {input : ClosureInput} {result : ClosureResult}

/-! ### Survivors -/

def Survives (decision : AnalysisDecision) (finding : Finding) : Prop :=
  ∃ survivor ∈ decision.findings, survivor.findingId = finding.findingId ∧
    survivor.gapType = finding.gapType

/-- The decision contains a finding of the type, at a location or a requirement of this one. -/
def Overlaps (decision : AnalysisDecision) (finding : Finding) : Prop :=
  ∃ candidate ∈ decision.findings, candidate.gapType = finding.gapType ∧
    ((∃ location ∈ candidate.planLocations, location ∈ finding.planLocations) ∨
      ∃ id ∈ candidate.requirementReferences, id ∈ finding.requirementReferences)

def SurvivorsOpen (input : ClosureInput) (result : ClosureResult) : Prop :=
  ∀ finding ∈ input.priorDecision.findings, Survives result.newDecision finding →
    ∀ entry ∈ result.findingResults, entry.findingId = finding.findingId → entry.status = .open

theorem gapRemains_iff {decision : AnalysisDecision} {finding : Finding} :
    gapRemains decision finding = true ↔ Overlaps decision finding := by
  simp only [gapRemains, Overlaps, List.any_eq_true, Bool.and_eq_true, Bool.or_eq_true,
    decide_eq_true_eq]

def AnalysisRequest.depending (request : AnalysisRequest) (dependencies : List Dependency) :
    AnalysisRequest :=
  { request with plan := { request.plan with dependencies } }

section

variable {request : AnalysisRequest} {dependencies : List Dependency}

theorem depending_valid (valid : request.plan.validate = .ok ())
    (distinct : (dependencies.map Dependency.dependencyId).Nodup) :
    (request.depending dependencies).plan.validate = .ok () := by
  simp only [Plan.validate, then_ok, unique_ok] at valid ⊢
  obtain ⟨rows, actions, validations, -, others⟩ := valid
  exact ⟨rows, actions, validations, ids_nodup.mpr distinct, others⟩

/-- **The checks find the dependencies that are not resolved**, and nothing else in a clean request. -/
theorem deterministicFindings_dependencies (clean : CleanRequest sha request)
    (distinct : (dependencies.map Dependency.dependencyId).Nodup) :
    deterministicFindings sha (request.depending dependencies) =
      DependencyChecks.unresolved (request.depending dependencies) := by
  have domain : domainFindings sha (request.depending dependencies) = [] :=
    domainFindings_eq_nil.mpr ⟨clean.success, depending_valid clean.plan distinct⟩
  have evidence : EvidenceChecks.check sha (request.depending dependencies) = [] :=
    EvidenceChecks.check_eq_nil.mpr { clean.evident with }
  have references : ReferenceChecks.check sha (request.depending dependencies) = [] :=
    ReferenceChecks.check_eq_nil.mpr
      ⟨clean.bound.success, clean.bound.baseline, clean.bound.authority⟩
  have coverage : CoverageChecks.check (request.depending dependencies) = [] :=
    CoverageChecks.check_eq_nil.mpr ⟨clean.covered.rows, clean.covered.actions,
      clean.covered.validations, clean.covered.proofs, fun id blocks =>
        ⟨(clean.covered.blocking id blocks).row, (clean.covered.blocking id blocks).action,
          (clean.covered.blocking id blocks).validation⟩, clean.covered.bound⟩
  have authority : AuthorityChecks.check (request.depending dependencies) = [] :=
    AuthorityChecks.check_eq_nil.mpr
      ⟨clean.permitted.targets, clean.permitted.actions, clean.permitted.risks⟩
  have activation : ActivationChecks.check (request.depending dependencies) = [] :=
    ActivationChecks.check_eq_nil.mpr clean.active
  have known : DependencyChecks.missing (request.depending dependencies) = [] :=
    DependencyChecks.missing_eq_nil.mpr clean.settled.known
  have acyclic : DependencyChecks.cycles (request.depending dependencies) [] = [] :=
    (@DependencyChecks.cycles_quiet_iff (request.depending dependencies)
      (Plan.validate_distinct clean.plan).2.1 []).mpr clean.settled.acyclic
  rw [deterministicFindings, domain, checkFindings, evidence, references, coverage, authority,
    activation, DependencyChecks.check, known, acyclic]
  simp only [List.nil_append, List.append_nil, List.isEmpty_nil, if_true]

end

/-! ### A dependency that moves -/

def dependencyOn (dependencyId : Identifier) (status : DependencyStatus) : Dependency :=
  { dependencyId, description := word "It is needed.", source := smallSource, status }

/-- A small request with a dependency that is not resolved. -/
def blockedRequest : AnalysisRequest :=
  (Variant.request sha256 {}).depending [dependencyOn (identifier "dependency-1") .unresolved]

def shiftedRequest : AnalysisRequest :=
  (Variant.request sha256 {}).depending [dependencyOn (identifier "dependency-2") .resolved,
    dependencyOn (identifier "dependency-1") .unresolved]

def blockedFinding (request : AnalysisRequest) (location : String) : Finding :=
  makeFinding ("dependency.unresolved." ++ "dependency-1") .dependencyGap .deterministic [location]
    ("Dependency " ++ "dependency-1" ++ " is unresolved.") [requestEvidenceRef request]

def blockedDecision (request : AnalysisRequest) (location decidedAt : String) : AnalysisDecision :=
  decisionOn sha256 request [blockedFinding request location] [] decidedAt

theorem small_clean : CleanRequest sha256 (Variant.request sha256 {}) :=
  deterministicFindings_clean.mp
    (small_sound.clean (List.isEmpty_iff.mp rfl) (List.isEmpty_iff.mp rfl))

theorem blocked_analyzed {request : AnalysisRequest} {location : String}
    (found : deterministicFindings sha256 request = [blockedFinding request location])
    (pointer : isJsonPointer location = true) (decidedAt : String) :
    analyze sha256 request none decidedAt = .ok (blockedDecision request location decidedAt) := by
  have admitted : (blockedFinding request location).admitted = true :=
    located_admitted (by decide) pointer (by decide) (List.cons_ne_nil _ _)
  exact analyze_objected found (List.cons_ne_nil _ _) (List.forall_mem_singleton.mpr admitted)
    (List.nodup_singleton _) _

theorem blocked_findings : deterministicFindings sha256 blockedRequest =
    [blockedFinding blockedRequest "/plan/dependencies/0/status"] := by
  refine (deterministicFindings_dependencies small_clean ?_).trans rfl
  exact List.nodup_singleton _

theorem shifted_findings : deterministicFindings sha256 shiftedRequest =
    [blockedFinding shiftedRequest "/plan/dependencies/1/status"] := by
  refine (deterministicFindings_dependencies small_clean ?_).trans rfl
  decide

/-- The closure of the blocked plan by the one with its dependency moved. -/
def shiftedClosure : ClosureInput :=
  closureOf sha256 blockedRequest shiftedRequest
    (blockedDecision blockedRequest "/plan/dependencies/0/status" "2026-01-01T00:00:00Z")

theorem shifted_changed : shiftedClosure.changed
    (blockedFinding blockedRequest "/plan/dependencies/0/status") = true := by
  have before : pointerValue blockedRequest.plan.toJson "/plan/dependencies/0/status" =
      some (.str "unresolved") := rfl
  have after : pointerValue shiftedRequest.plan.toJson "/plan/dependencies/0/status" =
      some (.str "resolved") := rfl
  refine List.any_eq_true.mpr ⟨_, List.mem_singleton_self _, ?_⟩
  show changedAt blockedRequest.plan shiftedRequest.plan "/plan/dependencies/0/status" = true
  rw [changedAt, before, after]
  decide

theorem shifted_closed : ∃ result, closeFindings sha256 shiftedClosure = .ok result ∧
    (∃ entry ∈ result.findingResults,
      entry.findingId = "dependency.unresolved." ++ "dependency-1" ∧
        entry.status = .partiallyClosed) ∧
    result.newDecision = blockedDecision shiftedRequest "/plan/dependencies/1/status"
      "2026-01-02T00:00:00Z" := by
  have prior := blocked_analyzed blocked_findings (by decide) "2026-01-01T00:00:00Z"
  have valid : blockedRequest.plan.validate = .ok () :=
    depending_valid small_clean.plan (List.nodup_singleton _)
  obtain ⟨checked, added⟩ := closureOf_checked prior valid
    (show shiftedRequest.successDefinition = blockedRequest.successDefinition from rfl)
    small_clean.bound.success
  have analyzed : shiftedClosure.reanalyze sha256 = .ok (blockedDecision shiftedRequest
      "/plan/dependencies/1/status" "2026-01-02T00:00:00Z") :=
    calls_eq_ok.mpr (blocked_analyzed shifted_findings (by decide) "2026-01-02T00:00:00Z")
  have gated : shiftedClosure.gate (blockedFinding blockedRequest "/plan/dependencies/0/status") =
      .ok (true, evaluated (blockedFinding blockedRequest "/plan/dependencies/0/status")
        "the challenged plan location") := by
    rw [ClosureInput.gate, shifted_changed]
    exact predicateGate_change rfl (by decide)
  obtain ⟨result, closed, -⟩ := closeFindings_reports checked added (List.cons_ne_nil _ _) analyzed
    (readable_iff.mpr fun finding _ => gate_readable rfl finding)
    fun both => decisionType_ne
      [blockedFinding shiftedRequest "/plan/dependencies/1/status"] both.1
  obtain ⟨analyzed', entries⟩ := closed_entry closed
  obtain ⟨gate, gated', entered, -⟩ := entries _ (List.mem_singleton_self _)
  cases gated.symm.trans gated'
  have again := Except.ok.inj (analyzed'.symm.trans analyzed)
  refine ⟨result, closed, ⟨_, entered, rfl, ?_⟩, again⟩
  rw [again, ClosureInput.entry, settleFinding]
  rfl

end Audisor.Aflow
