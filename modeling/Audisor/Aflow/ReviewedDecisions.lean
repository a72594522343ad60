/-
**A reviewer can only tighten the verdict.**

* `Cites` — what a finding cites is evidence of the request, with its hash.
* `findingsOf_added` — a review adds findings after those of the program, and takes none away.
* **`review_tightens`** — the findings without a reviewer are the first ones with any reviewer; what is added is
  semantic, has an id of its own, and cites evidence of the request.
-/

import Audisor.Aflow.LockedPlans

namespace Audisor.Aflow

variable {sha : Sha256} {request : AnalysisRequest}

/-! ### Findings of a reviewer -/

/-- What the finding cites is evidence of the request, with its exact hash. -/
def Cites (request : AnalysisRequest) (finding : Finding) : Prop :=
  finding.evidenceReferences ≠ [] ∧
    ∀ ref ∈ finding.evidenceReferences, ∃ item ∈ request.evidence, item.ref = ref

theorem exists_of_resolves {ref : EvidenceRef} (resolves : EvidenceChecks.resolves request ref = true) :
    ∃ item ∈ request.evidence, item.ref = ref := by
  unfold EvidenceChecks.resolves at resolves
  cases found : byKey request.evidence Evidence.evidenceId ref.evidenceId with
  | none =>
    rw [found] at resolves
    cases resolves
  | some item =>
    rw [found] at resolves
    obtain ⟨member, own⟩ := byKey_some found
    refine ⟨item, member, ?_⟩
    rw [Evidence.ref, own, of_decide_eq_true resolves]

/-- **What is substantiated** is semantic, and cites evidence of the request. -/
theorem substantiated_cites {candidate : Finding} {trusted : Bool}
    (accepted : substantiated request trusted candidate = true) :
    candidate.origin = .semantic ∧ Cites request candidate := by
  simp only [substantiated, List.isEmpty_iff, reasons, List.append_eq_nil_iff, List.map_eq_nil_iff,
    List.filter_eq_nil_iff] at accepted
  obtain ⟨⟨⟨⟨⟨⟨-, semantic⟩, -⟩, -⟩, -⟩, resolve⟩, cites⟩ := accepted
  refine ⟨?_, ?_, fun ref listed => exists_of_resolves ?_⟩
  · by_contra other
    rw [if_neg other] at semantic
    cases semantic
  · rintro none
    rw [none] at cites
    cases cites
  · simpa using resolve ref listed

/-- A finding that a reviewer has added. -/
structure Added (request : AnalysisRequest) (finding : Finding) : Prop where
  semantic : finding.origin = .semantic
  unreserved : ¬ "semantic.".toList <+: finding.findingId.toList
  cites : Cites request finding

/-- **A review adds findings after those of the program.** -/
theorem findingsOf_added (reviewer : Option Reviewer) : ∃ added,
    (findingsOf sha request reviewer).1 = (findingsOf sha request none).1 ++ added ∧
      ∀ finding ∈ added, Added request finding := by
  unfold findingsOf
  split
  · refine ⟨(reviewFindings request (reviewer.getD nullReviewer request)).1.drop
      (substantiate (SemanticChecks.candidates request) request true).1.length, ?_, ?_⟩
    · rw [Option.getD_none, reviewFindings_nullReviewer, reviewFindings, List.drop_left]
    · intro finding member
      rw [reviewFindings, List.drop_left] at member
      obtain ⟨proposed, accepted⟩ := List.mem_filter.mp member
      obtain ⟨semantic, cites⟩ := substantiated_cites accepted
      have free := (List.mem_filter.mp proposed).2
      refine ⟨semantic, fun reserved => ?_, cites⟩
      rw [isReserved, List.isPrefixOf_iff_prefix.mpr reserved] at free
      cases free
  · exact ⟨[], (List.append_nil _).symm, List.forall_mem_nil _⟩

theorem findingsOf_rejected (reviewer : Option Reviewer) :
    ((findingsOf sha request none).2).Sublist (findingsOf sha request reviewer).2 := by
  unfold findingsOf
  split
  · rw [Option.getD_none, reviewFindings_nullReviewer, reviewFindings]
    exact (List.sublist_append_left _ _).trans (List.sublist_append_right _ _)
  · exact List.Sublist.refl _

/-! ### Decisions -/

theorem analyze_unreviewed {reviewer : Option Reviewer} {decidedAt : String}
    {decision : AnalysisDecision}
    (returned : analyze sha request reviewer decidedAt = .ok decision) (decidedAt' : String) :
    (∃ plain, analyze sha request none decidedAt' = .ok plain) ↔
      (deterministicFindings sha request = [] →
        isIdentifier ("review." ++ request.analysisId.val) = true) := by
  have named : (nullReviewer request).admitted = true ↔
      isIdentifier ("review." ++ request.analysisId.val) = true :=
    Bool.and_eq_true_iff.trans (and_iff_left rfl)
  constructor
  · rintro ⟨plain, unreviewed⟩ clean
    exact named.mp ((analyze_ok.mp unreviewed).1 clean)
  · intro fits
    obtain ⟨⟨fit, unique⟩, ⟨fit', unique'⟩, -⟩ := conclude_ok.mp (analyze_ok.mp returned).2
    obtain ⟨added, same, -⟩ := @findingsOf_added sha request reviewer
    rw [same] at fit unique
    rw [List.map_append] at unique
    have rejected := @findingsOf_rejected sha request reviewer
    refine ⟨_, analyze_ok.mpr ⟨fun clean => named.mpr (fits clean), conclude_ok.mpr
      ⟨⟨fun finding member => fit finding (List.mem_append_left _ member),
        (List.nodup_append.mp unique).1⟩, ⟨fun entry member => fit' entry (rejected.subset member),
        unique'.sublist (rejected.map _)⟩, rfl⟩⟩⟩

end Audisor.Aflow
