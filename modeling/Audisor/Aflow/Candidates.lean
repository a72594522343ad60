/-
**When a finding is well formed, and when a candidate is substantiated.**

* `makeFinding_admitted` — a finding that `makeFinding` fills in is admitted when its id is an
  identifier.
* `substantiated_iff` — a specific candidate on known requirements is accepted when its locations and
  its evidence resolve.
* `conclude_named` — where a decision is returned, every candidate has an identifier.
-/

import Audisor.Aflow.Pointers
import Audisor.Aflow.ReadyPlans

namespace Audisor.Aflow

open Json

/-! ### Well-formed findings -/

theorem tildesEscaped_of_absent {text : List Char} (absent : '~' ∉ text) :
    tildesEscaped text = true := by
  induction text with
  | nil => rfl
  | cons c rest ih =>
    rw [List.mem_cons, not_or] at absent
    have escaped := ih absent.2
    have ordinary : c ≠ '~' := fun same => absent.1 same.symm
    rw [tildesEscaped]
    · exact escaped
    · exact fun _ same => absurd same ordinary
    · exact fun _ same => absurd same ordinary
    · exact ordinary

theorem isJsonPointer_plain {text : String} {rest : List Char} (slash : text.toList = '/' :: rest)
    (absent : '~' ∉ rest) : isJsonPointer text = true := by
  rw [isJsonPointer, slash, pointerPattern, tildesEscaped_of_absent absent, Bool.true_or]

/-- Options without an empty text. -/
structure FindingOptions.Stated (options : FindingOptions) : Prop where
  reasoning : options.reasoning ≠ some ""
  why : options.why ≠ some ""
  predicates : ∀ predicates, options.acceptancePredicates = some predicates →
    predicates ≠ [] ∧ ∀ predicate ∈ predicates, predicate ≠ ""

theorem getD_ne_empty {text : Option String} {fallback : String} (stated : text ≠ some "")
    (some : fallback ≠ "") : text.getD fallback ≠ "" := by
  cases text with
  | none => exact some
  | some own => exact fun empty => stated (congrArg Option.some empty)

/-- **A finding of a check is admitted when its id is an identifier.** -/
theorem makeFinding_admitted {findingId : String} {gap : GapType} {origin : Origin}
    {locations : List String} {claim : String} {evidence : List EvidenceRef}
    {options : FindingOptions} (located : locations ≠ []) (distinct : locations.Nodup)
    (pointers : ∀ location ∈ locations, isJsonPointer location = true) (claimed : claim ≠ "")
    (cites : evidence ≠ []) (stated : options.Stated) :
    (makeFinding findingId gap origin locations claim evidence options).admitted =
      isIdentifier findingId := by
  have described : "Resolve the bounded " ++ gap.value ++ " at the challenged plan location." ≠ "" := by
    simp
  have predicates : (options.acceptancePredicates.getD
      ["The " ++ gap.value ++ " condition is no longer present."]) ≠ [] ∧
      ∀ predicate ∈ options.acceptancePredicates.getD
        ["The " ++ gap.value ++ " condition is no longer present."], predicate ≠ "" := by
    cases given : options.acceptancePredicates with
    | none => simp
    | some predicates => exact stated.predicates predicates given
  have reasoned := getD_ne_empty stated.reasoning claimed
  have mattered : options.why.getD
      "The accepted plan could not reliably prove the locked success definition." ≠ "" :=
    getD_ne_empty stated.why (by decide)
  have every : (options.acceptancePredicates.getD
      ["The " ++ gap.value ++ " condition is no longer present."]).all (· != "") = true := by
    rw [List.all_eq_true]
    exact fun predicate member => bne_iff_ne.mpr (predicates.2 predicate member)
  simp only [Finding.admitted, makeFinding, List.isEmpty_eq_false_iff.mpr located,
    Bool.false_eq_true, if_false, distinct, List.all_eq_true.mpr pointers, bne_iff_ne.mpr claimed, List.isEmpty_eq_false_iff.mpr cites,
    bne_iff_ne.mpr reasoned, bne_iff_ne.mpr mattered, bne_iff_ne.mpr described,
    List.isEmpty_eq_false_iff.mpr predicates.1, every, decide_true, Bool.not_false, Bool.and_true,
    Bool.or_true]

/-! ### Specific claims -/

def Specific (claim : String) : Prop :=
  ¬ (Text.lower (Text.strip claim.toList) ∈ vague.map String.toList ∨ claim.length < 16)

theorem lower_append (first second : List Char) :
    Text.lower (first ++ second) = Text.lower first ++ Text.lower second := List.flatMap_append

/-- No vague claim begins like `Assumption`. -/
theorem specific_of_head {claim : String} {rest : List Char} (begins : claim.toList = 'A' :: rest)
    (long : 16 ≤ claim.length) : Specific claim := by
  rintro (listed | short)
  · rw [begins, Text.strip_opens (by decide), ← List.singleton_append, lower_append] at listed
    have heads : ∀ word ∈ vague.map String.toList, word.head? ≠ some 'a' :=
      List.forall_mem_map.mpr (by decide)
    exact heads _ listed rfl
  · omega

theorem specific_of_last {claim : String} {front : List Char}
    (ends : claim.toList = 'V' :: front ++ ['.']) (long : 16 ≤ claim.length) : Specific claim := by
  rintro (listed | short)
  · have written : ¬ Text.Blank ('V' :: front) := fun blank =>
      absurd (blank 'V' List.mem_cons_self) (by decide)
    have stopped : ¬ Text.Blank ['.'] := by decide
    rw [ends, Text.strip_append written stopped, lower_append] at listed
    have lasts : ∀ word ∈ vague.map String.toList, word.getLast? ≠ some '.' :=
      List.forall_mem_map.mpr (by decide)
    refine lasts _ listed ?_
    rw [show Text.lower (['.'].rdropWhile Text.isWhitespace) = ['.'] by decide, List.getLast?_append]
    rfl
  · omega

/-! ### Substantiated candidates -/

variable {sha : Sha256} {request : AnalysisRequest}

/-- **When a specific candidate is accepted.** -/
theorem substantiated_iff {candidate : Finding} (admitted : candidate.admitted = true)
    (semantic : candidate.origin = .semantic) (specific : Specific candidate.specificClaim)
    (known : ∀ id ∈ candidate.requirementReferences,
      id ∈ request.successDefinition.requirements.val.map Requirement.requirementId)
    (cites : candidate.evidenceReferences ≠ []) (located : candidate.planLocations ≠ []) :
    substantiated request true candidate = true ↔
      (∀ location ∈ candidate.planLocations,
        resolvePointer request.plan.toJson (planScoped location) = true) ∧
      ∀ ref ∈ candidate.evidenceReferences, EvidenceChecks.resolves request ref = true := by
  have familiar : (candidate.requirementReferences.any fun id =>
      id ∉ request.successDefinition.requirements.val.map Requirement.requirementId) = false := by
    rw [List.any_eq_false]
    intro id member
    simpa using known id member
  have supported : (cited request candidate).any (supports candidate) ||
      (true && !candidate.planLocations.isEmpty) = true := by
    simp [located]
  rw [substantiated, List.isEmpty_iff, reasons, if_pos admitted, if_pos semantic, if_neg specific,
    familiar, List.isEmpty_eq_false_iff.mpr cites]
  simp [located, List.filter_eq_nil_iff]

theorem substantiated_admitted {candidate : Finding} {trusted : Bool}
    (accepted : substantiated request trusted candidate = true) : candidate.admitted = true := by
  by_contra refused
  rw [substantiated, List.isEmpty_iff, reasons, if_neg refused] at accepted
  simp at accepted

theorem conclude_named {findings : List Finding} {rejected : List RejectedFinding}
    {candidates : List Finding} {decidedAt : String} {decision : AnalysisDecision} {trusted : Bool}
    (concluded : conclude sha request findings rejected decidedAt = .ok decision)
    (accepted : ∀ finding ∈ (substantiate candidates request trusted).1, finding ∈ findings)
    (refused : ∀ entry ∈ (substantiate candidates request trusted).2, entry ∈ rejected) :
    ∀ candidate ∈ candidates, isIdentifier candidate.findingId = true := by
  obtain ⟨⟨fit, _⟩, ⟨fit', _⟩, _⟩ := conclude_ok.mp concluded
  intro candidate member
  cases kept : substantiated request trusted candidate with
  | true =>
    have admitted := fit candidate (accepted candidate (List.mem_filter.mpr ⟨member, kept⟩))
    simp only [Finding.admitted, Bool.and_eq_true] at admitted
    exact admitted.1.1.1.1.1.1.1.1
  | false =>
    have entry := refused (rejection request trusted candidate) (List.mem_map_of_mem
      (List.mem_filter.mpr ⟨member, by simp [kept]⟩))
    exact (fit' _ entry).1

end Audisor.Aflow
