/-
**The words of the A-Flow artifacts.**

* One inductive type for each enumeration that the program looks into, and the `value` that stands in
  a document.
* `OneOf` — a word of a list that is only compared and hashed.
-/

import Audisor.Aflow.Formats

namespace Audisor.Aflow

/-- One of some words. -/
abbrev OneOf (words : List String) := { word : String // word ∈ words }

/-- A listed word. -/
abbrev oneOf {words : List String} (word : String)
    (listed : words.contains word = true := by exact Eq.refl true) : OneOf words :=
  ⟨word, List.contains_iff_mem.mp listed⟩

abbrev SourceType :=
  OneOf ["user_intent", "agents_md", "skill", "agent_definition", "repository_file",
    "repository_snapshot", "schema", "plan", "build_result", "human_confirmation",
    "external_document"]

abbrev ProofType :=
  OneOf ["command", "artifact", "schema", "api_response", "static_check", "edge_simulation",
    "human_confirmation"]

abbrev Phase :=
  OneOf ["discovery", "design", "implementation", "focused_validation", "final_validation",
    "packaging", "release", "cleanup"]

abbrev EvidenceType :=
  OneOf ["file_content", "file_metadata", "command_result", "test_result", "api_response",
    "artifact", "user_confirmation", "schema_result", "repository_snapshot", "authority_document",
    "semantic_review", "human_observation"]

instance : LawfulBEq EvidenceType := Subtype.instLawfulBEq

abbrev AuthorityType :=
  OneOf ["agents_md", "skill", "agent_definition", "user_instruction", "product_specification"]

abbrev RepositoryKind := OneOf ["git", "filesystem"]

abbrev GitState := OneOf ["committed", "unborn", "unavailable"]

abbrev DirtyState := OneOf ["clean", "dirty", "untracked", "mixed"]

/-- How far a source can be relied on. -/
inductive EvidenceStatus where
  | verified | userSupplied | inferred | proposed | unknown | stale | contradicted
  deriving DecidableEq, Repr

def EvidenceStatus.value : EvidenceStatus → String
  | .verified => "verified"
  | .userSupplied => "user_supplied"
  | .inferred => "inferred"
  | .proposed => "proposed"
  | .unknown => "unknown"
  | .stale => "stale"
  | .contradicted => "contradicted"

/-- What a requirement is judged by. -/
inductive QualityDimension where
  | correctness | completeness | usability | consistency | reliability | evidenceQuality
  | constraintCompliance
  deriving DecidableEq, Repr

def QualityDimension.value : QualityDimension → String
  | .correctness => "correctness"
  | .completeness => "completeness"
  | .usability => "usability"
  | .consistency => "consistency"
  | .reliability => "reliability"
  | .evidenceQuality => "evidence_quality"
  | .constraintCompliance => "constraint_compliance"

/-- Who carries a step out. -/
inductive Executor where
  | codex | deterministicLocal | edge | human
  deriving DecidableEq, Repr

def Executor.value : Executor → String
  | .codex => "codex"
  | .deterministicLocal => "deterministic_local"
  | .edge => "edge"
  | .human => "human"

/-- How much a requirement weighs. -/
inductive Priority where
  | blocking | major | minor
  deriving DecidableEq, Repr

def Priority.value : Priority → String
  | .blocking => "blocking"
  | .major => "major"
  | .minor => "minor"

/-- Whether a path may be written. -/
inductive AuthorityStatus where
  | allowed | requiresConfirmation | prohibited | unknown
  deriving DecidableEq, Repr

def AuthorityStatus.value : AuthorityStatus → String
  | .allowed => "allowed"
  | .requiresConfirmation => "requires_confirmation"
  | .prohibited => "prohibited"
  | .unknown => "unknown"

inductive PrerequisiteStatus where
  | satisfied | unsatisfied | deferred | unknown
  deriving DecidableEq, Repr

def PrerequisiteStatus.value : PrerequisiteStatus → String
  | .satisfied => "satisfied"
  | .unsatisfied => "unsatisfied"
  | .deferred => "deferred"
  | .unknown => "unknown"

/-- How a capability or an action becomes active. -/
inductive ActivationType where
  | automatic | phaseEntry | explicitUserAuthorization | externalEvent | notRequired
  deriving DecidableEq, Repr

def ActivationType.value : ActivationType → String
  | .automatic => "automatic"
  | .phaseEntry => "phase_entry"
  | .explicitUserAuthorization => "explicit_user_authorization"
  | .externalEvent => "external_event"
  | .notRequired => "not_required"

inductive DependencyStatus where
  | resolved | unresolved | notRequired
  deriving DecidableEq, Repr

def DependencyStatus.value : DependencyStatus → String
  | .resolved => "resolved"
  | .unresolved => "unresolved"
  | .notRequired => "not_required"

inductive AssumptionStatus where
  | substantiated | unsubstantiated | rejected
  deriving DecidableEq, Repr

def AssumptionStatus.value : AssumptionStatus → String
  | .substantiated => "substantiated"
  | .unsubstantiated => "unsubstantiated"
  | .rejected => "rejected"

inductive RiskStatus where
  | resolved | unresolved | noneIdentified
  deriving DecidableEq, Repr

def RiskStatus.value : RiskStatus → String
  | .resolved => "resolved"
  | .unresolved => "unresolved"
  | .noneIdentified => "none_identified"

/-- Who owns a capability. -/
inductive CapabilityOwner where
  | codex | aflow | audisor | edge | human | unknown
  deriving DecidableEq, Repr

def CapabilityOwner.value : CapabilityOwner → String
  | .codex => "codex"
  | .aflow => "aflow"
  | .audisor => "audisor"
  | .edge => "edge"
  | .human => "human"
  | .unknown => "unknown"

/-- How a path of the repository relates to the plan. -/
inductive Classification where
  | relevant | «protected» | unrelated | unknown
  deriving DecidableEq, Repr

def Classification.value : Classification → String
  | .relevant => "relevant"
  | .«protected» => "protected"
  | .unrelated => "unrelated"
  | .unknown => "unknown"

/-- Who collected a piece of evidence. -/
inductive Collector where
  | codex | deterministicLocal | human | edge | externalHarness
  deriving DecidableEq, Repr

def Collector.value : Collector → String
  | .codex => "codex"
  | .deterministicLocal => "deterministic_local"
  | .human => "human"
  | .edge => "edge"
  | .externalHarness => "external_harness"

/-- Where a piece of evidence may be used. -/
inductive Visibility where
  | analysisInput | closureInput | buildResultInput
  deriving DecidableEq, Repr

def Visibility.value : Visibility → String
  | .analysisInput => "analysis_input"
  | .closureInput => "closure_input"
  | .buildResultInput => "build_result_input"

/-- What a locator points at. -/
inductive LocatorKind where
  | jsonPointer | path | lineRange | commandId | testId | artifactId | url | humanStatement
  deriving DecidableEq, Repr

def LocatorKind.value : LocatorKind → String
  | .jsonPointer => "json_pointer"
  | .path => "path"
  | .lineRange => "line_range"
  | .commandId => "command_id"
  | .testId => "test_id"
  | .artifactId => "artifact_id"
  | .url => "url"
  | .humanStatement => "human_statement"

inductive BuildStatus where
  | completed | failed | partly
  deriving DecidableEq, Repr

def BuildStatus.value : BuildStatus → String
  | .completed => "completed"
  | .failed => "failed"
  | .partly => "partial"

/-- How a validation went. -/
inductive ResultStatus where
  | passed | failed | notRun | inconclusive
  deriving DecidableEq, Repr

def ResultStatus.value : ResultStatus → String
  | .passed => "passed"
  | .failed => "failed"
  | .notRun => "not_run"
  | .inconclusive => "inconclusive"

end Audisor.Aflow
