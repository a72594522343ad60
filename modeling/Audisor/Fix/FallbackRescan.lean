/-
**The rescan without the scanner.**

* `RepositoryTree`, `selects` — the files below the repository, and the ones a scan reads.
* `minimalRescan` — `_minimal_rescan`: what stands in for the scanner when its package is not there.
* `scan` — `DeterministicScanner.scan`, with the rules on syntax, configuration and contracts as they
  are and the others as a parameter.
* `fallback_agrees_iff` — the two report the same ids only where neither finds a broken file.
-/

import Audisor.Fix.Verification
import Audisor.Text.Words

namespace Audisor.Fix

open Checked Json Text

/-! ### The tree -/

/-- What `path.read_text(encoding="utf-8")` comes to: a text, or an error that is caught. -/
inductive ReadOutcome where
  | text (content : String)
  | failed (errorName : String)
  deriving DecidableEq

def IsPathPart (part : String) : Prop := part ≠ "" ∧ part ≠ "." ∧ '/' ∉ part.toList

instance (part : String) : Decidable (IsPathPart part) := inferInstanceAs (Decidable (_ ∧ _ ∧ _))

/-- Something below the repository. -/
structure TreeEntry where
  parts : Path
  isFile : Bool
  content : ReadOutcome
  below : parts ≠ []
  named : ∀ part ∈ parts, IsPathPart part

/-- What is at the root: nothing that is a directory, or the entries below it in sorted order. -/
abbrev RepositoryTree := Option (List TreeEntry)

/-- `root.rglob("*")`. -/
def RepositoryTree.entries (tree : RepositoryTree) : List TreeEntry := tree.getD []

namespace TreeEntry

variable (entry : TreeEntry)

/-- `path.relative_to(root).as_posix()`. -/
def rel : String := String.intercalate "/" entry.parts

/-- `path.suffix`: from the last dot on, unless it is the first or the last character of the name. -/
def suffix : List Char :=
  let name := (entry.parts.getLast entry.below).toList
  let tail := name.rtakeWhile fun c => c ≠ '.'
  if tail ≠ [] ∧ tail.length + 1 < name.length then '.' :: tail else []

/-- `rel.endswith(ending)`. -/
def endsWith (ending : String) : Bool := ending.toList.isSuffixOf entry.rel.toList

def text? : Option String :=
  match entry.content with
  | .text content => some content
  | .failed _ => none

end TreeEntry

/-- The files `_files` lists. -/
def selects (config : ScanConfig) (entry : TreeEntry) : Bool :=
  entry.isFile && config.extensions.contains (String.ofList (lower entry.suffix)) &&
    !(entry.parts.any fun part => config.excludedDirs.contains part) &&
    !config.excludedFiles.contains entry.rel

/-! ### The parsers -/

/-- Where a parser stops, and why. -/
structure ParseError where
  line : Option Int
  column : Option Int
  message : String

def optionalInt (value : Option Int) : Json := value.elim .null .int

/-- What the scans ask of Python: the syntax error of a text, and where a text that is no JSON goes
wrong. -/
structure Parsers where
  syntaxError : String → Option ParseError
  jsonPosition : String → ParseError

/-- `json.loads(text)`, as far as its `JSONDecodeError` goes. -/
def Parsers.jsonError (parsers : Parsers) (text : String) : Option ParseError :=
  if (loads text).isSome then none else some (parsers.jsonPosition text)

variable (parsers : Parsers) (config : ScanConfig) (tree : RepositoryTree)

/-! ### The fallback -/

/-- What the fallback reports for a file; `check` is a part of the id. -/
def rescanFinding (check kind rel : String) (error : ParseError) : Finding where
  id := "rescan-" ++ check ++ "-" ++ rel
  type := kind
  file := rel
  severity := "high"
  evidence := .obj [("line", optionalInt error.line), ("message", .str error.message)]

def minimalSelects (entry : TreeEntry) : Bool :=
  if !entry.isFile then false
  else if (pathParts entry.rel).any fun part => config.excludedDirs.contains part then false
  else if config.excludedFiles.contains entry.rel then false
  else config.extensions.contains (String.ofList (lower entry.suffix))

/-- One round of the fallback, for a file it does not pass. -/
def minimalFindings (entry : TreeEntry) : List Finding :=
  match entry.text? with
  | none => []
  | some text =>
    if lower entry.suffix = ".py".toList then
      ((parsers.syntaxError text).map
        (rescanFinding "syntax" "correctness.syntax_error" entry.rel)).toList
    else if lower entry.suffix = ".json".toList then
      ((parsers.jsonError text).map
        (rescanFinding "json" "configuration.invalid_configuration" entry.rel)).toList
    else []

/-- `_minimal_rescan(repository_root, scan_config)`. -/
def minimalRescan : List Finding :=
  match tree with
  | none => []
  | some entries => (entries.filter (minimalSelects config)).flatMap (minimalFindings parsers)

/-! ### The scanner -/

/-- `_syntax(rel, text)`. -/
def syntaxRule (entry : TreeEntry) (text : String) : List Detection :=
  let asJson := if entry.endsWith ".json" then
      ((parsers.jsonError text).map fun error =>
        { kind := "configuration.invalid_configuration", file := entry.rel, severity := "high"
          evidence := [("line", optionalInt error.line), ("column", optionalInt error.column),
            ("message", .str error.message),
            ("repro", .str ("python -m json.tool " ++ entry.rel))] : Detection }).toList
    else []
  if entry.endsWith ".py" then
    match parsers.syntaxError text with
    | some error =>
      [{ kind := "correctness.syntax_error", file := entry.rel, severity := "high"
         evidence := [("line", optionalInt error.line), ("column", optionalInt error.column),
           ("message", .str error.message),
           ("repro", .str ("python -m py_compile " ++ entry.rel))] }]
    | none => asJson
  else asJson

def configurationEndings : List String := [".toml", ".yaml", ".yml", ".ini", ".cfg"]

/-- `_configuration(rel, text)`. -/
def configurationRule (entry : TreeEntry) (text : String) : List Detection :=
  if [".env", "config.ini"].contains (String.ofList (lower entry.rel.toList)) then []
  else
    (if configurationEndings.any entry.endsWith && (strip text.toList).isEmpty then
      [({ kind := "configuration.invalid_configuration", file := entry.rel, severity := "medium"
          evidence := [("rule", .str "empty required configuration file"),
            ("repro", .str ("test non-empty configuration " ++ entry.rel))] } : Detection)]
    else []) ++
    (if entry.endsWith ".py" && contains text.toList "TODO(".toList then
      [{ kind := "correctness.missing_required_implementation", file := entry.rel, severity := "medium"
         evidence := [("rule", .str "unimplemented TODO marker"),
           ("repro", .str ("search TODO( in " ++ entry.rel))] }]
    else [])

def otherKinds : List String :=
  ["security.hardcoded_secret", "security.unsafe_command", "structure.duplicate_implementation",
    "authority.competing_authority_path", "dependency.conflicting_constraints",
    "dependency.duplicate_declaration", "dependency.unresolved"]

/-- The rules that look for other defects: `_security` at a file, and `_duplicates`, `_overlaps`,
`_authority_paths` and `_dependencies` at all of them. -/
structure OtherRules where
  security : String → String → List Detection
  overall : ScanConfig → RepositoryTree → List (String × String) → List Detection
  security_kind : ∀ rel text, ∀ detection ∈ security rel text, detection.kind ∈ otherKinds
  overall_kind : ∀ config tree contents, ∀ detection ∈ overall config tree contents,
    detection.kind ∈ otherKinds

def fileDetections (rules : OtherRules) (entry : TreeEntry) : List Detection :=
  match entry.content with
  | .failed errorName =>
    [{ kind := "correctness.broken_reference", file := entry.rel, severity := "medium"
       evidence := [("reason", .str errorName),
         ("repro", .str ("read " ++ entry.rel ++ " as UTF-8"))] }]
  | .text text =>
    syntaxRule parsers entry text ++ rules.security entry.rel text ++ configurationRule entry text

/-- `field in value`; a number, a truth value and `None` hold nothing and raise a `TypeError`. -/
def holdsField (value : Json) (field : String) : Except Failure Bool :=
  match value with
  | .str text => .ok (contains text.toList field.toList)
  | .arr items => .ok (items.any (Json.eq (.str field)))
  | .obj fields => .ok (hasKey fields field)
  | other => .error { code := none, typeName := "TypeError"
                      message := "argument of type '" ++ typeName other ++ "' is not iterable" }

/-- One round of the comprehension over the required fields. -/
def missingField (value : Json) (field : String) : Except Failure (List String) := do
  let held ← holdsField value field
  return if held then [] else [field]

def contractViolation (rel : String) (missing : List String) (further : Dict) : Detection where
  kind := "schema.contract_violation"
  file := rel
  severity := "high"
  evidence := ("missing_fields", .arr (missing.map .str)) :: further

/-- One round of `_contracts`. -/
def contractDetections (contents : List (String × String)) (requirement : String × List String) :
    Except Failure (List Detection) :=
  let (rel, required) := requirement
  match contents.lookup rel with
  | none => .ok [contractViolation rel required
      [("reason", .str "contract artifact missing"),
        ("repro", .str ("inspect required contract " ++ rel))]]
  | some text =>
    match loads text with
    | none => .ok []
    | some value => do
      let rounds ← required.mapM (missingField value)
      let missing := rounds.flatten
      if missing = [] then return []
      else return [contractViolation rel missing
        [("required_fields", .arr (required.map .str)),
          ("repro", .str ("validate contract fields in " ++ rel))]]

def contentsOf (files : List TreeEntry) : List (String × String) :=
  files.filterMap fun entry => entry.text?.map fun text => (entry.rel, text)

/-- `DeterministicScanner.scan(root)`, before its findings are sorted. The verifier gives it no runner
for the tests. -/
def scan (rules : OtherRules) : Except Failure (List Detection) := do
  let files := tree.entries.filter (selects config)
  let contents := contentsOf files
  let violations ← config.contractRequirements.mapM (contractDetections contents)
  return files.flatMap (fileDetections parsers rules) ++ rules.overall config tree contents ++
    violations.flatten

/-! ### What the two select -/

theorem pathParts_rel (entry : TreeEntry) : pathParts entry.rel = entry.parts :=
  pathParts_intercalate entry.below entry.named

theorem minimalSelects_eq : minimalSelects config = selects config := by
  funext entry
  unfold minimalSelects selects
  rw [pathParts_rel]
  cases entry.isFile <;> cases entry.parts.any _ <;> cases config.excludedFiles.contains _ <;> simp

/-! ### What the two report -/

/-- The parsers read what their files hold: what either takes for a Python file, and what either takes
for JSON. -/
def FileClean (entry : TreeEntry) (text : String) : Prop :=
  (lower entry.suffix = ".py".toList ∨ entry.endsWith ".py" = true → parsers.syntaxError text = none) ∧
    (lower entry.suffix = ".json".toList ∨ entry.endsWith ".json" = true → (loads text).isSome = true)

def TreeClean : Prop :=
  ∀ entry ∈ tree.entries, selects config entry = true → ∀ text ∈ entry.text?, FileClean parsers entry text

def HasFields : Json → Prop
  | .str _ | .arr _ | .obj _ => True
  | _ => False

/-- The files that must hold certain fields can be asked for them. -/
def ContractsAskable : Prop :=
  ∀ requirement ∈ config.contractRequirements, requirement.2 ≠ [] →
    ∀ text ∈ (contentsOf (tree.entries.filter (selects config))).lookup requirement.1,
      ∀ value ∈ loads text, HasFields value

def IsSyntaxOrJson (detection : Detection) : Prop :=
  detection.kind = "correctness.syntax_error" ∨
    (detection.kind = "configuration.invalid_configuration" ∧
      ".json".toList.isSuffixOf detection.file.toList = true)

theorem jsonError_eq_none {text : String} :
    parsers.jsonError text = none ↔ (loads text).isSome = true := by
  unfold Parsers.jsonError
  by_cases valid : (loads text).isSome = true
  · rw [if_pos valid]
    exact iff_of_true rfl valid
  · rw [if_neg valid]
    exact iff_of_false (Option.some_ne_none _) valid

theorem minimalFindings_eq_nil {entry : TreeEntry} {text : String} (held : entry.text? = some text) :
    minimalFindings parsers entry = [] ↔
      (lower entry.suffix = ".py".toList → parsers.syntaxError text = none) ∧
        (lower entry.suffix = ".json".toList → (loads text).isSome = true) := by
  rw [← jsonError_eq_none parsers]
  simp only [minimalFindings, held]
  by_cases python : lower entry.suffix = ".py".toList
  · have other : ".py".toList ≠ ".json".toList := by decide
    rw [if_pos python, Option.toList_eq_nil_iff, Option.map_eq_none_iff, python]
    simp only [other, true_implies, false_implies, and_true]
  · by_cases json : lower entry.suffix = ".json".toList
    · rw [if_neg python, if_pos json, Option.toList_eq_nil_iff, Option.map_eq_none_iff]
      have other : ".json".toList ≠ ".py".toList := by decide
      simp only [json, other, true_implies, false_implies, true_and]
    · rw [if_neg python, if_neg json]
      simp only [python, json, false_implies, and_self]

theorem syntaxRule_eq_nil {entry : TreeEntry} {text : String} :
    syntaxRule parsers entry text = [] ↔
      (entry.endsWith ".py" = true → parsers.syntaxError text = none) ∧
        (entry.endsWith ".json" = true → (loads text).isSome = true) := by
  rw [← jsonError_eq_none parsers]
  unfold syntaxRule
  by_cases python : entry.endsWith ".py" = true
  · cases parsers.syntaxError text with
    | none => simp [python]
    | some error => simp [python]
  · simp [python]

theorem fileClean_iff {entry : TreeEntry} {text : String} (held : entry.text? = some text) :
    FileClean parsers entry text ↔
      minimalFindings parsers entry = [] ∧ syntaxRule parsers entry text = [] := by
  rw [minimalFindings_eq_nil parsers held, syntaxRule_eq_nil, FileClean]
  constructor
  · rintro ⟨python, json⟩
    exact ⟨⟨fun suffix => python (.inl suffix), fun suffix => json (.inl suffix)⟩,
      fun ends => python (.inr ends), fun ends => json (.inr ends)⟩
  · rintro ⟨⟨python, json⟩, python', json'⟩
    exact ⟨fun either => either.elim python python', fun either => either.elim json json'⟩

/-! ### The two reports -/

variable (sha : Aflow.Sha256) (rules : OtherRules)

/-- The ids of the fallback start with `r`, those of the scanner with `s`. -/
theorem rescanFinding_id (check kind rel : String) (error : ParseError) :
    (rescanFinding check kind rel error).id.toList.head? = some 'r' := by
  simp [rescanFinding, String.toList_append]

theorem detection_id (detection : Detection) : (detection.finding sha).id.toList.head? = some 's' := by
  simp [Detection.finding, String.toList_append]

theorem minimalRescan_id {finding : Finding} (reported : finding ∈ minimalRescan parsers config tree) :
    finding.id.toList.head? = some 'r' := by
  unfold minimalRescan at reported
  cases tree with
  | none => cases reported
  | some entries =>
    obtain ⟨entry, -, here⟩ := List.mem_flatMap.mp reported
    unfold minimalFindings at here
    split at here
    · cases here
    · split_ifs at here
      · obtain ⟨error, -, rfl⟩ := Option.mem_map.mp (Option.mem_toList.mp here)
        exact rescanFinding_id _ _ _ _
      · obtain ⟨error, -, rfl⟩ := Option.mem_map.mp (Option.mem_toList.mp here)
        exact rescanFinding_id _ _ _ _
      · cases here

theorem minimalRescan_eq_nil :
    minimalRescan parsers config tree = [] ↔
      ∀ entry ∈ tree.entries, selects config entry = true → minimalFindings parsers entry = [] := by
  unfold minimalRescan
  cases tree with
  | none => exact iff_of_true rfl fun entry member => by cases member
  | some entries =>
    rw [List.flatMap_eq_nil_iff, minimalSelects_eq]
    constructor
    · intro none entry member selected
      exact none entry (List.mem_filter.mpr ⟨member, selected⟩)
    · intro none entry member
      exact none entry (List.mem_filter.mp member).1 (List.mem_filter.mp member).2

theorem syntaxRule_kind {entry : TreeEntry} {text : String} {detection : Detection}
    (reported : detection ∈ syntaxRule parsers entry text) : IsSyntaxOrJson detection := by
  have json : detection ∈ (if entry.endsWith ".json" then
      ((parsers.jsonError text).map fun error =>
        { kind := "configuration.invalid_configuration", file := entry.rel, severity := "high"
          evidence := [("line", optionalInt error.line), ("column", optionalInt error.column),
            ("message", .str error.message),
            ("repro", .str ("python -m json.tool " ++ entry.rel))] : Detection }).toList
    else []) → IsSyntaxOrJson detection := by
    intro here
    by_cases ends : entry.endsWith ".json" = true
    · rw [if_pos ends] at here
      obtain ⟨error, -, rfl⟩ := Option.mem_map.mp (Option.mem_toList.mp here)
      exact .inr ⟨rfl, ends⟩
    · rw [if_neg ends] at here
      cases here
  unfold syntaxRule at reported
  by_cases python : entry.endsWith ".py" = true
  · cases found : parsers.syntaxError text with
    | none =>
      rw [if_pos python, found] at reported
      exact json reported
    | some error =>
      rw [if_pos python, found, List.mem_singleton] at reported
      subst reported
      exact .inl rfl
  · rw [if_neg python] at reported
    exact json reported

theorem configuration_ending {ending : String} {text : List Char} (listed : ending ∈ configurationEndings)
    (ends : ending.toList.isSuffixOf text = true) : ".json".toList.isSuffixOf text = false := by
  rw [Bool.eq_false_iff]
  intro json
  rw [List.isSuffixOf_iff_suffix] at ends json
  have apart : ending.toList.length ≤ ".json".toList.length ∧ ¬ ending.toList <:+ ".json".toList := by
    simp only [configurationEndings, List.mem_cons, List.not_mem_nil, or_false] at listed
    rcases listed with rfl | rfl | rfl | rfl | rfl <;> decide
  exact apart.2 (List.suffix_of_suffix_length_le ends json apart.1)

theorem other_kind {detection : Detection} (other : detection.kind ∈ otherKinds) :
    ¬ IsSyntaxOrJson detection := by
  rintro (kind | ⟨kind, -⟩)
  · rw [kind] at other
    revert other
    decide
  · rw [kind] at other
    revert other
    decide

theorem empty_kind {entry : TreeEntry} {text : String} {detection : Detection}
    (empty : (configurationEndings.any entry.endsWith && (strip text.toList).isEmpty) = true)
    (file : detection.file = entry.rel) (kind : detection.kind = "configuration.invalid_configuration") :
    ¬ IsSyntaxOrJson detection := by
  obtain ⟨ending, listed, ends⟩ := List.any_eq_true.mp (Bool.and_eq_true_iff.mp empty).1
  rintro (other | ⟨-, json⟩)
  · rw [kind] at other
    revert other
    decide
  · rw [file] at json
    exact absurd json (Bool.eq_false_iff.mp (configuration_ending listed ends))

theorem todo_kind {detection : Detection}
    (kind : detection.kind = "correctness.missing_required_implementation") :
    ¬ IsSyntaxOrJson detection := by
  rintro (other | ⟨other, -⟩)
  all_goals
    rw [kind] at other
    revert other
    decide

theorem configurationRule_kind {entry : TreeEntry} {text : String} {detection : Detection}
    (reported : detection ∈ configurationRule entry text) : ¬ IsSyntaxOrJson detection := by
  unfold configurationRule at reported
  split_ifs at reported with skipped empty todo todo
  all_goals
    simp only [List.nil_append, List.append_nil, List.cons_append, List.mem_cons, List.not_mem_nil,
      or_false] at reported
  · rcases reported with rfl | rfl
    · exact empty_kind empty rfl rfl
    · exact todo_kind rfl
  · subst reported
    exact empty_kind empty rfl rfl
  · subst reported
    exact todo_kind rfl

theorem fileDetections_kind {entry : TreeEntry} {detection : Detection} :
    (detection ∈ fileDetections parsers rules entry ∧ IsSyntaxOrJson detection) ↔
      ∃ text, entry.text? = some text ∧ detection ∈ syntaxRule parsers entry text := by
  unfold fileDetections TreeEntry.text?
  cases entry.content with
  | failed errorName =>
    refine iff_of_false ?_ (by rintro ⟨text, ⟨⟩, -⟩)
    rintro ⟨reported, kind⟩
    rw [List.mem_singleton.mp reported] at kind
    rcases kind with kind | ⟨kind, -⟩
    all_goals
      revert kind
      simp
  | text text =>
    constructor
    · rintro ⟨reported, kind⟩
      rcases List.mem_append.mp reported with earlier | configuration
      · rcases List.mem_append.mp earlier with syntaxes | security
        · exact ⟨text, rfl, syntaxes⟩
        · exact absurd kind (other_kind (rules.security_kind _ _ _ security))
      · exact absurd kind (configurationRule_kind configuration)
    · rintro ⟨_, ⟨⟩, reported⟩
      exact ⟨List.mem_append_left _ (List.mem_append_left _ reported), syntaxRule_kind parsers reported⟩

theorem contractDetections_kind {contents : List (String × String)} {requirement : String × List String}
    {found : List Detection} (checked : contractDetections contents requirement = .ok found)
    {detection : Detection} (reported : detection ∈ found) : ¬ IsSyntaxOrJson detection := by
  have violation : detection.kind = "schema.contract_violation" := by
    obtain ⟨rel, required⟩ := requirement
    simp only [contractDetections] at checked
    cases held : contents.lookup rel with
    | none =>
      rw [held] at checked
      cases checked
      rw [List.mem_singleton.mp reported]
      rfl
    | some text =>
      rw [held] at checked
      cases read : loads text with
      | none =>
        simp only [read] at checked
        cases checked
        cases reported
      | some value =>
        simp only [read] at checked
        obtain ⟨missing, -, rest⟩ := bind_eq_ok.mp checked
        by_cases complete : missing.flatten = []
        · rw [if_pos complete] at rest
          cases rest
          cases reported
        · rw [if_neg complete] at rest
          cases rest
          rw [List.mem_singleton.mp reported]
          rfl
  rintro (kind | ⟨kind, -⟩)
  all_goals
    rw [violation] at kind
    revert kind
    decide

theorem scan_kind {detections : List Detection} (scanned : scan parsers config tree rules = .ok detections)
    {detection : Detection} :
    (detection ∈ detections ∧ IsSyntaxOrJson detection) ↔
      ∃ entry ∈ tree.entries, selects config entry = true ∧
        ∃ text, entry.text? = some text ∧ detection ∈ syntaxRule parsers entry text := by
  obtain ⟨violations, checked, rest⟩ := bind_eq_ok.mp scanned
  cases rest
  constructor
  · rintro ⟨reported, kind⟩
    rcases List.mem_append.mp reported with earlier | violation
    · rcases List.mem_append.mp earlier with own | overall
      · obtain ⟨entry, listed, here⟩ := List.mem_flatMap.mp own
        obtain ⟨text, held, found⟩ := (fileDetections_kind parsers rules).mp ⟨here, kind⟩
        obtain ⟨member, selected⟩ := List.mem_filter.mp listed
        exact ⟨entry, member, selected, text, held, found⟩
      · exact absurd kind (other_kind (rules.overall_kind _ _ _ _ overall))
    · obtain ⟨found, listed, here⟩ := List.mem_flatten.mp violation
      obtain ⟨requirement, -, returned⟩ :=
        exists_mem_of_forall₂ (mapM_eq_ok.mp checked) listed
      exact absurd kind (contractDetections_kind returned here)
  · rintro ⟨entry, member, selected, text, held, found⟩
    obtain ⟨here, kind⟩ := (fileDetections_kind parsers rules).mpr ⟨text, held, found⟩
    refine ⟨List.mem_append_left _ (List.mem_append_left _ (List.mem_flatMap.mpr ⟨entry, ?_, here⟩)), kind⟩
    exact List.mem_filter.mpr ⟨member, selected⟩

/-! ### When the scanner returns -/

theorem holdsField_returns {value : Json} {field : String} :
    (∃ held, holdsField value field = .ok held) ↔ HasFields value := by
  cases value with
  | str text => exact iff_of_true ⟨_, rfl⟩ trivial
  | arr items => exact iff_of_true ⟨_, rfl⟩ trivial
  | obj fields => exact iff_of_true ⟨_, rfl⟩ trivial
  | null | bool _ | int _ | float _ => exact iff_of_false (by rintro ⟨_, ⟨⟩⟩) id

theorem missingFields_returns {value : Json} {required : List String} :
    (∃ rounds, required.mapM (missingField value) = .ok rounds) ↔ (required ≠ [] → HasFields value) := by
  have each (field : String) : (∃ round, missingField value field = .ok round) ↔ HasFields value := by
    rw [← @holdsField_returns value field]
    constructor
    · rintro ⟨round, returned⟩
      obtain ⟨held, here, -⟩ := bind_eq_ok.mp returned
      exact ⟨held, here⟩
    · rintro ⟨held, here⟩
      exact ⟨_, bind_eq_ok.mpr ⟨held, here, rfl⟩⟩
  simp only [mapM_returns, each]
  cases required with
  | nil => exact iff_of_true (fun field member => by cases member) fun some => absurd rfl some
  | cons first others =>
    exact ⟨fun fields _ => fields first List.mem_cons_self, fun fields _ _ => fields (List.cons_ne_nil _ _)⟩

theorem contractDetections_returns {contents : List (String × String)}
    {requirement : String × List String} :
    (∃ found, contractDetections contents requirement = .ok found) ↔
      (requirement.2 ≠ [] → ∀ text ∈ contents.lookup requirement.1, ∀ value ∈ loads text,
        HasFields value) := by
  obtain ⟨rel, required⟩ := requirement
  simp only [contractDetections]
  cases held : contents.lookup rel with
  | none => exact iff_of_true ⟨_, rfl⟩ fun _ text none => by cases none
  | some text =>
    cases read : loads text with
    | none =>
      refine iff_of_true ⟨_, by simp only [read]; rfl⟩ ?_
      rintro - _ ⟨⟩ value some
      rw [read] at some
      cases some
    | some value =>
      simp only [read]
      constructor
      · rintro ⟨found, returned⟩ some _ ⟨⟩ other there
        obtain ⟨missing, here, -⟩ := bind_eq_ok.mp returned
        rw [read] at there
        cases there
        exact missingFields_returns.mp ⟨missing, here⟩ some
      · intro fields
        obtain ⟨missing, here⟩ := missingFields_returns.mpr fun some => fields some text rfl value read
        by_cases complete : missing.flatten = []
        · exact ⟨_, bind_eq_ok.mpr ⟨missing, here, if_pos complete⟩⟩
        · exact ⟨_, bind_eq_ok.mpr ⟨missing, here, if_neg complete⟩⟩

theorem scan_returns :
    (∃ detections, scan parsers config tree rules = .ok detections) ↔ ContractsAskable config tree := by
  have each : ContractsAskable config tree ↔ ∀ requirement ∈ config.contractRequirements,
      ∃ found, contractDetections (contentsOf (tree.entries.filter (selects config))) requirement =
        .ok found := by
    unfold ContractsAskable
    simp only [contractDetections_returns]
  rw [each, ← mapM_returns]
  constructor
  · rintro ⟨detections, scanned⟩
    obtain ⟨violations, checked, -⟩ := bind_eq_ok.mp scanned
    exact ⟨violations, checked⟩
  · rintro ⟨violations, checked⟩
    exact ⟨_, bind_eq_ok.mpr ⟨violations, checked, rfl⟩⟩

/-! ### The agreement -/

/-- No original finding shares its short hash with a detection of another kind or at another file. -/
def Distinguished (originals detections : List Detection) : Prop :=
  ∀ original ∈ originals, ∀ detection ∈ detections,
    (original.finding sha).id = (detection.finding sha).id →
      original.kind = detection.kind ∧ original.file = detection.file

/-- `_evaluate_scanner_clear(...)`: the original findings that remain. -/
def remainingOriginals (originals : List String) (report : List Finding) : List String :=
  originals.filter fun id => id ∈ scannerEvidence report

/-- The two reports lead to the same verdicts on the originals. -/
def SameVerdicts (originals : List String) (first second : List Finding) : Prop :=
  remainingOriginals originals first = remainingOriginals originals second ∧
    ∀ id ∈ originals, scannerClear (scannerEvidence first) id = scannerClear (scannerEvidence second) id

/-- **The fallback agrees with the scanner**: it returns the ids of the findings of its two kinds, and
every handoff on such findings has the verdict it has with the scanner. -/
def FallbackAgrees : Prop :=
  ∃ detections, scan parsers config tree rules = .ok detections ∧
    (∀ id, id ∈ (minimalRescan parsers config tree).map Finding.id ↔
      ∃ detection ∈ detections, IsSyntaxOrJson detection ∧ (detection.finding sha).id = id) ∧
    ∀ originals : List Detection, (∀ original ∈ originals, IsSyntaxOrJson original) →
      Distinguished sha originals detections →
        SameVerdicts (originals.map fun original => (original.finding sha).id)
          (minimalRescan parsers config tree) (reportOf sha detections)

theorem mem_evidence {detections : List Detection} {id : String}
    (reported : id ∈ scannerEvidence (reportOf sha detections)) :
    ∃ detection ∈ detections, (detection.finding sha).id = id := by
  obtain ⟨finding, listed, rfl⟩ := List.mem_map.mp (List.mem_filter.mp reported).1
  obtain ⟨detection, member, rfl⟩ := List.mem_map.mp (List.mem_mergeSort.mp listed)
  exact ⟨detection, member, rfl⟩

theorem treeClean_iff {detections : List Detection} (scanned : scan parsers config tree rules = .ok detections) :
    TreeClean parsers config tree ↔
      minimalRescan parsers config tree = [] ∧ ∀ detection ∈ detections, ¬ IsSyntaxOrJson detection := by
  rw [minimalRescan_eq_nil]
  constructor
  · intro clean
    refine ⟨fun entry member selected => ?_, fun detection reported kind => ?_⟩
    · cases held : entry.text? with
      | none => rw [minimalFindings, held]
      | some text => exact ((fileClean_iff parsers held).mp (clean entry member selected text held)).1
    · obtain ⟨entry, member, selected, text, held, found⟩ :=
        (scan_kind parsers config tree rules scanned).mp ⟨reported, kind⟩
      rw [((fileClean_iff parsers held).mp (clean entry member selected text held)).2] at found
      cases found
  · rintro ⟨none, others⟩ entry member selected text held
    refine (fileClean_iff parsers held).mpr ⟨none entry member selected, ?_⟩
    refine List.eq_nil_iff_forall_not_mem.mpr fun detection found => ?_
    obtain ⟨reported, kind⟩ := (scan_kind parsers config tree rules scanned).mpr
      ⟨entry, member, selected, text, held, found⟩
    exact others detection reported kind

/-- **When the fallback agrees with the scanner**: exactly if neither finds a broken file, and the scanner
can check its contracts. -/
theorem fallback_agrees_iff :
    FallbackAgrees parsers config tree sha rules ↔
      TreeClean parsers config tree ∧ ContractsAskable config tree := by
  rw [← scan_returns parsers config tree rules]
  constructor
  · rintro ⟨detections, scanned, ids, -⟩
    refine ⟨(treeClean_iff parsers config tree rules scanned).mpr ⟨?_, ?_⟩, detections, scanned⟩
    · refine List.eq_nil_iff_forall_not_mem.mpr fun finding reported => ?_
      obtain ⟨detection, -, -, same⟩ := (ids finding.id).mp (List.mem_map_of_mem reported)
      have first := minimalRescan_id parsers config tree reported
      rw [← same, detection_id] at first
      exact absurd first (by decide)
    · intro detection reported kind
      obtain ⟨finding, there, same⟩ := List.mem_map.mp ((ids _).mpr ⟨detection, reported, kind, rfl⟩)
      have first := minimalRescan_id parsers config tree there
      rw [same, detection_id] at first
      exact absurd first (by decide)
  · rintro ⟨clean, detections, scanned⟩
    obtain ⟨none, others⟩ := (treeClean_iff parsers config tree rules scanned).mp clean
    refine ⟨detections, scanned, fun id => ?_, fun originals kinds distinguished => ?_⟩
    · rw [none]
      refine iff_of_false List.not_mem_nil ?_
      rintro ⟨detection, reported, kind, -⟩
      exact others detection reported kind
    · have gone : ∀ id ∈ originals.map (fun original => (original.finding sha).id),
          id ∉ scannerEvidence (reportOf sha detections) := by
        intro id listed reported
        obtain ⟨original, member, rfl⟩ := List.mem_map.mp listed
        obtain ⟨detection, found, same⟩ := mem_evidence sha reported
        obtain ⟨kind, file⟩ := distinguished original member detection found same.symm
        have original_kind := kinds original member
        rw [IsSyntaxOrJson, kind, file] at original_kind
        exact others detection found original_kind
      have empty : scannerEvidence [] = [] := rfl
      rw [none]
      refine ⟨?_, fun id listed => ?_⟩
      · rw [remainingOriginals, remainingOriginals, empty]
        refine List.filter_congr fun id listed => ?_
        rw [decide_eq_false (gone id listed), decide_eq_false List.not_mem_nil]
      · rw [scannerClear, scannerClear, empty, if_neg (gone id listed), if_neg List.not_mem_nil]

/-! ### A broken file -/

theorem rootFile_named : ∀ part ∈ ["app.json"], IsPathPart part := by
  intro part listed
  rw [List.mem_singleton.mp listed]
  decide

/-- A repository with one file, which opens an object and does not close it. -/
def openedObject : RepositoryTree :=
  some [⟨["app.json"], true, .text "\x7b", List.cons_ne_nil _ _, rootFile_named⟩]

def jsonConfig : ScanConfig where
  excludedDirs := []
  excludedFiles := []
  extensions := [".json"]
  testCommands := []
  contractRequirements := []
  sourceRoots := []
  repositoryRoot := "/repo"

def openedParsers : Parsers where
  syntaxError _ := none
  jsonPosition _ := ⟨some 1, some 2, "Expecting property name enclosed in double quotes"⟩

def noOtherRules : OtherRules where
  security _ _ := []
  overall _ _ _ := []
  security_kind _ _ _ reported := by cases reported
  overall_kind _ _ _ _ reported := by cases reported

def openedDetection : Detection where
  kind := "configuration.invalid_configuration"
  file := "app.json"
  severity := "high"
  evidence := [("line", .int 1), ("column", .int 2),
    ("message", .str "Expecting property name enclosed in double quotes"),
    ("repro", .str "python -m json.tool app.json")]

/-- The defect is there before and after, the scanner finds it both times, and the fallback reports it
under an id of its own: the verdict on it is that it is gone. -/
theorem opened_reported_clear :
    scan openedParsers jsonConfig openedObject noOtherRules = .ok [openedDetection] ∧
      IsSyntaxOrJson openedDetection ∧
      (minimalRescan openedParsers jsonConfig openedObject).map Finding.id = ["rescan-json-app.json"] ∧
      remainingOriginals [(openedDetection.finding Aflow.sha256).id]
        (reportOf Aflow.sha256 [openedDetection]) = [(openedDetection.finding Aflow.sha256).id] ∧
      remainingOriginals [(openedDetection.finding Aflow.sha256).id]
        (minimalRescan openedParsers jsonConfig openedObject) = [] ∧
      ¬ FallbackAgrees openedParsers jsonConfig openedObject Aflow.sha256 noOtherRules := by
  have scanned : scan openedParsers jsonConfig openedObject noOtherRules = .ok [openedDetection] := by
    rfl
  have ids : (minimalRescan openedParsers jsonConfig openedObject).map Finding.id =
      ["rescan-json-app.json"] := by
    decide +kernel
  refine ⟨scanned, .inr ⟨rfl, by decide⟩, ids, ?_, ?_, ?_⟩
  · decide +kernel
  · decide +kernel
  · rintro ⟨detections, _, same, -⟩
    obtain ⟨detection, -, -, found⟩ := (same "rescan-json-app.json").mp (ids ▸ List.mem_singleton_self _)
    have first := detection_id Aflow.sha256 detection
    rw [found] at first
    exact absurd first (by decide)

end Audisor.Fix
