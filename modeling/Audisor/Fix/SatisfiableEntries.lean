/-
**Which entries of a contract can be satisfied.**

* `RepositoryState` — what the verifier can find on the disk: links, directories, and files whose names have
  no null character. `RepositoryState.script` answers the verifier from it.
* `CheckPasses`, `ValidationPasses` — some repository and some outcome of the command pass the entry, alone.
* `AssertionSatisfiable`, `CommandSatisfiable`, `CheckSatisfiable`, `ValidationSatisfiable` — what the entry
  itself must be.
* **`entries_satisfiable_iff`** — every entry that was accepted can pass exactly when each is satisfiable.
-/

import Audisor.Fix.FalseCompletion
import Audisor.Fix.OwnGroundings

namespace Audisor.Fix

open Checked Interaction Json Text

/-! ### Repositories -/

def hasNull (part : String) : Bool := part.toList.contains (Char.ofNat 0)

/-- What the verifier can find on the disk, with the root of the repository. The text of a file is as it is
stored, before its newlines are translated. -/
structure RepositoryState (root : String) where
  resolve : Path → Path
  isDir : Path → Bool
  file : Path → FileText
  resolve_resolve : ∀ path, resolve (resolve path) = resolve path
  isDir_root : isDir (resolve (pathParts root)) = true
  file_of_isDir : ∀ path, isDir path = true → file path = .missing
  file_of_hasNull : ∀ parts : Path, parts.any hasNull = true →
    file (resolve (resolve (pathParts root) ++ parts)) = .missing

/-- What `read_text` gives of what is stored. -/
def FileText.translated : FileText → FileText
  | .missing => .missing
  | .unreadable message => .unreadable message
  | .text content => .text (String.ofList (universalNewlines content.toList))

/-- The verifier asks the repository, and every command comes to one outcome. -/
def RepositoryState.script {root : String} (state : RepositoryState root) (outcome : CommandOutcome) :
    Script verifierSignature := fun _ op =>
  match op with
  | .loadResult => (none : Option Json)
  | .rescan _ _ => (.ok [] : Except Failure (List Detection))
  | .resolve path => state.resolve path
  | .readFile path => (state.file path).translated
  | .isDir path => state.isDir path
  | .runCommand _ _ => outcome
  | .persistResult _ => (.ok () : Except Failure Unit)

theorem universalNewlines_noReturn : ∀ text : List Char, '\r' ∉ universalNewlines text := by
  intro text
  fun_induction universalNewlines text with
  | case1 rest ih => simpa using ih
  | case2 rest _ ih => simpa using ih
  | case3 c rest crlf cr ih =>
    rw [List.mem_cons, not_or]
    refine ⟨fun same => ?_, ih⟩
    exact cr same.symm
  | case4 => exact List.not_mem_nil

/-! ### Entries that pass -/

section Passing

variable (repr : PythonRepr) (sha : Aflow.Sha256) (readers : Readers) (root : String)

/-- Some repository, scanned, and some outcome of the command pass the check, alone with its grounding. -/
def CheckPasses (scan : RepositoryState root → List Detection) (check : FindingCheck)
    (own : FindingCheckGrounding) : Prop :=
  ∃ (state : RepositoryState root) (outcome : CommandOutcome) (value : FindingCheckResult),
    (evaluateFindingCheck repr readers root (scannerEvidence (reportOf sha (scan state)))
      [own.toMapping] 0 check.fields).resultOf (state.script outcome) [] = .ok value ∧ value.passed = true

def ValidationSpec.fields (validation : ValidationSpec) : Dict :=
  [("id", .str validation.id), ("command_or_assertion", .str validation.commandOrAssertion),
    ("expected_result", .str validation.expectedResult)]

/-- Some repository and some outcome of the command pass the validation, alone with its grounding. -/
def ValidationPasses (validation : ValidationSpec) (own : ValidationGrounding) : Prop :=
  ∃ (state : RepositoryState root) (outcome : CommandOutcome) (value : ValidationResult),
    (evaluateValidation repr readers root [own.toMapping] validation.fields).resultOf
      (state.script outcome) [] = .ok value ∧ value.passed = true

end Passing

/-! ### Entries that can pass -/

/-- An assertion that some file can satisfy: its path names something below the root, a text that must be
there has no carriage return, and one that must not be there is not empty. -/
structure AssertionSatisfiable (form : AssertionForm) (path : String) (literal : Option String) : Prop where
  onFile : form ≠ .scannerClear
  below : pathParts path ≠ []
  named : (pathParts path).any hasNull = false
  readable : form = .fileContains → ∀ word, literal = some word → '\r' ∉ word.toList
  written : form = .fileNotContains → literal ≠ some ""

/-- A command that can run, and of which its exit is expected. -/
def CommandSatisfiable (tokens : Option (List String)) (expected : String) : Prop :=
  ∃ words, tokens = some words ∧ words ≠ [] ∧ "" ∉ words ∧ expected = "exit code 0"

def Clearable (sha : Aflow.Sha256) {root : String} (scan : RepositoryState root → List Detection)
    (id : String) : Prop :=
  ∃ state, id ∉ scannerEvidence (reportOf sha (scan state))

/-! ### A repository with one file -/

def loneFile (root : String) (parts : Path) (content : String) (below : parts ≠ [])
    (named : parts.any hasNull = false) : RepositoryState root where
  resolve := id
  isDir := fun path => decide (path = pathParts root)
  file := fun path => if path = pathParts root ++ parts then .text content else .missing
  resolve_resolve := fun _ => rfl
  isDir_root := decide_eq_true rfl
  file_of_isDir := by
    intro path directory
    rw [of_decide_eq_true directory, if_neg]
    intro same
    exact below (List.append_right_eq_self.mp same.symm)
  file_of_hasNull := by
    intro others null
    rw [if_neg]
    intro same
    rw [List.append_cancel_left same, named] at null
    cases null

def bareRepository (root : String) : RepositoryState root where
  resolve := id
  isDir := fun path => decide (path = pathParts root)
  file := fun _ => .missing
  resolve_resolve := fun _ => rfl
  isDir_root := decide_eq_true rfl
  file_of_isDir := fun _ _ => rfl
  file_of_hasNull := fun _ _ => rfl

/-! ### Assertions -/

section Assertions

variable {repr : PythonRepr} {readers : Readers} {root : String} {form : AssertionForm} {path : String}
  {literal : Option String} {log : List (Event verifierSignature)}

theorem isInScope_own {allowed : List String} (valid : isValidScopedPath path allowed = true) :
    isInScope path (textsJson [path]) = .ok true := by
  simp only [isValidScopedPath, Bool.and_eq_true, decide_eq_true_eq, Bool.not_eq_true',
    List.contains_eq_mem, decide_eq_false_iff_not] at valid
  obtain ⟨⟨⟨⟨some, relative⟩, inside⟩, -⟩, -⟩ := valid
  have truthy : (textsJson [path]).truthy = true := rfl
  unfold isInScope
  rw [if_neg (by simp [truthy, some, relative, inside])]
  have listed : ([Json.str path].contains (.str path)) = true := by simp
  exact congrArg Except.ok listed

theorem evaluateDeterministicAssertion_script {allowed : List String}
    (valid : isValidScopedPath path allowed = true) (state : RepositoryState root)
    (outcome : CommandOutcome) (log : List (Event verifierSignature)) :
    (evaluateDeterministicAssertion repr readers form path literal root (textsJson [path])).resultOf
        (state.script outcome) log =
      if (state.resolve (pathParts root)).isPrefixOf
          (state.resolve (state.resolve (pathParts root) ++ pathParts path)) then
        .ok (assertionVerdict repr readers form path literal
          (state.file (state.resolve (state.resolve (pathParts root) ++ pathParts path))).translated)
      else .error (verificationError "path_out_of_scope"
        ("path " ++ repr.text (.str path) ++ " escapes repository root")) := by
  have relative : isAbsolute path = false := by
    simp only [isValidScopedPath, Bool.and_eq_true, Bool.not_eq_true'] at valid
    exact valid.1.1.1.2
  have joined : Path.joined (state.resolve (pathParts root)) path =
      state.resolve (pathParts root) ++ pathParts path := by
    rw [Path.joined, relative]
    rfl
  rw [← joined]
  unfold evaluateDeterministicAssertion
  rw [isInScope_own valid]
  change Program.resultOf (state.script outcome)
    (if (state.resolve (pathParts root)).isPrefixOf
        (state.resolve (Path.joined (state.resolve (pathParts root)) path)) then _ else _) _ = _
  split <;> rfl

theorem satisfiable_of_passed {state : RepositoryState root}
    (passed : (assertionVerdict repr readers form path literal
      (state.file (state.resolve (state.resolve (pathParts root) ++ pathParts path))).translated).passed =
        true) : AssertionSatisfiable form path literal := by
  obtain ⟨content, held⟩ | missing : (∃ content : FileText,
      state.file (state.resolve (state.resolve (pathParts root) ++ pathParts path)) = content ∧
        content ≠ .missing) ∨
      state.file (state.resolve (state.resolve (pathParts root) ++ pathParts path)) = .missing := by
    by_cases missing : state.file (state.resolve (state.resolve (pathParts root) ++ pathParts path)) = .missing
    · exact .inr missing
    · exact .inl ⟨_, rfl, missing⟩
  · obtain ⟨held, present⟩ := held
    have inner : pathParts path ≠ [] := by
      intro top
      rw [top, List.append_nil, state.resolve_resolve, state.file_of_isDir _ state.isDir_root] at held
      exact present held.symm
    have named : (pathParts path).any hasNull = false := by
      by_contra null
      rw [state.file_of_hasNull _ ((Bool.not_eq_false _).mp null)] at held
      exact present held.symm
    rw [held] at passed
    refine ⟨?_, inner, named, ?_, ?_⟩
    · rintro rfl
      cases passed
    · rintro rfl word rfl returned
      cases content with
      | missing => cases passed
      | unreadable message => cases passed
      | text content =>
        simp only [assertionVerdict, FileText.translated, String.toList_ofList, Option.all_some] at passed
        split at passed
        · rename_i found
          exact universalNewlines_noReturn _ ((of_decide_eq_true found).subset returned)
        · cases passed
    · rintro rfl rfl
      cases content with
      | missing => cases passed
      | unreadable message => cases passed
      | text content =>
        have found : contains (universalNewlines content.toList) [] = true :=
          decide_eq_true List.nil_infix
        simp only [assertionVerdict, FileText.translated, String.toList_ofList, Option.all_some] at passed
        rw [show "".toList = [] from rfl, found] at passed
        cases passed
  · rw [missing] at passed
    cases form <;> cases passed

def satisfyingText (form : AssertionForm) (literal : Option String) : String :=
  match form with
  | .fileContains => literal.getD ""
  | .jsonParses => "0"
  | _ => ""

theorem verdict_satisfyingText (parses : readers.syntaxError "" = none)
    (satisfiable : AssertionSatisfiable form path literal) :
    (assertionVerdict repr readers form path literal
      (FileText.text (satisfyingText form literal)).translated).passed = true := by
  obtain ⟨checked, -, -, readable, some⟩ := satisfiable
  cases form with
  | scannerClear => exact absurd rfl checked
  | fileExists => rfl
  | fileContains =>
    cases literal with
    | none => rfl
    | some word =>
      have same : universalNewlines word.toList = word.toList :=
        universalNewlines_of_noReturn (readable rfl word rfl)
      simp only [assertionVerdict, FileText.translated, satisfyingText, Option.getD_some,
        String.toList_ofList, Option.all_some, same, contains]
      rw [if_pos (decide_eq_true List.infix_rfl)]
      rfl
  | fileNotContains =>
    cases literal with
    | none => rfl
    | some word =>
      have written : word.toList ≠ [] := by
        intro none
        exact some rfl (congrArg Option.some (String.toList_eq_nil_iff.mp none))
      have absent : contains [] word.toList = false :=
        decide_eq_false fun inside => written (List.infix_nil.mp inside)
      have empty : (String.ofList (universalNewlines "".toList)).toList = [] := rfl
      simp only [assertionVerdict, FileText.translated, satisfyingText, Option.all_some, empty, absent]
      rfl
  | pythonCompiles =>
    have empty : String.ofList (universalNewlines "".toList) = "" := rfl
    simp only [assertionVerdict, FileText.translated, satisfyingText, empty, parses]
    rfl
  | jsonParses =>
    have digit : String.ofList (universalNewlines "0".toList) = "0" := rfl
    have read : (loads "0").isSome = true := by decide
    simp only [assertionVerdict, FileText.translated, satisfyingText, digit, read]
    rfl

/-- **An assertion passes in some repository exactly when it is satisfiable.** -/
theorem assertion_passes_iff (parses : readers.syntaxError "" = none) {allowed : List String}
    (valid : isValidScopedPath path allowed = true) :
    (∃ (state : RepositoryState root) (outcome : CommandOutcome) (verdict : Verdict),
      (evaluateDeterministicAssertion repr readers form path literal root (textsJson [path])).resultOf
        (state.script outcome) log = .ok verdict ∧ verdict.passed = true) ↔
      AssertionSatisfiable form path literal := by
  constructor
  · rintro ⟨state, outcome, verdict, returned, passed⟩
    rw [evaluateDeterministicAssertion_script valid] at returned
    split_ifs at returned
    cases returned
    exact satisfiable_of_passed passed
  · intro satisfiable
    have holds := @verdict_satisfyingText repr readers form path literal parses satisfiable
    have inside : (pathParts root).isPrefixOf (pathParts root ++ pathParts path) = true :=
      List.isPrefixOf_iff_prefix.mpr (List.prefix_append _ _)
    refine ⟨loneFile root (pathParts path) (satisfyingText form literal) satisfiable.below
      satisfiable.named, .refused "", _, ?_, holds⟩
    rw [evaluateDeterministicAssertion_script valid]
    refine (if_pos inside).trans ?_
    congr 2
    exact congrArg FileText.translated (if_pos rfl)

end Assertions

/-! ### Commands -/

/-- **A command passes in some repository, with some outcome, exactly when it is satisfiable.** -/
theorem command_passes_iff {repr : PythonRepr} {root expected : String} {tokens : List String}
    {log : List (Event verifierSignature)} :
    (∃ (state : RepositoryState root) (outcome : CommandOutcome) (value : CommandResult),
      (executeAuthorizedCommand repr tokens root expected).resultOf (state.script outcome) log = .ok value ∧
        value.passed = true) ↔ tokens ≠ [] ∧ "" ∉ tokens ∧ expected = "exit code 0" := by
  unfold executeAuthorizedCommand
  constructor
  · rintro ⟨state, outcome, value, returned, passed⟩
    split at returned
    · cases returned
      cases passed
    · rename_i formed
      split at returned
      · cases returned
        cases passed
      · change Program.resultOf _ (if state.isDir (state.resolve (pathParts root)) then _ else _) _ = _
          at returned
        rw [state.isDir_root] at returned
        change Program.resultOf _ (Program.ofExcept (commandResult repr expected outcome)) _ = _ at returned
        have expects : expected = "exit code 0" := by
          by_contra other
          cases outcome with
          | completed code stdout stderr =>
            simp only [commandResult, if_neg other] at returned
            cases returned
            cases passed
          | timeout stdout stderr => cases returned; cases passed
          | refused message => cases returned; cases passed
          | raised failure => cases returned
        exact ⟨fun none => formed (.inl none), fun blank => formed (.inr blank), expects⟩
  · rintro ⟨some, formed, rfl⟩
    rw [if_neg (by simp [some, formed]), if_neg (by decide)]
    refine ⟨bareRepository root, .completed 0 "" "", _, ?_, Eq.refl (CommandResult.passed
      { passed := true, exitCode := .int 0, stdout := .str "", stderr := .str "", reason := .null })⟩
    change Program.resultOf _ (if decide (pathParts root = pathParts root) then _ else _) _ = _
    rw [decide_eq_true rfl]
    rfl

theorem commandSatisfiable_some {tokens : Option (List String)} {words : List String} {expected : String}
    (held : tokens = some words) :
    CommandSatisfiable tokens expected ↔ words ≠ [] ∧ "" ∉ words ∧ expected = "exit code 0" := by
  constructor
  · rintro ⟨others, stated, satisfiable⟩
    rw [held] at stated
    cases stated
    exact satisfiable
  · exact fun satisfiable => ⟨words, held, satisfiable⟩

/-! ### Finding checks -/

/-- **What a finding check must be.** -/
def CheckSatisfiable (sha : Aflow.Sha256) {root : String} (scan : RepositoryState root → List Detection)
    (check : FindingCheck) (own : FindingCheckGrounding) : Prop :=
  match own.sourceType with
  | .scannerCheck | .planAcceptance => Clearable sha scan check.findingId
  | .deterministicAssertion =>
    match parseAssertion check.check with
    | some (.scannerClear, _, _) => Clearable sha scan check.findingId
    | some (form, path, literal) => AssertionSatisfiable form path literal
    | none => False
  | .recordedTest | .configuredTest => CommandSatisfiable own.authorizedTokens check.expectedResult

section Checks

variable {repr : PythonRepr} {sha : Aflow.Sha256} {readers : Readers} {root : String}
  {scan : RepositoryState root → List Detection} {findings : List Finding} {allowedPaths : List String}
  {catalog : ValidationSourceCatalog} {check : FindingCheck} {own : FindingCheckGrounding}

theorem groundFindingCheck_assertion
    (grounded : groundFindingCheck repr findings allowedPaths catalog check = .ok own)
    (kind : own.sourceType = .deterministicAssertion) :
    ∃ form path literal, parseAssertion check.check = some (form, path, literal) ∧
      (form ≠ .scannerClear → own.scopedPaths = [path] ∧ isValidScopedPath path allowedPaths = true) := by
  unfold groundFindingCheck at grounded
  dsimp only at grounded
  split at grounded
  · cases grounded
  · split at grounded
    · cases grounded
      cases kind
    · split at grounded
      · cases grounded
        cases kind
      · split at grounded
        · rename_i form path literal parsed
          refine ⟨form, path, literal, parsed, fun onFile => ?_⟩
          rw [if_neg onFile] at grounded
          split_ifs at grounded with outside
          cases grounded
          exact ⟨rfl, outside⟩
        · split at grounded
          · split_ifs at grounded
            cases grounded
            cases kind
          · cases grounded

theorem checkPasses_iff_verdict (named : own.findingId = check.findingId) :
    CheckPasses repr sha readers root scan check own ↔
      ∃ (state : RepositoryState root) (outcome : CommandOutcome) (verdict : Verdict),
        (findingCheckVerdict repr readers root (scannerEvidence (reportOf sha (scan state))) check.fields
          own.fields).resultOf (state.script outcome) [] = .ok verdict ∧ verdict.passed = true := by
  have id : textField repr check.fields "finding_id" = check.findingId := rfl
  unfold CheckPasses evaluateFindingCheck
  dsimp only
  rw [id, groundingOf_own named]
  refine exists_congr fun state => exists_congr fun outcome => ?_
  constructor
  · rintro ⟨value, returned, passed⟩
    obtain ⟨verdict, decided, recorded⟩ := resultOf_bind_eq_ok.mp returned
    cases recorded
    exact ⟨verdict, decided, passed⟩
  · rintro ⟨verdict, decided, passed⟩
    exact ⟨_, resultOf_bind_eq_ok.mpr ⟨verdict, decided, rfl⟩, passed⟩

theorem scanCheck_passes_iff (decided : IsScanCheck repr check.fields own.fields) :
    (∃ (state : RepositoryState root) (outcome : CommandOutcome) (verdict : Verdict),
      (findingCheckVerdict repr readers root (scannerEvidence (reportOf sha (scan state))) check.fields
        own.fields).resultOf (state.script outcome) [] = .ok verdict ∧ verdict.passed = true) ↔
      Clearable sha scan check.findingId := by
  have id : textField repr check.fields "finding_id" = check.findingId := rfl
  simp only [findingCheckVerdict_scan decided, id, Clearable]
  constructor
  · rintro ⟨state, outcome, verdict, returned, passed⟩
    cases returned
    refine ⟨state, fun reported => ?_⟩
    rw [scannerClear, if_pos reported] at passed
    cases passed
  · rintro ⟨state, absent⟩
    exact ⟨state, .refused "", _, rfl, by rw [scannerClear, if_neg absent]; rfl⟩

/-- **A finding check can pass exactly when it is satisfiable.** -/
theorem check_passes_iff (parses : readers.syntaxError "" = none)
    (grounded : groundFindingCheck repr findings allowedPaths catalog check = .ok own) :
    CheckPasses repr sha readers root scan check own ↔ CheckSatisfiable sha scan check own := by
  obtain ⟨typed, named⟩ := groundFindingCheck_typed grounded
  have kind : textField repr own.fields "source_type" = own.sourceType.value := rfl
  have text : textField repr check.fields "check" = check.check := rfl
  have paths : getD own.fields "scoped_paths" (.arr []) = textsJson own.scopedPaths := rfl
  rw [checkPasses_iff_verdict named, CheckSatisfiable]
  cases source : own.sourceType with
  | scannerCheck => exact scanCheck_passes_iff (.inl (by rw [kind, source]; rfl))
  | planAcceptance => exact scanCheck_passes_iff (.inr (.inl (by rw [kind, source]; rfl)))
  | deterministicAssertion =>
    obtain ⟨form, path, literal, parsed, inside⟩ := groundFindingCheck_assertion grounded source
    dsimp only
    rw [parsed]
    by_cases clear : form = .scannerClear
    · subst clear
      exact scanCheck_passes_iff
        (.inr (.inr ⟨by rw [kind, source]; rfl, path, literal, by rw [text, parsed]⟩))
    · obtain ⟨scope, valid⟩ := inside clear
      have asserts : textField repr own.fields "source_type" = "deterministic_assertion" := by
        rw [kind, source]
        rfl
      have verdict (evidence : List String) :
          findingCheckVerdict repr readers root evidence check.fields own.fields =
            evaluateDeterministicAssertion repr readers form path literal root (textsJson [path]) := by
        unfold findingCheckVerdict
        dsimp only
        rw [asserts, if_neg (by decide), if_neg (by decide), if_pos rfl, text, parsed]
        dsimp only
        rw [if_neg clear, paths, scope]
      simp only [verdict]
      rw [assertion_passes_iff parses valid]
  | recordedTest =>
    rw [FindingCheckGrounding.Typed, source] at typed
    obtain ⟨words, held⟩ := Option.isSome_iff_exists.mp typed
    have given : authorizedTokens repr own.fields = own.authorizedTokens.getD [] :=
      authorizedTokens_tokensJson rfl
    have tokens : authorizedTokens repr own.fields = words := by
      rw [given, held]
      rfl
    have runs : textField repr own.fields "source_type" = "recorded_test" := by
      rw [kind, source]
      rfl
    have expects : textField repr check.fields "expected_result" = check.expectedResult := rfl
    have verdict (evidence : List String) :
        findingCheckVerdict repr readers root evidence check.fields own.fields =
          if words = [] then .done (.fails "missing authorized_tokens for recorded_test")
          else executeAuthorizedCommand repr words root check.expectedResult >>= fun result =>
            .done { passed := result.passed, reason := result.reason } := by
      unfold findingCheckVerdict
      dsimp only
      rw [runs, if_neg (by decide), if_neg (by decide), if_neg (by decide), if_pos rfl, tokens, expects]
      rfl
    simp only [verdict]
    rw [commandSatisfiable_some held]
    by_cases none : words = []
    · refine iff_of_false ?_ fun holds => holds.1 none
      rintro ⟨state, outcome, verdict, returned, passed⟩
      rw [if_pos none] at returned
      cases returned
      cases passed
    · have commands := @command_passes_iff repr root check.expectedResult words []
      rw [← commands]
      refine exists_congr fun state => exists_congr fun outcome => ?_
      rw [if_neg none]
      constructor
      · rintro ⟨verdict, returned, passed⟩
        obtain ⟨result, ran, recorded⟩ := resultOf_bind_eq_ok.mp returned
        cases recorded
        exact ⟨result, ran, passed⟩
      · rintro ⟨result, ran, passed⟩
        exact ⟨_, resultOf_bind_eq_ok.mpr ⟨result, ran, rfl⟩, passed⟩
  | configuredTest =>
    rw [FindingCheckGrounding.Typed, source] at typed
    exact typed.elim

end Checks

/-! ### Validations -/

def StatesSatisfiable (text : String) : Prop :=
  match parseAssertion text with
  | some (form, path, literal) => AssertionSatisfiable form path literal
  | none => False

/-- **What a validation must be.** -/
def ValidationSatisfiable (validation : ValidationSpec) (own : ValidationGrounding) : Prop :=
  if own.sourceType = .deterministicAssertion then StatesSatisfiable validation.commandOrAssertion
  else CommandSatisfiable own.authorizedTokens validation.expectedResult

def ValidationGrounding.fields (grounding : ValidationGrounding) : Dict :=
  [("validation_id", .str grounding.validationId),
    ("source_type", .str grounding.sourceType.value),
    ("source_reference", .str grounding.sourceReference),
    ("authorized_tokens", tokensJson grounding.authorizedTokens),
    ("scoped_paths", textsJson grounding.scopedPaths)]

section Validations

variable {repr : PythonRepr} {readers : Readers} {root : String} {allowedPaths : List String}
  {catalog : ValidationSourceCatalog} {validation : ValidationSpec} {own : ValidationGrounding}

theorem groundValidation_assertion
    (grounded : groundValidation repr allowedPaths catalog validation = .ok own)
    (kind : own.sourceType = .deterministicAssertion) :
    ∃ form path literal, parseAssertion validation.commandOrAssertion = some (form, path, literal) ∧
      form ≠ .scannerClear ∧ own.scopedPaths = [path] ∧ isValidScopedPath path allowedPaths = true := by
  unfold groundValidation at grounded
  dsimp only at grounded
  split at grounded
  · rename_i form path literal parsed
    split_ifs at grounded with clear outside
    cases grounded
    exact ⟨form, path, literal, parsed, clear, rfl, outside⟩
  · split at grounded <;> cases grounded <;> cases kind

theorem validationPasses_iff_verdict (named : own.validationId = validation.id) :
    ValidationPasses repr readers root validation own ↔
      ∃ (state : RepositoryState root) (outcome : CommandOutcome) (result : CommandResult),
        (validationVerdict repr readers root validation.fields own.fields).resultOf (state.script outcome)
          [] = .ok result ∧ result.passed = true := by
  have id : textField repr validation.fields "id" = validation.id := rfl
  have found : groundingOf "validation_id" [own.toMapping] validation.id = some own.fields := by
    have stated : get? own.fields "validation_id" = some (.str validation.id) := by
      rw [← named]
      rfl
    change List.find? _ [own.fields] = _
    rw [List.find?_cons, stated]
    simp
  unfold ValidationPasses evaluateValidation
  dsimp only
  rw [id, found]
  refine exists_congr fun state => exists_congr fun outcome => ?_
  constructor
  · rintro ⟨value, returned, passed⟩
    obtain ⟨result, decided, recorded⟩ := resultOf_bind_eq_ok.mp returned
    cases recorded
    exact ⟨result, decided, passed⟩
  · rintro ⟨result, decided, passed⟩
    exact ⟨_, resultOf_bind_eq_ok.mpr ⟨result, decided, rfl⟩, passed⟩

/-- **A validation can pass exactly when it is satisfiable.** -/
theorem validation_passes_iff (parses : readers.syntaxError "" = none)
    (grounded : groundValidation repr allowedPaths catalog validation = .ok own) :
    ValidationPasses repr readers root validation own ↔ ValidationSatisfiable validation own := by
  obtain ⟨typed, named⟩ := groundValidation_typed grounded
  have kind : textField repr own.fields "source_type" = own.sourceType.value := rfl
  have text : textField repr validation.fields "command_or_assertion" = validation.commandOrAssertion := rfl
  have expects : textField repr validation.fields "expected_result" = validation.expectedResult := rfl
  have paths : getD own.fields "scoped_paths" (.arr []) = textsJson own.scopedPaths := rfl
  have given : authorizedTokens repr own.fields = own.authorizedTokens.getD [] :=
    authorizedTokens_tokensJson rfl
  rw [validationPasses_iff_verdict named, ValidationSatisfiable]
  by_cases source : own.sourceType = .deterministicAssertion
  · obtain ⟨form, path, literal, parsed, onFile, scope, valid⟩ := groundValidation_assertion grounded source
    have verdict : validationVerdict repr readers root validation.fields own.fields =
        evaluateDeterministicAssertion repr readers form path literal root (textsJson [path]) >>=
          fun verdict => .done verdict.command := by
      unfold validationVerdict
      dsimp only
      rw [kind, source, if_pos (by rfl), text, parsed]
      dsimp only
      rw [if_neg onFile, paths, scope]
      rfl
    have asserts := @assertion_passes_iff repr readers root form path literal [] parses allowedPaths valid
    rw [if_pos source, StatesSatisfiable, parsed]
    dsimp only
    rw [verdict, ← asserts]
    refine exists_congr fun state => exists_congr fun outcome => ?_
    constructor
    · rintro ⟨result, returned, passed⟩
      obtain ⟨verdict, decided, recorded⟩ := resultOf_bind_eq_ok.mp returned
      cases recorded
      exact ⟨verdict, decided, passed⟩
    · rintro ⟨verdict, decided, passed⟩
      exact ⟨_, resultOf_bind_eq_ok.mpr ⟨verdict, decided, rfl⟩, passed⟩
  · have runs : (own.sourceType.value = "configured_test" ∨ own.sourceType.value = "recorded_test") ∧
        own.sourceType.value ≠ "deterministic_assertion" ∧ own.authorizedTokens.isSome = true := by
      unfold ValidationGrounding.Typed at typed
      cases kind : own.sourceType with
      | deterministicAssertion => exact absurd kind source
      | scannerCheck => rw [kind] at typed; exact typed.elim
      | planAcceptance => rw [kind] at typed; exact typed.elim
      | recordedTest => rw [kind] at typed; exact ⟨.inr rfl, by decide, typed⟩
      | configuredTest => rw [kind] at typed; exact ⟨.inl rfl, by decide, typed⟩
    obtain ⟨command, other, tokens⟩ := runs
    obtain ⟨words, held⟩ := Option.isSome_iff_exists.mp tokens
    have verdict : validationVerdict repr readers root validation.fields own.fields =
        if words = [] then .done (.fails "missing authorized_tokens for command source")
        else executeAuthorizedCommand repr words root validation.expectedResult := by
      unfold validationVerdict
      dsimp only
      rw [kind, if_neg other, if_pos command, given, held, expects]
      rfl
    rw [if_neg source, verdict, commandSatisfiable_some held]
    by_cases none : words = []
    · refine iff_of_false ?_ fun holds => holds.1 none
      rintro ⟨state, outcome, result, returned, passed⟩
      rw [if_pos none] at returned
      cases returned
      cases passed
    · rw [if_neg none]
      exact command_passes_iff

end Validations

/-! ### Accepted contracts -/

theorem forall₂_congr_of {α β : Type} {related first second : α → β → Prop} {items : List α}
    {results : List β} (each : List.Forall₂ related items results)
    (same : ∀ item result, related item result → (first item result ↔ second item result)) :
    List.Forall₂ first items results ↔ List.Forall₂ second items results := by
  induction each with
  | nil => exact iff_of_true .nil .nil
  | cons here _ ih => rw [List.forall₂_cons, List.forall₂_cons, same _ _ here, ih]

def EachEntry (success : SuccessDefinition) (grounding : VerificationGrounding)
    (check : FindingCheck → FindingCheckGrounding → Prop)
    (validation : ValidationSpec → ValidationGrounding → Prop) : Prop :=
  List.Forall₂ check success.findingChecks grounding.findingChecks ∧
    List.Forall₂ validation success.validations grounding.validations

/-- **Every entry that planning accepts can pass, alone, exactly when each is satisfiable.** -/
theorem entries_satisfiable_iff {repr : PythonRepr} {findings : List Finding} {manifest : FixScopedManifest}
    {success : SuccessDefinition} {catalog : ValidationSourceCatalog} {grounding : VerificationGrounding}
    (resolved : resolveGrounding repr findings manifest success catalog = .ok grounding)
    (sha : Aflow.Sha256) {readers : Readers} (parses : readers.syntaxError "" = none) {root : String}
    (scan : RepositoryState root → List Detection) :
    EachEntry success grounding (CheckPasses repr sha readers root scan)
        (ValidationPasses repr readers root) ↔
      EachEntry success grounding (CheckSatisfiable sha scan) ValidationSatisfiable := by
  unfold resolveGrounding at resolved
  simp only [bind_eq_ok, refuse_eq_ok, not_not, exists_const, pure_eq_ok] at resolved
  obtain ⟨-, checks, checked, validations, validated, rfl⟩ := resolved
  refine and_congr ?_ ?_
  · exact forall₂_congr_of (mapM_eq_ok.mp checked) fun check own grounded => check_passes_iff parses grounded
  · exact forall₂_congr_of (mapM_eq_ok.mp validated)
      fun validation own grounded => validation_passes_iff parses grounded

/-! ### A command and what is expected of it -/

/-- A success definition whose validation is the first configured test. -/
def testedContract (expected : String) : Json :=
  .obj [("finding_checks", .arr [.obj [("finding_id", .str "scan-1"), ("resolution_method", .str "rescan"),
      ("check", .str "scanner_clear::scan-1"), ("expected_result", .str "absent")]]),
    ("validations", .arr [.obj [("id", .str "tests"), ("command_or_assertion", .str "configured-test-001"),
      ("expected_result", .str expected)]]),
    ("must_not_regress", .arr []), ("success_rule", .str requiredSuccessRule)]

def testedSuccess (expected : String) : SuccessDefinition where
  findingChecks := [⟨"scan-1", "rescan", "scanner_clear::scan-1", "absent"⟩]
  validations := [⟨"tests", "configured-test-001", expected⟩]
  mustNotRegress := []
  successRule := requiredSuccessRule

def testedGrounding : VerificationGrounding where
  findingChecks := [⟨"scan-1", "rescan", .deterministicAssertion, "assertion:scanner_clear::scan-1", none,
    ["src/app.py"]⟩]
  validations := [⟨"tests", .configuredTest, "configured-test-001", some ["pytest", "-q"], []⟩]

/-- The catalog of the finding and the configured commands. -/
def testedCatalog : ValidationSourceCatalog :=
  buildValidationSourceCatalog [secretFinding] (sampleFix secretFinding none).plan testCommands

deriving instance DecidableEq for FindingCheck, ValidationSpec, SuccessDefinition,
  FindingCheckGrounding, ValidationGrounding, VerificationGrounding, GroundingError, Failure

theorem tested_resolved : resolveGrounding plainRepr [secretFinding] (sampleFix secretFinding none).manifest
    (testedSuccess "exit code 0") testedCatalog = .ok testedGrounding := by
  decide +kernel

/-- The entries of a test that must exit with 0 can pass. -/
theorem entries_satisfiable_tested :
    EachEntry (testedSuccess "exit code 0") testedGrounding
      (CheckPasses plainRepr Aflow.sha256 ⟨fun _ => none, fun _ => ""⟩ "/repo" fun _ => [])
      (ValidationPasses plainRepr ⟨fun _ => none, fun _ => ""⟩ "/repo") := by
  have parsed : parseAssertion "scanner_clear::scan-1" = some (.scannerClear, "scan-1", none) := by decide
  refine (entries_satisfiable_iff tested_resolved Aflow.sha256 rfl _).mpr ⟨?_, ?_⟩
  · refine .cons ?_ .nil
    rw [CheckSatisfiable]
    dsimp only
    rw [parsed]
    exact ⟨bareRepository "/repo", by simp [reportOf, scannerEvidence]⟩
  · exact .cons ⟨["pytest", "-q"], rfl, List.cons_ne_nil _ _, by decide, rfl⟩ .nil

/-- **A contract is accepted that no verification passes**: its test is expected to pass, in words that
name no result of a command. -/
theorem passing_test_unsatisfiable :
    successDefinitionFromJson plainRepr (testedContract "all tests pass") [secretFinding] =
        .ok (testedSuccess "all tests pass") ∧
      resolveGrounding plainRepr [secretFinding] (sampleFix secretFinding none).manifest
        (testedSuccess "all tests pass") testedCatalog = .ok testedGrounding ∧
      ∀ root, ¬ ValidationPasses plainRepr ⟨fun _ => none, fun _ => ""⟩ root
        ⟨"tests", "configured-test-001", "all tests pass"⟩
        ⟨"tests", .configuredTest, "configured-test-001", some ["pytest", "-q"], []⟩ := by
  refine ⟨by decide +kernel, by decide +kernel, fun root passes => ?_⟩
  have grounded : groundValidation plainRepr (sampleFix secretFinding none).manifest.allowedPaths
      testedCatalog ⟨"tests", "configured-test-001", "all tests pass"⟩ =
        .ok ⟨"tests", .configuredTest, "configured-test-001", some ["pytest", "-q"], []⟩ := rfl
  have satisfiable := (validation_passes_iff rfl grounded).mp passes
  rw [ValidationSatisfiable, if_neg (by decide)] at satisfiable
  obtain ⟨words, -, -, -, expected⟩ := satisfiable
  exact absurd expected (by decide)

end Audisor.Fix
