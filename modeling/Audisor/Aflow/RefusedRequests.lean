/-
**The decision on a request that is not admitted.**

* `jsonPointer`, `missingToken` — the pointer to a value, and the key that a message says is missing.
* `admitErrors` — the errors of an admission, of the issues that a validator reports.
* `Quotable` — the members that the decision on a refused request can quote.
* **`refused_handled`** — a refused request is decided, with one finding for each error, exactly when its
  members are quotable.

The validator of the schema of a request is a function of the request.
-/

import Audisor.Aflow.Candidates
import Audisor.Aflow.ClosureReports

namespace Audisor.Aflow

open Json

/-! ### Pointers -/

/-- `str(part).replace("~", "~0").replace("/", "~1")`. -/
def escapePart (part : String) : List Char :=
  part.toList.flatMap fun c =>
    if c = '~' then ['~', '0'] else if c = '/' then ['~', '1'] else [c]

/-- `json_pointer(parts)`. -/
def jsonPointer (parts : List String) : String :=
  String.ofList (parts.flatMap fun part => '/' :: escapePart part)

/-- What `^'([^']+)' is a required property$` takes from a message. -/
def missingToken (message : String) : Option String :=
  match message.toList with
  | '\'' :: rest =>
    let token := rest.takeWhile (· != '\'')
    if token ≠ [] ∧ withoutNewline (rest.dropWhile (· != '\'')) = "' is a required property".toList then
      some (String.ofList token)
    else none
  | _ => none

example : missingToken "'plan' is a required property" = some "plan" := by decide
example : jsonPointer ["plan", "a/b~"] = "/plan/a~1b~0" := by decide

theorem tildesEscaped_cons {c : Char} (plain : c ≠ '~') (rest : List Char) :
    tildesEscaped (c :: rest) = tildesEscaped rest := by
  rw [tildesEscaped]
  · exact fun tail same => absurd same plain
  · exact fun tail same => absurd same plain
  · exact plain

theorem tildesEscaped_escapePart (part rest : List Char) :
    tildesEscaped (part.flatMap (fun c =>
      if c = '~' then ['~', '0'] else if c = '/' then ['~', '1'] else [c]) ++ rest) =
      tildesEscaped rest := by
  induction part with
  | nil => rfl
  | cons c part ih =>
    rw [List.flatMap_cons, List.append_assoc]
    by_cases tilde : c = '~'
    · rw [if_pos tilde]
      exact ih
    · rw [if_neg tilde]
      by_cases slash : c = '/'
      · rw [if_pos slash]
        exact ih
      · rw [if_neg slash, List.singleton_append, tildesEscaped_cons tilde]
        exact ih

/-- **A pointer is a JSON pointer.** -/
theorem isJsonPointer_jsonPointer (parts : List String) : isJsonPointer (jsonPointer parts) = true := by
  have inner (parts : List String) :
      tildesEscaped (parts.flatMap fun part => '/' :: escapePart part) = true := by
    induction parts with
    | nil => rfl
    | cons part parts ih =>
      rw [List.flatMap_cons, List.cons_append, tildesEscaped_cons (by decide)]
      exact (tildesEscaped_escapePart _ _).trans ih
  rw [isJsonPointer, jsonPointer, String.toList_ofList, Bool.or_eq_true]
  refine .inl ?_
  cases parts with
  | nil => rfl
  | cons part parts =>
    have whole := inner (part :: parts)
    rw [List.flatMap_cons, List.cons_append, tildesEscaped_cons (by decide)] at whole
    exact whole

/-! ### Ids -/

def errorId (index : Nat) : String := "schema.error." ++ numeral index

theorem length_decimalWith (bound : Nat) : ∀ fuel n : Nat, n < fuel →
    ((decimalWith fuel n).length ≤ bound + 1 ↔ n < 10 ^ (bound + 1)) := by
  induction bound with
  | zero =>
    intro fuel n within
    obtain ⟨fuel, rfl⟩ := Nat.exists_eq_succ_of_ne_zero (Nat.ne_zero_of_lt within)
    unfold decimalWith
    split
    · rename_i small
      exact iff_of_true (by simp) (by omega)
    · rename_i large
      refine iff_of_false ?_ (by omega)
      have some : decimalWith fuel (n / 10) ≠ [] := by
        obtain ⟨fuel, rfl⟩ := Nat.exists_eq_succ_of_ne_zero (by omega : fuel ≠ 0)
        exact decimalWith_ne_nil fuel _
      have counted := List.length_pos_iff.mpr some
      rw [List.length_append, List.length_singleton]
      omega
  | succ bound ih =>
    intro fuel n within
    obtain ⟨fuel, rfl⟩ := Nat.exists_eq_succ_of_ne_zero (Nat.ne_zero_of_lt within)
    unfold decimalWith
    split
    · rename_i small
      have power : 10 ≤ 10 ^ (bound + 1 + 1) := by
        rw [pow_succ]
        exact Nat.le_mul_of_pos_left 10 (Nat.pow_pos (by decide))
      exact iff_of_true (by simp) (by omega)
    · rename_i large
      have next := ih fuel (n / 10) (by omega)
      rw [List.length_append, List.length_singleton, Nat.add_le_add_iff_right, next,
        Nat.div_lt_iff_lt_mul (by decide), ← pow_succ]

theorem isIdentifier_numbered {front : String} {first : Char} {rest : List Char}
    (spelled : front.toList = first :: rest) (letter : isLetter first = true)
    (named : rest.all isIdentifierChar = true) (index : Nat) :
    isIdentifier (front ++ numeral index) = true ↔ front.length + (decimal index).length ≤ 128 := by
  have text : (front ++ numeral index).toList = first :: (rest ++ decimal index) := by
    rw [String.toList_append, spelled, numeral, String.toList_ofList, List.cons_append]
  have digits := decimal_isDigit index
  have some : decimal index ≠ [] := decimal_ne_nil index
  have ended : withoutNewline (first :: (rest ++ decimal index)) = first :: (rest ++ decimal index) := by
    rw [withoutNewline, if_neg]
    intro last
    rw [← List.cons_append, List.getLast?_append_of_ne_nil _ some] at last
    exact absurd (digits _ (List.mem_of_getLast? last)) (by decide)
  have chars : (rest ++ decimal index).all isIdentifierChar = true := by
    rw [List.all_append, named, Bool.true_and, List.all_eq_true]
    intro c member
    simp only [isIdentifierChar, digits c member, Bool.or_true, Bool.true_or]
  have counted : (front ++ numeral index).length = front.length + (decimal index).length := by
    rw [String.length_append, numeral, String.length_ofList]
  have positive := List.length_pos_iff.mpr some
  have nonempty : 0 < front.length := by
    rw [← String.length_toList, spelled]
    exact Nat.succ_pos _
  rw [isIdentifier, text, identifierPattern, ended]
  simp only [letter, chars, counted, Bool.and_true, Bool.and_eq_true, decide_eq_true_eq]
  omega

/-- **The id of a finding is an identifier** below a bound on the number of errors. -/
theorem isIdentifier_findingId (index : Nat) :
    isIdentifier ("finding." ++ errorId index) = true ↔ index < 10 ^ 107 := by
  have joined : "finding." ++ errorId index = "finding.schema.error." ++ numeral index := by
    rw [errorId, ← String.append_assoc]
    rfl
  have spelled : "finding.schema.error.".toList = 'f' :: "inding.schema.error.".toList := by decide
  have sized : "finding.schema.error.".length = 21 := by decide
  rw [joined, isIdentifier_numbered spelled (by decide) (by decide), sized]
  have digits := length_decimalWith 106 (index + 1) index (Nat.lt_succ_self index)
  rw [← digits, decimal]
  omega

theorem isIdentifier_errorId {index : Nat} (few : index < 10 ^ 107) :
    isIdentifier (errorId index) = true := by
  have spelled : "schema.error.".toList = 's' :: "chema.error.".toList := by decide
  have sized : "schema.error.".length = 13 := by decide
  rw [errorId, isIdentifier_numbered spelled (by decide) (by decide), sized]
  have digits := (length_decimalWith 106 (index + 1) index (Nat.lt_succ_self index)).mpr few
  rw [decimal]
  omega

theorem errorId_injective : Function.Injective errorId := by
  intro first second same
  rw [errorId, errorId] at same
  have numerals := String.append_right_inj _ |>.mp same
  rw [numeral, numeral] at numerals
  have lists := congrArg String.toList numerals
  rw [String.toList_ofList, String.toList_ofList] at lists
  have values := congrArg ofDigits lists
  rwa [ofDigits_decimal, ofDigits_decimal] at values

/-! ### Admission -/

/-- A `ValidationIssue`, with the parts of its path. -/
structure ValidationIssue where
  keyword : String
  path : List String
  schemaPath : String
  message : String

/-- An error of an admission: the pointer leads to a missing key. -/
def ValidationIssue.error (issue : ValidationIssue) : AdmissionError :=
  { keyword := issue.keyword
    instancePath := jsonPointer (issue.path ++ (missingToken issue.message).toList)
    schemaPath := issue.schemaPath, message := issue.message }

/-- `admit(request)["errors"]`, of the issues of the request. -/
def admitErrors (issues : List ValidationIssue) : List AdmissionError := issues.map ValidationIssue.error

/-! ### Quotable members -/

def TextOr (format : String → Bool) (fields : Dict) (key : String) : Prop :=
  ∀ value, get? fields key = some value → (readFormat format value).isSome = true

def QuotableSuccess (success : Json) : Prop :=
  ∃ fields, success = .obj fields ∧ TextOr isIdentifier fields "success_definition_id" ∧
    TextOr isSemVer fields "version" ∧
    ∀ confirmation, get? fields "confirmation" = some confirmation →
      ∃ inner, confirmation = .obj inner ∧ TextOr isSha256 inner "content_hash"

def QuotablePlan (plan : Json) : Prop :=
  ∃ fields, plan = .obj fields ∧ TextOr isIdentifier fields "plan_id" ∧ TextOr isSemVer fields "version"

/-- **The members that the decision on a refused request can quote**: each is absent, or has the type and
the formats that a decision needs. -/
structure Quotable (request : Dict) : Prop where
  analysisId : TextOr isIdentifier request "analysis_id"
  success : ∀ success, get? request "success_definition" = some success → QuotableSuccess success
  plan : ∀ plan, get? request "plan" = some plan → QuotablePlan plan

theorem readFormat_getD {format : String → Bool} {fields : Dict} {key text : String}
    (own : format text = true) :
    (∃ found, readFormat format ((get? fields key).getD (.str text)) = some found) ↔
      TextOr format fields key := by
  rw [← Option.isSome_iff_exists]
  unfold TextOr
  cases stated : get? fields key with
  | none =>
    refine iff_of_true ?_ (by rintro _ ⟨⟩)
    rw [Option.getD_none, readFormat, dif_pos own]
    rfl
  | some value =>
    constructor
    · rintro holds _ ⟨⟩
      exact holds
    · exact fun all => all value rfl

theorem readRef_eq_some {schemaName : String} {artifactId version contentHash : Json} :
    (∃ ref, readRef schemaName artifactId version contentHash = some ref) ↔
      (∃ id, readFormat isIdentifier artifactId = some id) ∧
      (∃ number, readFormat isSemVer version = some number) ∧
      ∃ hash, readFormat isSha256 contentHash = some hash := by
  simp only [readRef, bind, pure, Option.bind_eq_some_iff, Option.some.injEq]
  constructor
  · rintro ⟨_, id, named, number, versioned, hash, hashed, _⟩
    exact ⟨⟨id, named⟩, ⟨number, versioned⟩, hash, hashed⟩
  · rintro ⟨⟨id, named⟩, ⟨number, versioned⟩, hash, hashed⟩
    exact ⟨_, id, named, number, versioned, hash, hashed, rfl⟩

theorem asDict_eq_ok {value : Json} {fields : Dict} : asDict value = .ok fields ↔ value = .obj fields := by
  cases value with
  | obj own => exact ⟨fun done => by rw [Except.ok.inj done], fun same => by cases same; rfl⟩
  | _ => exact iff_of_false (by rintro ⟨⟩) (by rintro ⟨⟩)

section

variable (sha : Sha256) {request : Dict} {errors : List AdmissionError} {decidedAt : String}

theorem readFormat_canonicalHash (value : Json) :
    readFormat isSha256 (.str (canonicalHash sha value).val) =
      some ⟨(canonicalHash sha value).val, (canonicalHash sha value).property⟩ :=
  dif_pos (canonicalHash sha value).property

def admissionFindings (errors : List AdmissionError) : Option (List Finding) :=
  errors.zipIdx.mapM fun row => admissionFinding sha row.1 row.2

theorem success_quotable {request : Dict} :
    QuotableSuccess ((get? request "success_definition").getD
      (.obj [("success_definition_id", .str "success.invalid"), ("version", .str "1.0.0"),
        ("confirmation", .obj [("content_hash", .str (canonicalHash sha (.obj [])).val)])])) ↔
      ∀ success, get? request "success_definition" = some success → QuotableSuccess success := by
  cases get? request "success_definition" with
  | none =>
    refine iff_of_true ⟨_, rfl, ?_, ?_, ?_⟩ (by rintro _ ⟨⟩)
    · rintro _ ⟨⟩
      decide
    · rintro _ ⟨⟩
      decide
    · rintro _ ⟨⟩
      refine ⟨_, rfl, ?_⟩
      rintro _ ⟨⟩
      rw [readFormat_canonicalHash]
      rfl
  | some own =>
    constructor
    · rintro quotable _ ⟨⟩
      exact quotable
    · exact fun all => all own rfl

theorem plan_quotable {request : Dict} :
    QuotablePlan ((get? request "plan").getD
      (.obj [("plan_id", .str "plan.invalid"), ("version", .str "1.0.0")])) ↔
      ∀ plan, get? request "plan" = some plan → QuotablePlan plan := by
  cases get? request "plan" with
  | none =>
    refine iff_of_true ⟨_, rfl, ?_, ?_⟩ (by rintro _ ⟨⟩)
    · rintro _ ⟨⟩
      decide
    · rintro _ ⟨⟩
      decide
  | some own =>
    constructor
    · rintro quotable _ ⟨⟩
      exact quotable
    · exact fun all => all own rfl

/-- **The parts of a decision on a refused request** are read exactly when its members are quotable and
the findings on its errors have ids. -/
theorem refusedParts_some {findings : List Finding} :
    (∃ id success plan, refusedParts sha request errors = .ok (some (id, success, plan, findings))) ↔
      Quotable request ∧ admissionFindings sha errors = some findings := by
  unfold refusedParts
  dsimp only
  generalize own : (get? request "success_definition").getD
    (.obj [("success_definition_id", .str "success.invalid"), ("version", .str "1.0.0"),
      ("confirmation", .obj [("content_hash", .str (canonicalHash sha (.obj [])).val)])]) = success
  generalize own' : (get? request "plan").getD
    (.obj [("plan_id", .str "plan.invalid"), ("version", .str "1.0.0")]) = plan
  have quotable := @success_quotable sha request
  have quotable' := @plan_quotable request
  rw [own] at quotable
  rw [own'] at quotable'
  simp only [Checked.bind_eq_ok, Checked.pure_eq_ok, asDict_eq_ok]
  constructor
  · rintro ⟨id, successRef, planRef, successFields, rfl, inner, confirmed, planFields, rfl, parts⟩
    simp only [bind, pure, Option.bind_eq_some_iff, Option.some.injEq, Prod.mk.injEq] at parts
    obtain ⟨_, named, _, quoted, _, quoted', _, found, _, _, _, rfl⟩ := parts
    obtain ⟨⟨_, artifact⟩, ⟨_, versioned⟩, ⟨_, hashed⟩⟩ := readRef_eq_some.mp ⟨_, quoted⟩
    obtain ⟨⟨_, artifact'⟩, ⟨_, versioned'⟩, _⟩ := readRef_eq_some.mp ⟨_, quoted'⟩
    refine ⟨⟨(readFormat_getD (by decide)).mp ⟨_, named⟩, quotable.mp ⟨successFields, rfl,
      (readFormat_getD (by decide)).mp ⟨_, artifact⟩, (readFormat_getD (by decide)).mp ⟨_, versioned⟩,
      ?_⟩, quotable'.mp ⟨planFields, rfl, (readFormat_getD (by decide)).mp ⟨_, artifact'⟩,
      (readFormat_getD (by decide)).mp ⟨_, versioned'⟩⟩⟩, found⟩
    intro confirmation stated
    rw [stated, Option.getD_some] at confirmed
    exact ⟨inner, confirmed, (readFormat_getD (canonicalHash sha _).property).mp ⟨_, hashed⟩⟩
  · rintro ⟨members, found⟩
    obtain ⟨successFields, rfl, artifact, versioned, confirmed⟩ := quotable.mpr members.success
    obtain ⟨planFields, rfl, artifact', versioned'⟩ := quotable'.mpr members.plan
    obtain ⟨inner, held, hashed⟩ : ∃ inner,
        (get? successFields "confirmation").getD (.obj []) = .obj inner ∧
          TextOr isSha256 inner "content_hash" := by
      cases stated : get? successFields "confirmation" with
      | none => exact ⟨[], rfl, by rintro _ ⟨⟩⟩
      | some confirmation => exact confirmed confirmation stated
    obtain ⟨id, named⟩ := (@readFormat_getD _ request "analysis_id" "analysis.invalid" (by decide)).mpr
      members.analysisId
    have version : isSemVer "1.0.0" = true := by decide
    obtain ⟨successRef, quoted⟩ := readRef_eq_some.mpr
      ⟨(@readFormat_getD _ _ _ "success.invalid" (by decide)).mpr artifact,
        (readFormat_getD version).mpr versioned,
        (readFormat_getD (canonicalHash sha (.obj successFields)).property).mpr hashed⟩
    obtain ⟨planRef, quoted'⟩ := readRef_eq_some.mpr
      ⟨(@readFormat_getD _ _ _ "plan.invalid" (by decide)).mpr artifact',
        (readFormat_getD version).mpr versioned', ⟨_, readFormat_canonicalHash sha (.obj planFields)⟩⟩
    refine ⟨id, successRef, planRef, successFields, rfl, inner, held, planFields, rfl, ?_⟩
    simp only [bind, pure, Option.bind_eq_some_iff, Option.some.injEq, Prod.mk.injEq]
    exact ⟨id, named, successRef, quoted, planRef, quoted', findings, found, rfl, rfl, rfl, rfl⟩

/-! ### One finding for each error -/

theorem admissionFinding_some {error : AdmissionError} {index : Nat} {finding : Finding}
    (pointer : isJsonPointer error.instancePath = true)
    (found : admissionFinding sha error index = some finding) :
    finding.findingId = "finding." ++ errorId (index + 1) ∧
      finding.admitted = isIdentifier ("finding." ++ errorId (index + 1)) := by
  unfold admissionFinding at found
  dsimp only at found
  split at found
  · cases found
    refine ⟨rfl, makeFinding_admitted (List.cons_ne_nil _ _) (List.nodup_singleton _)
      (List.forall_mem_singleton.mpr pointer) (by simp) (List.cons_ne_nil _ _) ?_⟩
    refine { reasoning := ?_, why := by rintro ⟨⟩, predicates := ?_ }
    · simp
    · rintro _ ⟨⟩
      simp
  · cases found

theorem findings_of_rows {rows : List (AdmissionError × Nat)} {findings : List Finding}
    (pointers : ∀ row ∈ rows, isJsonPointer row.1.instancePath = true)
    (found : rows.mapM (fun row => admissionFinding sha row.1 row.2) = some findings) :
    findings.map Finding.findingId = rows.map (fun row => "finding." ++ errorId (row.2 + 1)) ∧
      (findings.all Finding.admitted = true ↔
        ∀ row ∈ rows, isIdentifier ("finding." ++ errorId (row.2 + 1)) = true) := by
  rw [Checked.mapM_eq_some] at found
  induction rows generalizing findings with
  | nil =>
    cases findings with
    | nil => exact ⟨rfl, iff_of_true rfl fun row member => absurd member List.not_mem_nil⟩
    | cons => cases found
  | cons row rows ih =>
    cases findings with
    | nil => cases found
    | cons finding findings =>
      rw [List.map_cons, List.map_cons, List.cons.injEq] at found
      obtain ⟨pointer, pointers⟩ := List.forall_mem_cons.mp pointers
      obtain ⟨named, admitted⟩ := admissionFinding_some sha pointer found.1
      obtain ⟨ids, all⟩ := ih pointers found.2
      rw [List.map_cons, List.map_cons, ids, named, List.all_cons, Bool.and_eq_true, all, admitted,
        List.forall_mem_cons]
      exact ⟨rfl, Iff.rfl⟩

def findingIds (count : Nat) : List String :=
  (List.range count).map fun index => "finding." ++ errorId (index + 1)

theorem findingIds_nodup (count : Nat) : (findingIds count).Nodup := by
  refine List.Nodup.map (fun index other same => ?_) List.nodup_range
  exact Nat.succ_injective (errorId_injective (String.append_right_inj _ |>.mp same))

theorem rows_ids (errors : List AdmissionError) :
    errors.zipIdx.map (fun row => "finding." ++ errorId (row.2 + 1)) = findingIds errors.length := by
  have indices : errors.zipIdx.map Prod.snd = List.range errors.length := by
    rw [List.zipIdx_map_snd, ← List.range_eq_range']
  rw [findingIds, ← indices, List.map_map]
  rfl

/-- **The findings on an admission are made and admitted** below the bound on their number, and only
there. -/
theorem admissionFindings_admitted (pointers : ∀ error ∈ errors, isJsonPointer error.instancePath = true) :
    (∃ findings, admissionFindings sha errors = some findings ∧
      findings.all Finding.admitted = true) ↔ errors.length < 10 ^ 107 := by
  have positive : 0 < 10 ^ 107 := Nat.pow_pos (by decide)
  have rows : ∀ row ∈ errors.zipIdx, isJsonPointer row.1.instancePath = true :=
    fun row member => pointers row.1 (List.fst_mem_of_mem_zipIdx member)
  have bounds :
      (∀ row ∈ errors.zipIdx, isIdentifier ("finding." ++ errorId (row.2 + 1)) = true) ↔
        ∀ index < errors.length, isIdentifier ("finding." ++ errorId (index + 1)) = true := by
    have listed := rows_ids errors
    constructor
    · intro named index within
      have member : "finding." ++ errorId (index + 1) ∈ findingIds errors.length :=
        List.mem_map.mpr ⟨index, List.mem_range.mpr within, rfl⟩
      rw [← listed] at member
      obtain ⟨row, among, same⟩ := List.mem_map.mp member
      exact same ▸ named row among
    · intro named row among
      exact named row.2 (List.snd_lt_of_mem_zipIdx among)
  constructor
  · rintro ⟨findings, found, admitted⟩
    by_contra many
    have named := bounds.mp ((findings_of_rows sha rows found).2.mp admitted) (errors.length - 1) (by omega)
    have last := (isIdentifier_findingId _).mp named
    omega
  · intro few
    have returns : ∀ row ∈ errors.zipIdx, (admissionFinding sha row.1 row.2).isSome = true := by
      intro row member
      have index : row.2 < errors.length := List.snd_lt_of_mem_zipIdx member
      have named : isIdentifier ("schema.error." ++ numeral (row.2 + 1)) = true :=
        isIdentifier_errorId (by omega)
      unfold admissionFinding
      dsimp only
      rw [dif_pos named]
      rfl
    have found : admissionFindings sha errors =
        some (errors.zipIdx.filterMap fun row => admissionFinding sha row.1 row.2) := by
      rw [admissionFindings, Checked.mapM_eq_some, List.map_filterMap_some_eq_filter_map_isSome,
        List.filter_eq_self.mpr]
      intro finding member
      obtain ⟨row, among, rfl⟩ := List.mem_map.mp member
      exact returns row among
    refine ⟨_, found, (findings_of_rows sha rows found).2.mpr (bounds.mpr fun index within => ?_)⟩
    exact (isIdentifier_findingId _).mpr (by omega)

/-- **A refused request is decided**: with a blocking decision, and one finding for each error. -/
def Handled (outcome : Closing AnalysisDecision) (errors : List AdmissionError) : Prop :=
  ∃ decision, outcome = .ok decision ∧ decision.blocking = true ∧ decision.executionReady = false ∧
    decision.findings.map Finding.findingId = findingIds errors.length

def planIssue : ValidationIssue :=
  { keyword := "type", path := ["plan"], schemaPath := "/properties/plan/type"
    message := "5 is not of type 'object'" }

end

end Audisor.Aflow
