/-
**The stores of operations and of their artifacts.**

* `OperationState` — the record of one operation.
* `Store` — `AudisorOperationStore`: the records in memory, their files, and the idempotency keys.
* `create`, `start`, `complete`, `fail`, `block` — its operations. A write that raises leaves the files
  as they were; a record that was changed before it stays changed in memory.
* `Store.reopened` — the store that a new process reads from the files.
* `persistArtifact` — `ArtifactStore.persist`.

The directories hold what the stores have written.
-/

import Audisor.Fix.Records
import Audisor.Interaction.Stateful
import Audisor.Lifecycle.Contracts

namespace Audisor.Operations

open Checked Json
open Audisor.Aflow (Sha256)
open Audisor.Fix (Table)
open Audisor.Lifecycle (Raised RuntimeError runtimeError)

/-! ### Records -/

/-- The status of an operation. -/
inductive Status where
  | pending | running | completed | failed | blocked
  deriving DecidableEq, Repr

def Status.value : Status → String
  | .pending => "pending"
  | .running => "running"
  | .completed => "completed"
  | .failed => "failed"
  | .blocked => "blocked"

/-- `status in ("completed", "failed", "blocked")`. -/
def Status.isTerminal : Status → Bool
  | .completed | .failed | .blocked => true
  | .pending | .running => false

/-- The record of an operation. -/
structure OperationState where
  operationId : String
  status : Status
  requestHash : String
  resultHash : Option String := none
  errorCode : Option String := none
  errorMessage : Option String := none
  artifacts : List Dict := []

/-- A validated idempotency key. -/
structure IdempotencyKey where
  key : String
  scope : String
  createdAt : String

/-- What is known of an idempotency key. -/
structure IdempotencyRecord where
  operationId : String
  status : String

/-! ### The store -/

section

variable (isAlnum : Char → Bool)

def safeId (id : String) : String :=
  String.ofList (id.toList.filter fun c => isAlnum c || c == '-' || c == '_' || c == '.')

def fileName (operationId : String) : String := safeId isAlnum operationId ++ ".json"

/-- **The store of operations.** `isAlnum` is `str.isalnum`, of one character. -/
structure Store where
  memory : Table OperationState := ∅
  files : Table OperationState := ∅
  idempotency : Table IdempotencyRecord := ∅
  keyed : ∀ id state, memory.lookup id = some state → state.operationId = id := by simp
  named : ∀ name state, files.lookup name = some state → name = fileName isAlnum state.operationId := by
    simp

end

variable {isAlnum : Char → Bool}

/-- The exception that the write of a record raises. -/
abbrev WriteFails (isAlnum : Char → Bool) := Store isAlnum → OperationState → Option Raised

variable (sha : Sha256) (fails : WriteFails isAlnum)

theorem lookup_insert_of {property : String → OperationState → Prop} {table : Table OperationState}
    (each : ∀ key state, table.lookup key = some state → property key state) {key : String}
    {state : OperationState} (own : property key state) :
    ∀ other found, (table.insert key state).lookup other = some found → property other found := by
  intro other found looked
  by_cases same : other = key
  · subst same
    rw [AList.lookup_insert] at looked
    cases looked
    exact own
  · rw [AList.lookup_insert_ne same] at looked
    exact each other found looked

def Store.remembering (store : Store isAlnum) (state : OperationState) : Store isAlnum :=
  { store with
    memory := store.memory.insert state.operationId state
    keyed := lookup_insert_of store.keyed rfl }

def Store.persisting (store : Store isAlnum) (state : OperationState) : Store isAlnum :=
  { store.remembering state with
    files := store.files.insert (fileName isAlnum state.operationId) state
    named := lookup_insert_of store.named rfl }

/-- `_persist(state)`. -/
def persist (state : OperationState) : Run (Store isAlnum) Raised Unit := fun store =>
  match fails store state with
  | some error => (.error error, store)
  | none => (.ok (), store.persisting state)

/-- `_load_all()`: the record of every file whose name has the suffix `.json`. -/
def loadRecords (files : List (Sigma fun _ : String => OperationState)) : Table OperationState :=
  files.foldl (fun memory file =>
    if file.1 ≠ ".json" then memory.insert file.2.operationId file.2 else memory) ∅

theorem loadRecords_keyed (files : List (Sigma fun _ : String => OperationState)) (id : String)
    (state : OperationState) (found : (loadRecords files).lookup id = some state) :
    state.operationId = id := by
  suffices kept : ∀ memory : Table OperationState,
      (∀ id state, memory.lookup id = some state → state.operationId = id) →
      ∀ id state, (files.foldl (fun memory file =>
        if file.1 ≠ ".json" then memory.insert file.2.operationId file.2 else memory)
          memory).lookup id = some state → state.operationId = id from
    kept ∅ (by simp) id state found
  clear found
  induction files with
  | nil => exact fun _ keyed => keyed
  | cons file rest ih =>
    intro memory keyed
    rw [List.foldl_cons]
    apply ih
    split
    · exact lookup_insert_of keyed rfl
    · exact keyed

def Store.reopened (store : Store isAlnum) : Store isAlnum :=
  { memory := loadRecords store.files.entries, files := store.files, named := store.named
    keyed := loadRecords_keyed _ }

/-- `_compute_request_hash(request)`. -/
def computeRequestHash (request : Dict) : String :=
  sha.hexdigest ((sortKeys (settled (.obj request))).dumps { ensureAscii := false, compact := true })

/-! ### Idempotency keys -/

/-- What a key says of an operation. -/
inductive KeyCheck where
  | new | replay | conflict
  deriving DecidableEq

/-- `_composite_key(key, scope)`. -/
def IdempotencyKey.composite (key : IdempotencyKey) : String := key.scope ++ ":" ++ key.key

/-- `IdempotencyStore.check(idempotency_key, operation_id)`. -/
def checkKey (key : IdempotencyKey) (operationId : String) : Run (Store isAlnum) Raised KeyCheck :=
  fun store =>
    match store.idempotency.lookup key.composite with
    | none =>
      (.ok .new, { store with
        idempotency := store.idempotency.insert key.composite { operationId, status := "pending" } })
    | some record => (.ok (if record.operationId = operationId then .replay else .conflict), store)

/-- `IdempotencyStore.complete` and `IdempotencyStore.fail`. -/
def settleKey (key : Option IdempotencyKey) (operationId status verb : String) :
    Run (Store isAlnum) Raised Unit := fun store =>
  match key with
  | none => (.ok (), store)
  | some key =>
    match store.idempotency.lookup key.composite with
    | some record =>
      if record.operationId = operationId then
        (.ok (), { store with
          idempotency := store.idempotency.insert key.composite { record with status } })
      else (.error { typeName := "ValueError"
                     message := "cannot " ++ verb ++ " unknown or mismatched operation" }, store)
    | none => (.error { typeName := "ValueError"
                        message := "cannot " ++ verb ++ " unknown or mismatched operation" }, store)

/-! ### Operations of the store -/

/-- What `create` answers. -/
inductive Created where
  | new
  | existing (state : OperationState)
  | conflict

/-- The part of `create` that compares the hashes of the requests. -/
def createRecord (operationId : String) (request : Dict) : Run (Store isAlnum) Raised Created := do
  let requestHash := computeRequestHash sha request
  match ← Run.look fun store : Store isAlnum => store.memory.lookup operationId with
  | some state => return if state.requestHash = requestHash then .existing state else .conflict
  | none => do
    persist fails { operationId, status := .pending, requestHash }
    return .new

/-- **`create(operation_id, request, idempotency_key=..)`.** -/
def create (operationId : String) (request : Dict) (key : Option IdempotencyKey) :
    Run (Store isAlnum) Raised Created := do
  match key with
  | none => createRecord sha fails operationId request
  | some key =>
    match ← checkKey key operationId with
    | .conflict => return .conflict
    | .new => createRecord sha fails operationId request
    | .replay =>
      match ← Run.look fun store : Store isAlnum => store.memory.lookup operationId with
      | some state =>
        if state.status.isTerminal then return .existing state
        createRecord sha fails operationId request
      | none => createRecord sha fails operationId request

/-- The `AudisorRuntimeError` of a store that does not know the operation. -/
def operationNotFound (operationId : String) : Raised := runtimeError
  { category := "storage", stage := "execution", code := "operation_not_found"
    message := "Operation not found: " ++ operationId }

/-- A change of a record: in memory first, and then in its file. -/
def alter (operationId : String) (update : OperationState → OperationState) :
    Run (Store isAlnum) Raised Unit := do
  match ← Run.look fun store : Store isAlnum => store.memory.lookup operationId with
  | none => Run.raise (operationNotFound operationId)
  | some state => do
    Run.change fun store : Store isAlnum => store.remembering (update state)
    persist fails (update state)

/-- `start(operation_id)`. -/
def start (operationId : String) : Run (Store isAlnum) Raised Unit :=
  alter fails operationId fun state => { state with status := .running }

/-- `complete(operation_id, result, artifacts=.., idempotency_key=..)`. -/
def complete (operationId : String) (result : Dict) (artifacts : List Dict)
    (key : Option IdempotencyKey) : Run (Store isAlnum) Raised Unit := do
  alter fails operationId fun state =>
    { state with
      status := .completed, resultHash := some (computeRequestHash sha result), artifacts }
  settleKey key operationId "completed" "complete"

/-- `fail(operation_id, error_code, error_message, idempotency_key=..)`. -/
def fail (operationId errorCode errorMessage : String) (key : Option IdempotencyKey) :
    Run (Store isAlnum) Raised Unit := do
  alter fails operationId fun state =>
    { state with
      status := .failed, errorCode := some errorCode, errorMessage := some errorMessage }
  settleKey key operationId "failed" "fail"

/-- `block(operation_id, reason, idempotency_key=..)`. -/
def block (operationId reason : String) (key : Option IdempotencyKey) : Run (Store isAlnum) Raised Unit := do
  alter fails operationId fun state =>
    { state with
      status := .blocked, errorCode := some "blocked", errorMessage := some reason }
  settleKey key operationId "failed" "fail"

/-! ### Artifacts -/

/-- The files of an artifact store, by their paths. -/
abbrev Artifacts := Table String

/-- A reference to a persisted artifact. -/
structure ArtifactReference where
  artifactId : String
  artifactType : String
  path : String
  contentHash : String
  sizeBytes : Nat

/-- `to_mapping()`. -/
def ArtifactReference.toMapping (ref : ArtifactReference) : Dict :=
  [("artifact_id", .str ref.artifactId), ("artifact_type", .str ref.artifactType),
    ("path", .str ref.path), ("content_hash", .str ref.contentHash),
    ("size_bytes", .int ref.sizeBytes)]

/-- What an artifact store asks of its host. -/
structure ArtifactHost where
  root : String
  /-- The exception that the write of an artifact raises. -/
  writeFails : Artifacts → String → String → Option Raised

/-- `_operation_dir(operation_id)`: an empty name, and `.`, name the root. -/
def operationDir (isAlnum : Char → Bool) (root operationId : String) : String :=
  if safeId isAlnum operationId = "" ∨ safeId isAlnum operationId = "." then root
  else root ++ "/" ++ safeId isAlnum operationId

def artifactPath (isAlnum : Char → Bool) (root operationId artifactId : String) : String :=
  operationDir isAlnum root operationId ++ "/" ++ safeId isAlnum artifactId ++ ".json"

/-- **`ArtifactStore.persist(operation_id, artifact_id, content, artifact_type=..)`.** -/
def persistArtifact (isAlnum : Char → Bool) (artifacts : ArtifactHost)
    (operationId artifactId content artifactType : String) :
    Run Artifacts Raised ArtifactReference := fun files =>
  let path := artifactPath isAlnum artifacts.root operationId artifactId
  match artifacts.writeFails files path content with
  | some error => (.error error, files)
  | none =>
    (.ok { artifactId, artifactType, path, contentHash := sha.hexdigest content
           sizeBytes := (Text.encode content.toList).size }, files.insert path content)

/-! ### What the operations do to a record -/

section

variable {fails} {store : Store isAlnum} {state : OperationState}

theorem lookup_remembering (id : String) :
    (store.remembering state).memory.lookup id =
      if id = state.operationId then some state else store.memory.lookup id := by
  rw [Store.remembering]
  split
  · rename_i same
    rw [same, AList.lookup_insert]
  · rename_i other
    rw [AList.lookup_insert_ne other]

theorem lookup_persisting (id : String) :
    (store.persisting state).memory.lookup id =
      if id = state.operationId then some state else store.memory.lookup id :=
  lookup_remembering id

theorem filed_persisting (name : String) :
    (store.persisting state).files.lookup name =
      if name = fileName isAlnum state.operationId then some state else store.files.lookup name := by
  rw [Store.persisting]
  split
  · rename_i same
    rw [same, AList.lookup_insert]
  · rename_i other
    rw [AList.lookup_insert_ne other]

theorem ends_persist {Q : Unit → Store isAlnum → Prop} {X : Raised → Store isAlnum → Prop}
    (failed : ∀ error, fails store state = some error → X error store)
    (written : Q () (store.persisting state)) : Ends (persist fails state) store Q X := by
  unfold Ends persist
  cases write : fails store state with
  | some error => exact failed error write
  | none => exact written

/-- **The rule for a change of a record.** -/
theorem ends_alter {id : String} {update : OperationState → OperationState}
    {Q : Unit → Store isAlnum → Prop} {X : Raised → Store isAlnum → Prop}
    (found : store.memory.lookup id = some state)
    (failed : ∀ error, fails (store.remembering (update state)) (update state) = some error →
      X error (store.remembering (update state)))
    (written : Q () ((store.remembering (update state)).persisting (update state))) :
    Ends (alter fails id update) store Q X := by
  refine ends_bind (ends_of_ok (run_look _ _) ?_)
  rw [found]
  exact ends_bind (ends_of_ok (run_change _ _) (ends_persist failed written))

theorem ends_persistArtifact {host : ArtifactHost} {operationId artifactId content kind : String}
    {files : Artifacts} {Q : ArtifactReference → Artifacts → Prop} {X : Raised → Artifacts → Prop}
    (kept : ∀ ref after, Q ref after)
    (failed : ∀ path error, host.writeFails files path content = some error → X error files) :
    Ends (persistArtifact sha isAlnum host operationId artifactId content kind) files Q X := by
  unfold Ends persistArtifact
  dsimp only
  generalize artifactPath isAlnum host.root operationId artifactId = path
  cases write : host.writeFails files path content with
  | some error => exact failed path error write
  | none => exact kept _ _

/-- The record of an operation, the same in memory and in its file, has a property. -/
def Recorded (store : Store isAlnum) (id : String) (P : OperationState → Prop) : Prop :=
  ∃ state, store.memory.lookup id = some state ∧
    store.files.lookup (fileName isAlnum id) = some state ∧ P state

theorem Recorded.mono {id : String} {P Q : OperationState → Prop} (recorded : Recorded store id P)
    (weaker : ∀ state, P state → Q state) : Recorded store id Q := by
  obtain ⟨held, remembered, filed, own⟩ := recorded
  exact ⟨held, remembered, filed, weaker _ own⟩

/-- The record of an operation was changed in memory alone. -/
def Torn (store : Store isAlnum) (id : String) (P : OperationState → Prop)
    (update : OperationState → OperationState) : Prop :=
  ∃ state, store.memory.lookup id = some (update state) ∧
    store.files.lookup (fileName isAlnum id) = some state ∧ P state

/-- **A change reaches the memory and the file, or the memory alone.** -/
theorem Recorded.alter {id : String} {P : OperationState → Prop}
    (recorded : Recorded store id P) {update : OperationState → OperationState}
    (kept : ∀ state, (update state).operationId = state.operationId) :
    Ends (alter fails id update) store
      (fun _ after => Recorded after id fun state => ∃ old, P old ∧ state = update old)
      fun error after => (∃ store state, fails store state = some error) ∧
        Torn after id P update := by
  obtain ⟨held, remembered, filed, own⟩ := recorded
  have key : (update held).operationId = id := (kept held).trans (store.keyed _ _ remembered)
  refine ends_alter remembered (fun error unwritten => ⟨⟨_, _, unwritten⟩, held, ?_, filed, own⟩)
    ⟨update held, ?_, ?_, held, own, rfl⟩
  · rw [lookup_remembering, if_pos key.symm]
  · rw [lookup_persisting, if_pos key.symm]
  · rw [filed_persisting, if_pos (congrArg _ key.symm)]

theorem alter_settleKey_none {id status verb : String} {update : OperationState → OperationState} :
    (do alter fails id update
        settleKey none id status verb : Run (Store isAlnum) Raised Unit) = alter fails id update := by
  funext store
  rw [run_bind]
  generalize alter fails id update store = outcome
  obtain ⟨result, after⟩ := outcome
  cases result <;> rfl

theorem complete_none {id : String} {result : Dict} {artifacts : List Dict} :
    complete sha fails id result artifacts none = alter fails id fun state =>
      { state with
        status := .completed, resultHash := some (computeRequestHash sha result), artifacts } :=
  alter_settleKey_none

theorem block_none {id reason : String} :
    block fails id reason none = alter fails id fun state =>
      { state with
        status := .blocked, errorCode := some "blocked", errorMessage := some reason } :=
  alter_settleKey_none

theorem create_none {id : String} {request : Dict} :
    create sha fails id request none = createRecord sha fails id request := rfl

/-- `create` on an operation that has a record compares the two hashes, and changes nothing. -/
theorem createRecord_of_found {id : String} {request : Dict}
    (found : store.memory.lookup id = some state) :
    createRecord sha fails id request store =
      (.ok (if state.requestHash = computeRequestHash sha request then .existing state
        else .conflict), store) := by
  refine (run_bind_ok (run_look _ _)).trans ?_
  rw [found]
  rfl

/-- `create` raises what the write of a new record raises. -/
theorem createRecord_unwritten {id : String} {request : Dict} {error : Raised}
    (missing : store.memory.lookup id = none) (unwritten : ∀ state, fails store state = some error) :
    createRecord sha fails id request store = (.error error, store) := by
  refine (run_bind_ok (run_look _ _)).trans ?_
  rw [missing]
  refine run_bind_error ?_
  unfold persist
  rw [unwritten]

theorem ends_createRecord_missing {id : String} {request : Dict} {Q : Created → Store isAlnum → Prop}
    {E : Raised → Store isAlnum → Prop} (missing : store.memory.lookup id = none)
    (created : Ends (do
      persist fails
        { operationId := id, status := .pending, requestHash := computeRequestHash sha request }
      return .new) store Q E) : Ends (createRecord sha fails id request) store Q E := by
  refine ends_bind (ends_of_ok (run_look _ _) ?_)
  rw [missing]
  exact created

/-- What `create` answers without a key. -/
theorem ends_createRecord {id : String} {request : Dict} :
    Ends (createRecord sha fails id request) store
      (fun created after =>
        match created with
        | .new => store.memory.lookup id = none ∧ Recorded after id fun state => state =
            { operationId := id, status := .pending, requestHash := computeRequestHash sha request }
        | .existing state => after = store ∧ store.memory.lookup id = some state ∧
            state.requestHash = computeRequestHash sha request
        | .conflict => after = store ∧ ∃ state, store.memory.lookup id = some state ∧
            state.requestHash ≠ computeRequestHash sha request)
      fun error after => (∃ state, fails store state = some error) ∧ after = store ∧
        store.memory.lookup id = none := by
  refine ends_bind (ends_of_ok (run_look _ _) ?_)
  cases found : store.memory.lookup id with
  | some state =>
    dsimp only
    by_cases same : state.requestHash = computeRequestHash sha request
    · rw [if_pos same]
      exact ends_pure ⟨rfl, rfl, same⟩
    · rw [if_neg same]
      exact ends_pure ⟨rfl, state, rfl, same⟩
  | none =>
    refine ends_bind (ends_persist (fun _ write => ⟨⟨_, write⟩, rfl, rfl⟩) (ends_pure ⟨rfl, _, ?_, ?_, rfl⟩))
    · rw [lookup_persisting, if_pos rfl]
    · rw [filed_persisting, if_pos rfl]

end

/-! ### Records that a new process reads -/

section

variable {files : List (Sigma fun _ : String => OperationState)}

theorem lookup_foldl_of_unnamed {id : String}
    (unnamed : ∀ file ∈ files, file.1 ≠ ".json" → file.2.operationId ≠ id)
    (memory : Table OperationState) :
    (files.foldl (fun memory file =>
      if file.1 ≠ ".json" then memory.insert file.2.operationId file.2 else memory)
        memory).lookup id = memory.lookup id := by
  induction files generalizing memory with
  | nil => rfl
  | cons file rest ih =>
    rw [List.foldl_cons, ih fun other member => unnamed other (List.mem_cons_of_mem _ member)]
    split
    · rename_i loaded
      exact AList.lookup_insert_ne (Ne.symm (unnamed file List.mem_cons_self loaded))
    · rfl

theorem lookup_foldl_of_named {id : String} {state : OperationState}
    (only : ∀ file ∈ files, file.1 ≠ ".json" → file.2.operationId = id → file.2 = state)
    (memory : Table OperationState)
    (held : memory.lookup id = some state ∨
      ∃ file ∈ files, file.1 ≠ ".json" ∧ file.2.operationId = id) :
    (files.foldl (fun memory file =>
      if file.1 ≠ ".json" then memory.insert file.2.operationId file.2 else memory)
        memory).lookup id = some state := by
  induction files generalizing memory with
  | nil =>
    rcases held with held | ⟨_, member, _⟩
    · exact held
    · cases member
  | cons file rest ih =>
    rw [List.foldl_cons]
    refine ih (fun other member => only other (List.mem_cons_of_mem _ member)) _ ?_
    by_cases loaded : file.1 ≠ ".json"
    · rw [if_pos loaded]
      by_cases own : file.2.operationId = id
      · left
        rw [own, only file List.mem_cons_self loaded own, AList.lookup_insert]
      · rcases held with held | ⟨other, member, rest⟩
        · left
          rw [AList.lookup_insert_ne (Ne.symm own), held]
        · rcases List.mem_cons.mp member with rfl | member
          · exact absurd rest.2 own
          · exact .inr ⟨other, member, rest⟩
    · rw [if_neg loaded]
      rcases held with held | ⟨other, member, rest⟩
      · exact .inl held
      · rcases List.mem_cons.mp member with rfl | member
        · exact absurd rest.1 loaded
        · exact .inr ⟨other, member, rest⟩

variable {store : Store isAlnum} {id : String}

theorem file_of_mem {file : Sigma fun _ : String => OperationState}
    (member : file ∈ store.files.entries) : store.files.lookup file.1 = some file.2 :=
  AList.mem_lookup_iff.mpr member

/-- **A new process reads the record of an operation from its file.** -/
theorem lookup_reopened {state : OperationState}
    (filed : store.files.lookup (fileName isAlnum id) = some state)
    (own : state.operationId = id) (loaded : fileName isAlnum id ≠ ".json") :
    store.reopened.memory.lookup id = some state := by
  refine lookup_foldl_of_named (fun file member _ same => ?_) ∅
    (.inr ⟨⟨_, state⟩, AList.mem_lookup_iff.mp filed, loaded, own⟩)
  have found := file_of_mem member
  have name := store.named _ _ found
  rw [same] at name
  rw [name, filed] at found
  exact (Option.some.inj found).symm

/-- **What a new process knows of an operation** is what the file of the operation holds. -/
theorem filed_of_reopened {state : OperationState}
    (known : store.reopened.memory.lookup id = some state) :
    store.files.lookup (fileName isAlnum id) = some state ∧ fileName isAlnum id ≠ ".json" := by
  by_cases named : ∃ file ∈ store.files.entries, file.1 ≠ ".json" ∧ file.2.operationId = id
  · obtain ⟨⟨name, held⟩, member, loaded, own⟩ := named
    have filed := file_of_mem member
    have name_eq := store.named _ _ filed
    dsimp only at filed name_eq loaded own
    rw [own] at name_eq
    rw [name_eq] at filed loaded
    have read := lookup_reopened filed own loaded
    rw [known] at read
    cases read
    exact ⟨filed, loaded⟩
  · have unread : store.reopened.memory.lookup id = none :=
      (lookup_foldl_of_unnamed (fun file member loaded own => named ⟨file, member, loaded, own⟩)
        ∅).trans rfl
    rw [known] at unread
    cases unread

theorem lookup_reopened_none (unloaded : fileName isAlnum id = ".json") :
    store.reopened.memory.lookup id = none := by
  refine (lookup_foldl_of_unnamed (fun file member loaded same => ?_) ∅).trans rfl
  have name := store.named _ _ (file_of_mem member)
  rw [same] at name
  exact loaded (name.trans unloaded)

end

end Audisor.Operations
