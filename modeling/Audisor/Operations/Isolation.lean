/-
**Operations that do not touch each other.**

* `Stores` — the store of operations, the store of their artifacts, and the shared store.
* `StoreStep` — a call for an operation, with the exception that its write raises, or a reload.
* `operationView` — what the stores hold for an operation.
* `Isolated` — the calls for other operations leave what is persisted for one, and what is reported of
  it is as if they had not been made.
* **`isolated_of_apart`** — where no other operation has its directory, or uses one of its keys.
  `shared_name` — the ids `a/b` and `ab` have one file.
-/

import Audisor.Interaction.Unwinding
import Audisor.Operations.SharedStore

namespace Audisor.Operations

open Interaction Json
open Audisor.Aflow (Sha256)
open Audisor.Lifecycle (Raised)

/-! ### The stores -/

/-- The stores of one process. -/
structure Stores (isAlnum : Char → Bool) where
  operations : Store isAlnum := {}
  artifacts : Artifacts := ∅
  shared : SharedFiles := {}

/-- A call for an operation. -/
inductive StoreCall where
  | create (request : Dict) (key : Option IdempotencyKey)
  | start
  | complete (result : Dict) (artifacts : List Dict) (key : Option IdempotencyKey)
  | fail (errorCode errorMessage : String) (key : Option IdempotencyKey)
  | block (reason : String) (key : Option IdempotencyKey)
  | persistArtifact (artifactId content artifactType : String)
  | shared (call : SharedCall)

def StoreCall.key : StoreCall → Option IdempotencyKey
  | .create _ key | .complete _ _ key | .fail _ _ key | .block _ key => key
  | .start | .persistArtifact _ _ _ | .shared _ => none

/-- What a call answers, or raises. -/
inductive StoreAnswer where
  | created (result : Except Raised Created)
  | altered (result : Except Raised Unit)
  | persisted (result : Except Raised ArtifactReference)
  | shared (result : Except SharedError SharedAnswer)
  | reloaded

/-- A call for an operation, and the exception that its write raises; or a new process. -/
inductive StoreStep where
  | call (operationId : String) (call : StoreCall) (unwritten : Option Raised)
  | reload

def sharedAnswer (world : SharedFiles) : (op : SharedOp) → op.Answer
  | .pathExists name => (world.files name).isThere
  | .read name => world.files name
  | .truncate _ | .write _ _ | .acquire _ | .release _ => ()

section

variable {isAlnum : Char → Bool}

def Stores.onOperations {α : Type} (answer : Except Raised α → StoreAnswer)
    (p : Run (Store isAlnum) Raised α) (w : Stores isAlnum) : StoreAnswer × Stores isAlnum :=
  (answer (p w.operations).1, { w with operations := (p w.operations).2 })

variable (isAlnum) (sha : Sha256) (root : String)

def runCall (operationId : String) (unwritten : Option Raised) :
    StoreCall → Stores isAlnum → StoreAnswer × Stores isAlnum
  | .create request key =>
    Stores.onOperations .created (create sha (fun _ _ => unwritten) operationId request key)
  | .start => Stores.onOperations .altered (start (fun _ _ => unwritten) operationId)
  | .complete result artifacts key => Stores.onOperations .altered
      (complete sha (fun _ _ => unwritten) operationId result artifacts key)
  | .fail errorCode errorMessage key => Stores.onOperations .altered
      (fail (fun _ _ => unwritten) operationId errorCode errorMessage key)
  | .block reason key =>
    Stores.onOperations .altered (block (fun _ _ => unwritten) operationId reason key)
  | .persistArtifact artifactId content artifactType => fun w =>
    let p := persistArtifact sha isAlnum { root, writeFails := fun _ _ _ => unwritten } operationId
      artifactId content artifactType
    (.persisted (p w.artifacts).1, { w with artifacts := (p w.artifacts).2 })
  | .shared call => fun w =>
    let p := (call.program (fileName isAlnum operationId) operationId).served sharedAnswer
      sharedEnvironment.next
    (.shared (p w.shared).1, { w with shared := (p w.shared).2 })

def stores : Machine (Stores isAlnum) StoreStep StoreAnswer
  | .call operationId call unwritten => runCall isAlnum sha root operationId unwritten call
  | .reload => fun w => (.reloaded, { w with operations := w.operations.reopened })

/-! ### Isolation -/

def StoreStep.isVisible (operationId : String) : StoreStep → Bool
  | .call id _ _ => id == operationId
  | .reload => true

def persistedFor (operationId : String) (w : Stores isAlnum) :
    Option OperationState × (String → Option String) × SharedFile :=
  (w.operations.files.lookup (fileName isAlnum operationId),
    fun artifactId => w.artifacts.lookup (artifactPath isAlnum root operationId artifactId),
    w.shared.files (fileName isAlnum operationId))

/-- **An operation is isolated** in a run: calls for others leave what is persisted for it, and its own
calls answer as if the others had not been made. -/
structure Isolated (operationId : String) (w : Stores isAlnum) (steps : List StoreStep) : Prop where
  persisted : (∀ id call unwritten, .call id call unwritten ∈ steps → id ≠ operationId) →
    persistedFor isAlnum root operationId ((stores isAlnum sha root).after steps w) =
      persistedFor isAlnum root operationId w
  reported : (stores isAlnum sha root).seen (StoreStep.isVisible operationId) steps w =
    (stores isAlnum sha root).seen (StoreStep.isVisible operationId)
      (steps.filter (StoreStep.isVisible operationId)) w

/-- **No other operation of a run has the directory** of the operation, or uses a key that it uses. -/
def Apart (operationId : String) (steps : List StoreStep) : Prop :=
  ∀ id call unwritten, .call id call unwritten ∈ steps → id ≠ operationId →
    operationDir isAlnum root id ≠ operationDir isAlnum root operationId ∧
    ∀ own unwritten', .call operationId own unwritten' ∈ steps →
      ∀ key ∈ call.key, ∀ key' ∈ own.key, key.composite ≠ key'.composite

end

/-! ### What is known of an operation -/

section

variable {isAlnum : Char → Bool}

def storeView (operationId : String) (keys : String → Prop) (store : Store isAlnum) :
    Option OperationState × Option OperationState × ({key // keys key} → Option IdempotencyRecord) :=
  (store.memory.lookup operationId, store.files.lookup (fileName isAlnum operationId),
    fun key => store.idempotency.lookup key.1)

variable {operationId : String} {keys : String → Prop} {w w' : Store isAlnum}

theorem storeView_eq_iff : storeView operationId keys w = storeView operationId keys w' ↔
    w.memory.lookup operationId = w'.memory.lookup operationId ∧
    w.files.lookup (fileName isAlnum operationId) = w'.files.lookup (fileName isAlnum operationId) ∧
    ∀ key, keys key → w.idempotency.lookup key = w'.idempotency.lookup key := by
  simp only [storeView, Prod.mk.injEq, funext_iff, Subtype.forall]

/-! ### Calls for another operation -/

section Quiet

variable {id : String} {fails : WriteFails isAlnum}

theorem view_remembering {state : OperationState} (other : state.operationId ≠ operationId) :
    storeView operationId keys (w.remembering state) = storeView operationId keys w := by
  refine storeView_eq_iff.mpr ⟨?_, rfl, fun _ _ => rfl⟩
  rw [lookup_remembering, if_neg other.symm]

theorem view_persisting {state : OperationState}
    (other : fileName isAlnum state.operationId ≠ fileName isAlnum operationId) :
    storeView operationId keys (w.persisting state) = storeView operationId keys w := by
  refine storeView_eq_iff.mpr ⟨?_, ?_, fun _ _ => rfl⟩
  · rw [lookup_persisting, if_neg fun same => other (congrArg _ same.symm)]
  · rw [filed_persisting, if_neg other.symm]

theorem quiet_persist {state : OperationState}
    (other : fileName isAlnum state.operationId ≠ fileName isAlnum operationId) :
    Quiet (storeView operationId keys) (persist fails state) := by
  intro w
  unfold persist
  cases fails w state with
  | some error => rfl
  | none => exact view_persisting other

theorem quiet_alter {update : OperationState → OperationState}
    (kept : ∀ state, (update state).operationId = state.operationId)
    (other : fileName isAlnum id ≠ fileName isAlnum operationId) :
    Quiet (storeView operationId keys) (alter fails id update) := by
  intro w
  unfold alter
  rw [run_bind_ok (run_look _ _)]
  cases found : w.memory.lookup id with
  | none => rfl
  | some state =>
    have own : (update state).operationId = id := (kept state).trans (w.keyed _ _ found)
    have different : (update state).operationId ≠ operationId := by
      rintro same
      exact other (congrArg _ (own.symm.trans same))
    dsimp only
    rw [run_bind_ok (run_change _ _)]
    exact (quiet_persist (own ▸ other) _).trans (view_remembering different)

theorem view_keyed {composite : String} {record : IdempotencyRecord} (other : ¬ keys composite) :
    storeView operationId keys
        { w with idempotency := w.idempotency.insert composite record } =
      storeView operationId keys w := by
  refine storeView_eq_iff.mpr ⟨rfl, rfl, fun key viewed => ?_⟩
  exact AList.lookup_insert_ne fun same => other (same ▸ viewed)

theorem quiet_checkKey {key : IdempotencyKey} (other : ¬ keys key.composite) :
    Quiet (storeView operationId keys) (checkKey key id : Run (Store isAlnum) Raised KeyCheck) := by
  intro w
  unfold checkKey
  cases w.idempotency.lookup key.composite with
  | none => exact view_keyed other
  | some record => rfl

theorem quiet_settleKey {key : Option IdempotencyKey} {status verb : String}
    (other : ∀ own ∈ key, ¬ keys own.composite) :
    Quiet (storeView operationId keys) (settleKey key id status verb : Run (Store isAlnum) Raised Unit) := by
  intro w
  unfold settleKey
  cases key with
  | none => rfl
  | some key =>
    dsimp only
    cases w.idempotency.lookup key.composite with
    | none => rfl
    | some record =>
      dsimp only
      split
      · exact view_keyed (other key rfl)
      · rfl

theorem quiet_alterSettle {update : OperationState → OperationState} {key : Option IdempotencyKey}
    {status verb : String} (kept : ∀ state, (update state).operationId = state.operationId)
    (other : fileName isAlnum id ≠ fileName isAlnum operationId)
    (unused : ∀ own ∈ key, ¬ keys own.composite) :
    Quiet (storeView operationId keys)
      (do alter fails id update
          settleKey key id status verb) :=
  (quiet_alter kept other).bind fun _ => quiet_settleKey unused

theorem quiet_createRecord {sha : Sha256} {request : Dict}
    (other : fileName isAlnum id ≠ fileName isAlnum operationId) :
    Quiet (storeView operationId keys) (createRecord sha fails id request) := by
  refine Quiet.bind (Quiet.look _) fun found => ?_
  cases found with
  | some state => exact Quiet.pure _
  | none => exact Quiet.bind (quiet_persist other) fun _ => Quiet.pure _

theorem quiet_create {sha : Sha256} {request : Dict} {key : Option IdempotencyKey}
    (other : fileName isAlnum id ≠ fileName isAlnum operationId)
    (unused : ∀ own ∈ key, ¬ keys own.composite) :
    Quiet (storeView operationId keys) (create sha fails id request key) := by
  cases key with
  | none => exact quiet_createRecord other
  | some key =>
    refine Quiet.bind (quiet_checkKey (unused key rfl)) fun check => ?_
    cases check with
    | conflict => exact Quiet.pure _
    | new => exact quiet_createRecord other
    | replay =>
      refine Quiet.bind (Quiet.look _) fun found => ?_
      cases found with
      | none => exact quiet_createRecord other
      | some state =>
        dsimp only
        split
        · exact Quiet.pure _
        · exact quiet_createRecord other

end Quiet

/-! ### Calls for the operation -/

section Alike

variable {id : String} {unwritten : Option Raised}

theorem alike_remembering {state : OperationState} (same : storeView operationId keys w =
      storeView operationId keys w') :
    storeView operationId keys (w.remembering state) =
      storeView operationId keys (w'.remembering state) := by
  obtain ⟨remembered, filed, keyed⟩ := storeView_eq_iff.mp same
  refine storeView_eq_iff.mpr ⟨?_, filed, keyed⟩
  rw [lookup_remembering, lookup_remembering, remembered]

theorem alike_persist {state : OperationState} :
    Alike (storeView operationId keys)
      (persist (fun _ _ => unwritten) state : Run (Store isAlnum) Raised Unit) := by
  intro w w' same
  obtain ⟨remembered, filed, keyed⟩ := storeView_eq_iff.mp same
  cases unwritten with
  | some error => exact ⟨rfl, same⟩
  | none =>
    refine ⟨rfl, storeView_eq_iff.mpr ⟨?_, ?_, keyed⟩⟩
    · show (w.persisting state).memory.lookup _ = (w'.persisting state).memory.lookup _
      rw [lookup_persisting, lookup_persisting, remembered]
    · show (w.persisting state).files.lookup _ = (w'.persisting state).files.lookup _
      rw [filed_persisting, filed_persisting, filed]

theorem alike_known : Alike (storeView operationId keys)
    (Run.look (fun store => store.memory.lookup operationId) :
      Run (Store isAlnum) Raised (Option OperationState)) :=
  Alike.look fun _ _ same => (storeView_eq_iff.mp same).1

theorem alike_alter {update : OperationState → OperationState} :
    Alike (storeView operationId keys)
      (alter (fun _ _ => unwritten) operationId update : Run (Store isAlnum) Raised Unit) := by
  refine Alike.bind alike_known fun found => ?_
  cases found with
  | none => exact Alike.raise _
  | some state => exact Alike.bind (Alike.change fun _ _ => alike_remembering) fun _ => alike_persist

theorem alike_keyed {composite : String} {record : IdempotencyRecord}
    (same : storeView operationId keys w = storeView operationId keys w') :
    storeView operationId keys { w with idempotency := w.idempotency.insert composite record } =
      storeView operationId keys
        { w' with idempotency := w'.idempotency.insert composite record } := by
  obtain ⟨remembered, filed, keyed⟩ := storeView_eq_iff.mp same
  refine storeView_eq_iff.mpr ⟨remembered, filed, fun key viewed => ?_⟩
  by_cases own : key = composite
  · subst own
    show (w.idempotency.insert key record).lookup key = (w'.idempotency.insert key record).lookup key
    rw [AList.lookup_insert, AList.lookup_insert]
  · exact (AList.lookup_insert_ne own).trans ((keyed key viewed).trans
      (AList.lookup_insert_ne own).symm)

theorem alike_checkKey {key : IdempotencyKey} (viewed : keys key.composite) :
    Alike (storeView operationId keys) (checkKey key id : Run (Store isAlnum) Raised KeyCheck) := by
  intro w w' same
  have keyed := (storeView_eq_iff.mp same).2.2 _ viewed
  unfold checkKey
  rw [← keyed]
  cases w.idempotency.lookup key.composite with
  | none => exact ⟨rfl, alike_keyed same⟩
  | some record => exact ⟨rfl, same⟩

theorem alike_settleKey {key : Option IdempotencyKey} {status verb : String}
    (viewed : ∀ own ∈ key, keys own.composite) :
    Alike (storeView operationId keys)
      (settleKey key id status verb : Run (Store isAlnum) Raised Unit) := by
  intro w w' same
  unfold settleKey
  cases key with
  | none => exact ⟨rfl, same⟩
  | some key =>
    have keyed := (storeView_eq_iff.mp same).2.2 _ (viewed key rfl)
    dsimp only
    rw [← keyed]
    cases w.idempotency.lookup key.composite with
    | none => exact ⟨rfl, same⟩
    | some record =>
      dsimp only
      split
      · exact ⟨rfl, alike_keyed same⟩
      · exact ⟨rfl, same⟩

theorem alike_createRecord {sha : Sha256} {request : Dict} :
    Alike (storeView operationId keys)
      (createRecord sha (fun _ _ => unwritten) operationId request :
        Run (Store isAlnum) Raised Created) := by
  refine Alike.bind alike_known fun found => ?_
  cases found with
  | some state => exact Alike.pure _
  | none => exact Alike.bind alike_persist fun _ => Alike.pure _

theorem alike_create {sha : Sha256} {request : Dict} {key : Option IdempotencyKey}
    (viewed : ∀ own ∈ key, keys own.composite) :
    Alike (storeView operationId keys)
      (create sha (fun _ _ => unwritten) operationId request key :
        Run (Store isAlnum) Raised Created) := by
  cases key with
  | none => exact alike_createRecord
  | some key =>
    refine Alike.bind (alike_checkKey (viewed key rfl)) fun check => ?_
    cases check with
    | conflict => exact Alike.pure _
    | new => exact alike_createRecord
    | replay =>
      refine Alike.bind alike_known fun found => ?_
      cases found with
      | none => exact alike_createRecord
      | some state =>
        dsimp only
        split
        · exact Alike.pure _
        · exact alike_createRecord

end Alike

/-- **What a new process knows of an operation** is in the file of the operation. -/
theorem lookup_reopened_eq (store : Store isAlnum) (id : String) :
    store.reopened.memory.lookup id =
      (store.files.lookup (fileName isAlnum id)).filter fun state =>
        state.operationId = id ∧ fileName isAlnum id ≠ ".json" := by
  refine Option.ext fun state => ?_
  rw [Option.filter_eq_some_iff, decide_eq_true_iff]
  refine ⟨fun known => ?_, fun filed => lookup_reopened filed.1 filed.2.1 filed.2.2⟩
  obtain ⟨filed, loaded⟩ := filed_of_reopened known
  exact ⟨filed, store.reopened.keyed _ _ known, loaded⟩

theorem alike_reopened (same : storeView operationId keys w = storeView operationId keys w') :
    storeView operationId keys w.reopened = storeView operationId keys w'.reopened := by
  obtain ⟨-, filed, -⟩ := storeView_eq_iff.mp same
  refine storeView_eq_iff.mpr ⟨?_, filed, fun _ _ => rfl⟩
  rw [lookup_reopened_eq, lookup_reopened_eq, filed]

end

/-! ### Artifacts and shared files -/

section

variable {isAlnum : Char → Bool} {sha : Sha256} {root : String} {unwritten : Option Raised}
  {id operationId : String}

theorem slash_not_mem_safeId (slash : isAlnum '/' = false) (id : String) :
    '/' ∉ (safeId isAlnum id).toList := by
  rw [safeId, String.toList_ofList, List.mem_filter]
  rintro ⟨-, kept⟩
  rw [slash] at kept
  exact absurd kept (by decide)

theorem append_slash_inj {before before' after after' : List Char} (last : '/' ∉ after)
    (last' : '/' ∉ after') (same : before ++ '/' :: after = before' ++ '/' :: after') :
    before = before' := by
  rcases List.append_eq_append_iff.mp same with ⟨more, rfl, rest⟩ | ⟨more, rfl, rest⟩
  · cases more with
    | nil => exact (List.append_nil _).symm
    | cons c more =>
      rw [List.cons_append, List.cons.injEq] at rest
      exact absurd (rest.2 ▸ List.mem_append_right _ List.mem_cons_self) last
  · cases more with
    | nil => exact List.append_nil _
    | cons c more =>
      rw [List.cons_append, List.cons.injEq] at rest
      exact absurd (rest.2 ▸ List.mem_append_right _ List.mem_cons_self) last'

theorem toList_artifactPath (id artifactId : String) :
    (artifactPath isAlnum root id artifactId).toList =
      (operationDir isAlnum root id).toList ++ '/' :: (safeId isAlnum artifactId ++ ".json").toList := by
  simp only [artifactPath, String.toList_append, List.append_assoc]
  rfl

theorem artifactPath_ne (slash : isAlnum '/' = false)
    (apart : operationDir isAlnum root id ≠ operationDir isAlnum root operationId)
    (artifactId other : String) :
    artifactPath isAlnum root id artifactId ≠ artifactPath isAlnum root operationId other := by
  have name : ∀ artifactId, '/' ∉ (safeId isAlnum artifactId ++ ".json").toList := by
    intro artifactId among
    rw [String.toList_append, List.mem_append] at among
    exact among.elim (slash_not_mem_safeId slash artifactId) (by decide)
  intro same
  have same := congrArg String.toList same
  rw [toList_artifactPath, toList_artifactPath] at same
  exact apart (String.toList_inj.mp (append_slash_inj (name _) (name _) same))

theorem fileName_ne (apart : operationDir isAlnum root id ≠ operationDir isAlnum root operationId) :
    fileName isAlnum id ≠ fileName isAlnum operationId := by
  intro same
  have same := congrArg String.toList same
  rw [fileName, fileName, String.toList_append, String.toList_append] at same
  apply apart
  rw [operationDir, operationDir, String.toList_inj.mp (List.append_cancel_right same)]

def SharedOp.On (name : String) : SharedOp → Prop
  | .pathExists other | .read other | .truncate other | .write other _ => other = name
  | .acquire _ | .release _ => True

section

variable {name : String}

theorem asks_readRecord : (readRecord name).Asks (SharedOp.On name) := by
  refine ⟨rfl, fun found => ?_⟩
  cases (found : SharedFile) <;> trivial

theorem asks_writeRecord (record : SharedRecord) : (writeRecord name record).Asks (SharedOp.On name) :=
  ⟨rfl, fun _ => ⟨rfl, fun _ => trivial⟩⟩

theorem asks_claimUnlocked (operationId requestHash : String) :
    (SharedOperationStore.claimUnlocked name operationId requestHash).Asks (SharedOp.On name) := by
  refine ⟨rfl, fun known => ?_⟩
  cases (known : Bool) with
  | false => trivial
  | true =>
    refine ⟨rfl, fun found => ?_⟩
    cases (found : SharedFile) with
    | absent => trivial
    | torn => trivial
    | holds record =>
      show Program.Asks _ (ite _ _ _)
      split
      · trivial
      · split
        · trivial
        · exact (asks_writeRecord _).bind fun _ => trivial

/-- **A call asks its own file alone.** -/
theorem asks_sharedCall (call : SharedCall) (operationId : String) :
    (call.program name operationId).Asks (SharedOp.On name) := by
  cases call with
  | bind requestHash metadata =>
    refine ⟨rfl, fun known => ?_⟩
    cases (known : Bool) with
    | false => exact (asks_writeRecord _).bind fun _ => trivial
    | true =>
      refine asks_readRecord.bind fun record => ?_
      show Program.Asks _ (ite _ _ _)
      split <;> trivial
  | load =>
    refine ⟨rfl, fun known => ?_⟩
    cases (known : Bool) with
    | false => trivial
    | true => exact asks_readRecord.bind fun record => trivial
  | persistResponse response =>
    refine ⟨rfl, fun known => ?_⟩
    cases (known : Bool) with
    | false => exact (asks_writeRecord _).bind fun _ => trivial
    | true => exact asks_readRecord.bind fun _ => (asks_writeRecord _).bind fun _ => trivial
  | claimContinuation owner requestHash =>
    refine ⟨trivial, fun _ => (asks_claimUnlocked _ _).bind fun _ => ?_⟩
    exact ⟨trivial, fun _ => Program.Asks.ofExcept _⟩

theorem files_next {other : String} (different : other ≠ name) {op : SharedOp} (on : op.On other)
    (world : SharedFiles) (answer : op.Answer) :
    (sharedEnvironment.next world op answer).files name = world.files name := by
  cases op with
  | truncate own => exact Function.update_of_ne (on ▸ different.symm) ..
  | write own record => exact Function.update_of_ne (on ▸ different.symm) ..
  | pathExists own => rfl
  | read own => rfl
  | acquire owner => rfl
  | release owner => rfl

theorem updated_at {own : String} {file : SharedFile} (on : own = name) (world : SharedFiles) :
    Function.update world.files own file name = file := by
  rw [on, Function.update_self]

theorem files_next_congr {op : SharedOp} (on : op.On name) (world world' : SharedFiles)
    (answer : op.Answer) (same : world.files name = world'.files name) :
    (sharedEnvironment.next world op answer).files name =
      (sharedEnvironment.next world' op answer).files name := by
  cases op with
  | truncate own => exact (updated_at on world).trans (updated_at on world').symm
  | write own record => exact (updated_at on world).trans (updated_at on world').symm
  | pathExists own => exact same
  | read own => exact same
  | acquire owner => exact same
  | release owner => exact same

theorem sharedAnswer_congr {op : SharedOp} (on : op.On name) (world world' : SharedFiles)
    (same : world.files name = world'.files name) : sharedAnswer world op = sharedAnswer world' op := by
  cases op with
  | pathExists own => cases on; exact congrArg SharedFile.isThere same
  | read own => cases on; exact same
  | truncate own => rfl
  | write own record => rfl
  | acquire owner => rfl
  | release owner => rfl

end

/-! ### Runs -/

def operationView (isAlnum : Char → Bool) (root operationId : String) (keys : String → Prop)
    (w : Stores isAlnum) :=
  (storeView operationId keys w.operations,
    fun artifactId => w.artifacts.lookup (artifactPath isAlnum root operationId artifactId),
    w.shared.files (fileName isAlnum operationId))

variable {keys : String → Prop} {w w' : Stores isAlnum}

theorem operationView_eq_iff :
    operationView isAlnum root operationId keys w = operationView isAlnum root operationId keys w' ↔
      storeView operationId keys w.operations = storeView operationId keys w'.operations ∧
      (∀ artifactId, w.artifacts.lookup (artifactPath isAlnum root operationId artifactId) =
        w'.artifacts.lookup (artifactPath isAlnum root operationId artifactId)) ∧
      w.shared.files (fileName isAlnum operationId) =
        w'.shared.files (fileName isAlnum operationId) := by
  simp only [operationView, Prod.mk.injEq, funext_iff]

theorem quiet_runCall (slash : isAlnum '/' = false)
    (apart : operationDir isAlnum root id ≠ operationDir isAlnum root operationId) {call : StoreCall}
    (unused : ∀ key ∈ call.key, ¬ keys key.composite) (w : Stores isAlnum) :
    operationView isAlnum root operationId keys (runCall isAlnum sha root id unwritten call w).2 =
      operationView isAlnum root operationId keys w := by
  have other : fileName isAlnum id ≠ fileName isAlnum operationId := fileName_ne apart
  have operations : ∀ {α : Type} {answer : Except Raised α → StoreAnswer}
      {p : Run (Store isAlnum) Raised α}, Quiet (storeView operationId keys) p →
      operationView isAlnum root operationId keys (Stores.onOperations answer p w).2 =
        operationView isAlnum root operationId keys w :=
    fun quiet => operationView_eq_iff.mpr ⟨quiet _, fun _ => rfl, rfl⟩
  cases call with
  | create request key => exact operations (quiet_create other unused)
  | start => exact operations (quiet_alter (fun _ => rfl) other)
  | complete result artifacts key =>
    exact operations (quiet_alterSettle (by exact fun _ => rfl) other unused)
  | fail errorCode errorMessage key =>
    exact operations (quiet_alterSettle (by exact fun _ => rfl) other unused)
  | block reason key =>
    exact operations (quiet_alterSettle (by exact fun _ => rfl) other unused)
  | persistArtifact artifactId content artifactType =>
    refine operationView_eq_iff.mpr ⟨rfl, fun otherId => ?_, rfl⟩
    cases unwritten with
    | some error => rfl
    | none => exact AList.lookup_insert_ne (artifactPath_ne slash apart artifactId otherId).symm
  | shared call =>
    refine operationView_eq_iff.mpr ⟨rfl, fun _ => rfl, ?_⟩
    exact (asks_sharedCall call id).quiet
      (fun world : SharedFiles => world.files (fileName isAlnum operationId))
      (fun _ on world answer => files_next other on world answer) w.shared

theorem alike_runCall {call : StoreCall} (viewed : ∀ key ∈ call.key, keys key.composite)
    (same : operationView isAlnum root operationId keys w =
      operationView isAlnum root operationId keys w') :
    (runCall isAlnum sha root operationId unwritten call w).1 =
        (runCall isAlnum sha root operationId unwritten call w').1 ∧
      operationView isAlnum root operationId keys
          (runCall isAlnum sha root operationId unwritten call w).2 =
        operationView isAlnum root operationId keys
          (runCall isAlnum sha root operationId unwritten call w').2 := by
  obtain ⟨known, artifacts, shared⟩ := operationView_eq_iff.mp same
  have operations : ∀ {α : Type} {answer : Except Raised α → StoreAnswer}
      {p : Run (Store isAlnum) Raised α}, Alike (storeView operationId keys) p →
      (Stores.onOperations answer p w).1 = (Stores.onOperations answer p w').1 ∧
        operationView isAlnum root operationId keys (Stores.onOperations answer p w).2 =
          operationView isAlnum root operationId keys (Stores.onOperations answer p w').2 := by
    intro α answer p alike
    obtain ⟨result, left⟩ := alike _ _ known
    exact ⟨congrArg answer result, operationView_eq_iff.mpr ⟨left, artifacts, shared⟩⟩
  cases call with
  | create request key => exact operations (alike_create viewed)
  | start => exact operations alike_alter
  | complete result artifacts key =>
    exact operations (alike_alter.bind fun _ => alike_settleKey viewed)
  | fail errorCode errorMessage key =>
    exact operations (alike_alter.bind fun _ => alike_settleKey viewed)
  | block reason key => exact operations (alike_alter.bind fun _ => alike_settleKey viewed)
  | persistArtifact artifactId content artifactType =>
    cases unwritten with
    | some error => exact ⟨rfl, same⟩
    | none =>
      refine ⟨rfl, operationView_eq_iff.mpr ⟨known, fun otherId => ?_, shared⟩⟩
      show (AList.insert _ content w.artifacts).lookup _ = (AList.insert _ content w'.artifacts).lookup _
      by_cases own : artifactPath isAlnum root operationId otherId =
          artifactPath isAlnum root operationId artifactId
      · rw [own, AList.lookup_insert, AList.lookup_insert]
      · rw [AList.lookup_insert_ne own, AList.lookup_insert_ne own, artifacts]
  | shared call =>
    obtain ⟨result, left⟩ := (asks_sharedCall call operationId).alike
      (fun world : SharedFiles => world.files (fileName isAlnum operationId))
      (fun _ on => sharedAnswer_congr on) (fun _ on => files_next_congr on) w.shared w'.shared shared
    exact ⟨congrArg StoreAnswer.shared result, operationView_eq_iff.mpr ⟨known, artifacts, left⟩⟩

/-- **An operation is isolated** in every run in which no other operation has its directory, or uses a
key that it uses. -/
theorem isolated_of_apart (slash : isAlnum '/' = false) (sha : Sha256) (root operationId : String)
    (w : Stores isAlnum) (steps : List StoreStep) (apart : Apart isAlnum root operationId steps) :
    Isolated isAlnum sha root operationId w steps := by
  let keys : String → Prop := fun composite => ∃ own unwritten,
    StoreStep.call operationId own unwritten ∈ steps ∧ ∃ key ∈ own.key, key.composite = composite
  have quiet : ∀ id call unwritten, .call id call unwritten ∈ steps → id ≠ operationId →
      ∀ w, operationView isAlnum root operationId keys (runCall isAlnum sha root id unwritten call w).2 =
        operationView isAlnum root operationId keys w := by
    intro id call unwritten among other
    obtain ⟨directory, unshared⟩ := apart id call unwritten among other
    refine quiet_runCall slash directory fun key used => ?_
    rintro ⟨own, unwritten', also, key', uses, same⟩
    exact unshared own unwritten' also key used key' uses same.symm
  refine ⟨fun others => ?_, ?_⟩
  · refine Machine.after_quiet (persistedFor isAlnum root operationId) (fun step among w => ?_) w
    cases step with
    | reload => rfl
    | call id call unwritten =>
      have still := quiet id call unwritten among (others id call unwritten among) w
      obtain ⟨known, artifacts, shared⟩ := operationView_eq_iff.mp still
      simp only [persistedFor, Prod.mk.injEq, funext_iff]
      exact ⟨(storeView_eq_iff.mp known).2.1, artifacts, shared⟩
  · refine (Machine.unwinding (operationView isAlnum root operationId keys) ?_ ?_ rfl).1
    · intro step among hidden w
      cases step with
      | reload => cases hidden
      | call id call unwritten => exact quiet id call unwritten among (beq_eq_false_iff_ne.mp hidden) w
    · intro step among visible w w' same
      cases step with
      | reload =>
        obtain ⟨known, artifacts, shared⟩ := operationView_eq_iff.mp same
        exact ⟨rfl, operationView_eq_iff.mpr ⟨alike_reopened known, artifacts, shared⟩⟩
      | call id call unwritten =>
        obtain rfl : id = operationId := beq_iff_eq.mp visible
        exact alike_runCall (fun key used => ⟨call, unwritten, among, key, used, rfl⟩) same

end

/-! ### Names that are one -/

def boundBoth (first second : String) : List StoreStep :=
  [.call first (.shared (.bind "one" [])) none, .call second (.shared (.bind "two" [])) none]

/-- **The ids `a/b` and `ab` have one file**: a bind of the first is a conflict for the second. -/
theorem shared_name :
    ¬ Isolated Char.isAlphanum Aflow.sha256 "/store" "ab" {} (boundBoth "a/b" "ab") := by
  intro isolated
  have reported : [StoreAnswer.shared (.error (.identityConflict
        "operation_id is already bound to a different request"))] = [.shared (.ok .new)] :=
    isolated.reported
  cases reported

/-- The ids `a` and `b` have their own. -/
theorem own_names : Isolated Char.isAlphanum Aflow.sha256 "/store" "b" {} (boundBoth "a" "b") := by
  refine isolated_of_apart (by decide) Aflow.sha256 "/store" "b" {} _ fun id call unwritten among _ => ?_
  rcases List.mem_cons.mp among with first | among
  · cases first
    exact ⟨by decide, fun _ _ _ _ used => nomatch used⟩
  · cases List.mem_singleton.mp among
    contradiction

end Audisor.Operations
