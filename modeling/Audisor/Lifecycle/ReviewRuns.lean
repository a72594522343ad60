/-
**What a review leaves behind.**

* `opened` — the world with the operation store that a call works with.
* `reviewAndLock_of_record` — a call on an operation that has a record.
* `Began`, `Unfinished` — the record of an operation before its review ends.
* **`lockReviewed_ends`**, `decideReview_ends` — the record and the active state after each part of a
  review, returned or raised.
-/

import Audisor.Aflow.ReadyPlans
import Audisor.Lifecycle.Review

namespace Audisor.Lifecycle

open Checked Json
open Audisor.Aflow (Sha256 AnalysisDecision)
open Audisor.Operations

section

variable {isAlnum : Char → Bool} (sha : Sha256) (host : ReviewHost isAlnum) (args : ReviewArguments)

def ReviewArguments.requestHash : String := computeRequestHash sha args.requestPayload

def opened (w : World isAlnum) : World isAlnum :=
  if args.givenStore then w else { w with operations := w.operations.reopened }

def recordFound (w : World isAlnum) : Option OperationState :=
  (opened args w).operations.memory.lookup args.operationId

/-- The error of a call whose operation is bound to another request. -/
def boundElsewhere : Raised := lifecycleError
  ("Operation '" ++ args.operationId ++ "' is already bound to a different request")

variable {sha host args} {w w' : World isAlnum}

@[simp] theorem opened_activeFile : (opened args w).activeFile = w.activeFile := by
  unfold opened
  split <;> rfl

theorem openStore_run : openStore args w = (.ok (), opened args w) := by
  unfold openStore opened
  split <;> rfl

/-! ### Calls on an operation that has a record -/

theorem openOperation_of_record {state : OperationState}
    (found : recordFound args w = some state) :
    openOperation sha host args w =
      (.ok (if state.requestHash = args.requestHash sha then .existing state else .conflict),
        opened args w) := by
  unfold openOperation
  rw [run_bind_ok openStore_run, create_none]
  exact run_zoom (createRecord_of_found sha found)

/-- **A call on an operation that has a record** is a replay or an error, and changes nothing else. -/
theorem reviewAndLock_of_record {state : OperationState} (found : recordFound args w = some state) :
    reviewAndLock sha host args w =
      if state.requestHash = args.requestHash sha then
        (.ok (replayed args.operationId state), opened args w)
      else (.error (boundElsewhere args), opened args w) := by
  unfold reviewAndLock
  rw [run_bind_ok (openOperation_of_record found)]
  by_cases same : state.requestHash = args.requestHash sha
  · rw [if_pos same, if_pos same]
    rfl
  · rw [if_neg same, if_neg same]
    rfl

/-- What the writes of a host raise. -/
inductive Fault (host : ReviewHost isAlnum) : Raised → Prop
  | record {error : Raised} (store : Store isAlnum) (state : OperationState) :
    host.storeFails store state = some error → Fault host error
  | artifact {error : Raised} (files : Artifacts) (path content : String) :
    host.artifactHost.writeFails files path content = some error → Fault host error
  | state {error : Raised} (file : ActiveFile) (value : Json) :
    host.stateFails file value = some error → Fault host error

def Fresh (sha : Sha256) (args : ReviewArguments) (state : OperationState) : Prop :=
  state = { operationId := args.operationId, status := .pending, requestHash := args.requestHash sha }

variable (sha host) in
theorem openOperation_of_none (missing : recordFound args w = none) :
    Ends (openOperation sha host args) w
      (fun created after => after.activeFile = w.activeFile ∧ created = .new ∧
        Recorded after.operations args.operationId (Fresh sha args))
      fun error after => Fault host error ∧ after = opened args w := by
  refine ends_bind (ends_of_ok openStore_run (ends_zoom ?_))
  rw [create_none]
  refine Ends.mono (ends_createRecord sha) (fun created after holds => ?_) fun _ after holds => ?_
  · cases created with
    | new => exact ⟨opened_activeFile, rfl, holds.2⟩
    | existing state => exact absurd (holds.2.1.symm.trans missing) (Option.some_ne_none _)
    | conflict =>
      obtain ⟨_, state, found, _⟩ := holds
      exact absurd (found.symm.trans missing) (Option.some_ne_none _)
  · obtain ⟨⟨state, write⟩, same, _⟩ := holds
    refine ⟨.record _ state write, ?_⟩
    rw [same]
    rfl

/-- **A call that creates its operation** found no record of it. -/
theorem openOperation_new {w₁ : World isAlnum}
    (created : openOperation sha host args w = (.ok .new, w₁)) :
    recordFound args w = none ∧ w₁.activeFile = w.activeFile ∧
      Recorded w₁.operations args.operationId (Fresh sha args) := by
  cases found : recordFound args w with
  | none =>
    obtain ⟨kept, _, recorded⟩ := (openOperation_of_none sha host found).of_ok created
    exact ⟨rfl, kept, recorded⟩
  | some state =>
    rw [openOperation_of_record found] at created
    split at created <;> cases created

/-! ### The record of a review that goes on -/

/-- The record of an operation whose review has not ended. -/
def Unfinished (sha : Sha256) (args : ReviewArguments) (state : OperationState) : Prop :=
  state.requestHash = args.requestHash sha ∧ state.status.isTerminal = false ∧
    state.resultHash = none

def Finished (sha : Sha256) (args : ReviewArguments) (status : Status) (resultHash : Option String)
    (state : OperationState) : Prop :=
  state.requestHash = args.requestHash sha ∧ state.status = status ∧
    state.resultHash = resultHash

/-- A review that raised before its record was final: the file says that it still goes on. -/
def Interrupted (sha : Sha256) (args : ReviewArguments) (w : World isAlnum) : Prop :=
  ∃ held filed, w.operations.memory.lookup args.operationId = some held ∧
    held.requestHash = args.requestHash sha ∧
    w.operations.files.lookup (fileName isAlnum args.operationId) = some filed ∧
    Unfinished sha args filed

theorem Fresh.unfinished {state : OperationState} (fresh : Fresh sha args state) :
    Unfinished sha args state := by
  rw [fresh]
  exact ⟨rfl, rfl, rfl⟩

theorem interrupted_of_recorded
    (recorded : Recorded w.operations args.operationId (Unfinished sha args)) :
    Interrupted sha args w := by
  obtain ⟨held, remembered, filed, own⟩ := recorded
  exact ⟨held, held, remembered, own.1, filed, own⟩

/-! ### The parts of a review -/

def Apart (before after : World isAlnum) : Prop :=
  after.operations = before.operations ∧ after.activeFile = before.activeFile

theorem Apart.trans {first second third : World isAlnum} (before : Apart first second)
    (after : Apart second third) : Apart first third :=
  ⟨after.1.trans before.1, after.2.trans before.2⟩

theorem keepArtifact_ends {artifactId artifactType : String} {value : Json}
    {Q : Dict → World isAlnum → Prop} {X : Raised → World isAlnum → Prop}
    (kept : ∀ ref after, Apart w after → Q ref after)
    (failed : ∀ error after, Fault host error → Apart w after → X error after) :
    Ends (keepArtifact sha host args artifactId artifactType value) w Q X := by
  refine ends_bind (ends_zoom (ends_persistArtifact sha (fun ref after => ?_) fun _ error write => ?_))
  · exact ends_pure (kept _ _ ⟨rfl, rfl⟩)
  · exact failed _ _ (.artifact _ _ _ write) ⟨rfl, rfl⟩

/-- What `write_active_state` refuses. -/
def Unwritable (sha : Sha256) (host : ReviewHost isAlnum) (operationId : String)
    (lock contract : Dict) (file : ActiveFile) (error : Raised) : Prop :=
  verifyLock sha lock ≠ .ok true ∨ verifyContract sha contract = false ∨
    stateConflict host operationId file = some error ∨ Fault host error

/-- **The active state is written whole or not at all**, and only with a lock and a contract that
verify. -/
theorem writeActiveState_ends {operationId : String} {lock contract : Dict} :
    Ends (writeActiveState sha host operationId lock contract) w
      (fun _ after => verifyLock sha lock = .ok true ∧ verifyContract sha contract = true ∧
        after = { w with activeFile := .holds (envelope operationId lock contract) })
      fun error after => after = w ∧
        Unwritable sha host operationId lock contract w.activeFile error := by
  refine ends_bind (ends_ofExcept (fun verified lockHolds => ?_) fun failure broken =>
    ⟨rfl, .inl ?_⟩)
  swap
  · rw [broken]
    exact nofun
  cases verified with
  | false =>
    refine ends_raise ⟨rfl, .inl ?_⟩
    rw [lockHolds]
    exact fun same => Bool.noConfusion (Except.ok.inj same)
  | true =>
    rw [if_neg (Bool.noConfusion : true ≠ false)]
    by_cases broken : verifyContract sha contract = false
    · rw [if_pos broken]
      exact ends_raise ⟨rfl, .inr (.inl broken)⟩
    · rw [if_neg broken]
      refine ends_bind (ends_of_ok (run_look _ _) ?_)
      cases conflict : stateConflict host operationId w.activeFile with
      | some error => exact ends_raise ⟨rfl, .inr (.inr (.inl conflict))⟩
      | none =>
        dsimp only
        cases write : host.stateFails w.activeFile (envelope operationId lock contract) with
        | some error => exact ends_raise ⟨rfl, .inr (.inr (.inr (.state _ _ write)))⟩
        | none =>
          exact ends_of_ok (run_change _ _)
            ⟨lockHolds, Bool.eq_true_of_not_eq_false broken, rfl⟩

variable (host) in
theorem ends_zoom_alter {P : OperationState → Prop} (P' : OperationState → Prop)
    (update : OperationState → OperationState)
    (recorded : Recorded w.operations args.operationId P)
    (going : ∀ state, P state → Unfinished sha args state)
    (kept : ∀ state, (update state).operationId = state.operationId)
    (hash : ∀ state, (update state).requestHash = state.requestHash)
    (changed : ∀ state, P state → P' (update state)) :
    Ends (Run.zoom operations (alter host.storeFails args.operationId update)) w
      (fun _ after => after.activeFile = w.activeFile ∧
        Recorded after.operations args.operationId P')
      fun error after => Fault host error ∧ after.activeFile = w.activeFile ∧
        Interrupted sha args after := by
  refine ends_zoom ((recorded.alter kept).mono (fun _ after holds => ?_) fun _ after torn => ?_)
  · refine ⟨rfl, holds.mono fun state ⟨old, before, same⟩ => ?_⟩
    rw [same]
    exact changed old before
  · obtain ⟨⟨store, state, unwritten⟩, old, remembered, filed, before⟩ := torn
    refine ⟨.record store state unwritten, rfl, update old, old, remembered, ?_, filed,
      going old before⟩
    rw [hash]
    exact (going old before).1

variable (host) in
theorem decideReview_ends (fresh : Recorded w.operations args.operationId (Fresh sha args)) :
    Ends (decideReview sha host args) w
      (fun decision after => after.activeFile = w.activeFile ∧
        analyzeDocument sha host args.analysisRequest = .ok decision ∧
        Recorded after.operations args.operationId
          (if isBlocked decision then Finished sha args .blocked none else Unfinished sha args))
      fun error after =>
        (Fault host error ∨ analyzeDocument sha host args.analysisRequest = .error error) ∧
        after.activeFile = w.activeFile ∧ Interrupted sha args after := by
  have started := ends_zoom_alter host (Unfinished sha args)
    (fun state => { state with status := .running }) fresh (fun _ => Fresh.unfinished) (fun _ => rfl)
    (fun _ => rfl) fun state own => by
      rw [own]
      exact ⟨rfl, rfl, rfl⟩
  refine ends_bind (started.mono (fun _ running holds => ?_) fun _ _ torn => ⟨.inl torn.1, torn.2⟩)
  obtain ⟨sameFile, recorded⟩ := holds
  refine ends_bind (ends_ofExcept (fun decision analyzed => ?_) fun _ failed =>
    ⟨.inr failed, sameFile, interrupted_of_recorded recorded⟩)
  dsimp only
  by_cases blocked : isBlocked decision = true
  · rw [if_pos blocked, block_none]
    have settled := ends_zoom_alter host (Finished sha args .blocked none)
      (fun state =>
        { state with
          status := .blocked, errorCode := some "blocked"
          errorMessage := some (blockReason decision) })
      recorded (fun _ => id) (fun _ => rfl) (fun _ => rfl) fun state own => ⟨own.1, rfl, own.2.2⟩
    refine ends_bind (settled.mono (fun _ after done => ?_) fun _ _ torn =>
      ⟨.inl torn.1, torn.2.1.trans sameFile, torn.2.2⟩)
    refine ends_pure ⟨done.1.trans sameFile, analyzed, ?_⟩
    rw [if_pos blocked]
    exact done.2
  · rw [if_neg blocked]
    refine ends_pure ⟨sameFile, analyzed, ?_⟩
    rw [if_neg blocked]
    exact recorded

/-! ### The ends of a review -/

/-- What a caller learns of a review. -/
structure Answer where
  decision : String
  blocking : Bool
  executionReady : Bool
  findings : List Aflow.Finding
  contractSha256 : Option String

def ReviewResult.answer (result : ReviewResult) : Answer :=
  { decision := result.decision, blocking := result.blocking
    executionReady := result.executionReady, findings := result.findings
    contractSha256 := result.contractSha256 }

def answerOf (decision : AnalysisDecision) (contractSha256 : Option String) : Answer :=
  { decision := decision.decision.value, blocking := decision.blocking
    executionReady := decision.executionReady, findings := decision.findings, contractSha256 }

def keptHash (sha : Sha256) (decision : AnalysisDecision) (contract : Dict) : String :=
  computeRequestHash sha
    [("contract_sha256", .str (contractSha256 contract)), ("decision", .str decision.decision.value)]

/-- A review that returned with the plan locked. -/
structure Locked (sha : Sha256) (args : ReviewArguments) (decision : AnalysisDecision)
    (contract lock : Dict) (result : ReviewResult) (after : World isAlnum) : Prop where
  assembled : assembleContract sha (args.assemblyInput decision) = .ok contract
  accepted : acceptForPrimary sha (buildAnalysisForLock args.candidatePlan args.acceptedTaskInput)
    (some (contractSha256 contract)) args.lockedBy = .ok lock
  lockHolds : verifyLock sha lock = .ok true
  contractHolds : verifyContract sha contract = true
  active : after.activeFile = .holds (envelope args.operationId lock contract)
  recorded : Recorded after.operations args.operationId
    (Finished sha args .completed (some (keptHash sha decision contract)))
  ok : result.status = "ok"
  answer : result.answer = answerOf decision (some (contractSha256 contract))
  real : result.idempotentReplay = false

/-- A review that returned with the plan refused. -/
structure Refused (sha : Sha256) (args : ReviewArguments) (decision : AnalysisDecision)
    (result : ReviewResult) (before after : World isAlnum) : Prop where
  untouched : after.activeFile = before.activeFile
  recorded : Recorded after.operations args.operationId (Finished sha args .blocked none)
  status : result.status = "blocked"
  answer : result.answer = answerOf decision none
  real : result.idempotentReplay = false

variable {decision : AnalysisDecision}

theorem reportBlocked_ends
    (recorded : Recorded w.operations args.operationId (Finished sha args .blocked none)) :
    Ends (reportBlocked sha host args decision) w
      (fun result after => Refused sha args decision result w after)
      fun error after => Fault host error ∧ Apart w after := by
  refine ends_bind (keepArtifact_ends (fun ref after apart => ends_pure ?_) fun _ _ fault apart =>
    ⟨fault, apart⟩)
  exact { untouched := apart.2, recorded := by rwa [apart.1], status := rfl, answer := rfl, real := rfl }

/-- Why the plan of a review is not locked. -/
inductive Obstacle (sha : Sha256) (host : ReviewHost isAlnum) (args : ReviewArguments)
    (decision : AnalysisDecision) (file : ActiveFile) (error : Raised) : Prop
  | contract : assembleContract sha (args.assemblyInput decision) = .error error →
    Obstacle sha host args decision file error
  | lock {contract : Dict} : assembleContract sha (args.assemblyInput decision) = .ok contract →
    acceptForPrimary sha (buildAnalysisForLock args.candidatePlan args.acceptedTaskInput)
      (some (contractSha256 contract)) args.lockedBy = .error error →
    Obstacle sha host args decision file error
  | state {contract lock : Dict} :
    assembleContract sha (args.assemblyInput decision) = .ok contract →
    acceptForPrimary sha (buildAnalysisForLock args.candidatePlan args.acceptedTaskInput)
      (some (contractSha256 contract)) args.lockedBy = .ok lock →
    Unwritable sha host args.operationId lock contract file error →
    Obstacle sha host args decision file error
  | fault : Fault host error → Obstacle sha host args decision file error

/-- **A review that locks** writes the state that it has sealed, and completes the record last: one
that raises leaves the record going on. -/
theorem lockReviewed_ends
    (recorded : Recorded w.operations args.operationId (Unfinished sha args)) :
    Ends (lockReviewed sha host args decision) w
      (fun result after => ∃ contract lock, Locked sha args decision contract lock result after)
      fun error after => Obstacle sha host args decision w.activeFile error ∧
        Interrupted sha args after := by
  refine ends_bind (ends_ofExcept (fun contract assembled => ?_) fun _ failed =>
    ⟨.contract failed, interrupted_of_recorded recorded⟩)
  dsimp only
  refine ends_bind (ends_ofExcept (fun lock accepted => ?_) fun _ failed =>
    ⟨.lock assembled failed, interrupted_of_recorded recorded⟩)
  refine ends_bind (writeActiveState_ends.mono (fun _ active holds => ?_) fun _ after failed =>
    ⟨.state assembled accepted failed.2, ?_⟩)
  swap
  · rw [failed.1]
    exact interrupted_of_recorded recorded
  obtain ⟨lockHolds, contractHolds, written⟩ := holds
  have going : ∀ after : World isAlnum, Apart active after →
      Recorded after.operations args.operationId (Unfinished sha args) := fun after apart => by
    rwa [apart.1, written]
  refine ends_bind (keepArtifact_ends (fun contractRef first apart₁ => ?_) fun _ after fault apart =>
    ⟨.fault fault, interrupted_of_recorded (going after apart)⟩)
  refine ends_bind (keepArtifact_ends (fun lockRef second apart₂ => ?_) fun _ after fault apart =>
    ⟨.fault fault, interrupted_of_recorded (going after (apart₁.trans apart))⟩)
  refine ends_bind (keepArtifact_ends (fun decisionRef third apart₃ => ?_) fun _ after fault apart =>
    ⟨.fault fault, interrupted_of_recorded (going after ((apart₁.trans apart₂).trans apart))⟩)
  have kept := (apart₁.trans apart₂).trans apart₃
  rw [complete_none]
  have completed := ends_zoom_alter host
    (Finished sha args .completed (some (keptHash sha decision contract)))
    (fun state =>
      { state with
        status := .completed, resultHash := some (keptHash sha decision contract)
        artifacts := [contractRef, lockRef, decisionRef] })
    (going third kept) (fun _ => id) (fun _ => rfl) (fun _ => rfl)
    fun state own => ⟨own.1, rfl, rfl⟩
  refine ends_bind (completed.mono (fun _ after done => ?_) fun _ _ torn =>
    ⟨.fault torn.1, torn.2.2⟩)
  refine ends_pure ⟨contract, lock, ?_⟩
  exact { assembled, accepted, lockHolds, contractHolds, recorded := done.2, ok := rfl, answer := rfl
          real := rfl, active := by rw [done.1, kept.2, written] }

/-- **A review** that returns has analysed the request, and either refused the plan or locked it. One
that raises has an error of the analysis, an obstacle or a fault. -/
theorem performReview_returns
    (fresh : Recorded w.operations args.operationId (Fresh sha args)) :
    Ends (performReview sha host args) w
      (fun result after => ∃ decision, analyzeDocument sha host args.analysisRequest = .ok decision ∧
        if isBlocked decision then Refused sha args decision result w after
        else ∃ contract lock, Locked sha args decision contract lock result after)
      fun error _ => analyzeDocument sha host args.analysisRequest = .error error ∨ Fault host error ∨
        ∃ decision, analyzeDocument sha host args.analysisRequest = .ok decision ∧
          isBlocked decision = false ∧ Obstacle sha host args decision w.activeFile error := by
  refine ends_bind ((decideReview_ends host fresh).mono (fun decision decided holds => ?_)
    fun _ _ failed => failed.1.symm.imp_right .inl)
  obtain ⟨sameFile, analyzed, recorded⟩ := holds
  by_cases blocked : isBlocked decision = true
  · rw [if_pos blocked] at recorded ⊢
    refine (reportBlocked_ends recorded).mono (fun result after refused => ?_) fun _ _ failed =>
      .inr (.inl failed.1)
    refine ⟨decision, analyzed, ?_⟩
    rw [if_pos blocked]
    exact { refused with untouched := refused.untouched.trans sameFile }
  · rw [if_neg blocked] at recorded ⊢
    refine (lockReviewed_ends recorded).mono (fun result after locked => ?_) fun _ _ failed =>
      .inr (.inr ⟨decision, analyzed, Bool.eq_false_of_not_eq_true blocked, ?_⟩)
    · refine ⟨decision, analyzed, ?_⟩
      rwa [if_neg blocked]
    · rw [← sameFile]
      exact failed.1

/-- **A review that raises** has left the record going on, or has recorded the block. -/
theorem performReview_error {error : Raised}
    (fresh : Recorded w.operations args.operationId (Fresh sha args))
    (raised : performReview sha host args w = (.error error, w')) :
    Interrupted sha args w' ∨
      ∃ decision decided, decideReview sha host args w = (.ok decision, decided) ∧
        isBlocked decision = true ∧ w'.activeFile = w.activeFile ∧
        Recorded w'.operations args.operationId (Finished sha args .blocked none) := by
  unfold performReview at raised
  rw [run_bind] at raised
  have ends := decideReview_ends host fresh
  cases ran : decideReview sha host args w with
  | mk outcome decided =>
    rw [ran] at raised
    cases outcome with
    | error failure =>
      cases raised
      exact .inl (ends.of_error ran).2.2
    | ok decision =>
      obtain ⟨sameFile, _, recorded⟩ := ends.of_ok ran
      dsimp only at raised
      by_cases blocked : isBlocked decision = true
      · rw [if_pos blocked] at recorded raised
        have apart := (Ends.of_error (reportBlocked_ends recorded) raised).2
        exact .inr ⟨decision, decided, rfl, blocked, apart.2.trans sameFile, by rwa [apart.1]⟩
      · rw [if_neg blocked] at recorded raised
        exact .inl (Ends.of_error (lockReviewed_ends recorded) raised).2

/-! ### Whole calls -/

theorem reviewAndLock_new {w₁ : World isAlnum}
    (created : openOperation sha host args w = (.ok .new, w₁)) :
    reviewAndLock sha host args w = performReview sha host args w₁ := by
  unfold reviewAndLock
  rw [run_bind_ok created]

/-- **A call on an operation that has no record** is a review. -/
theorem reviewAndLock_of_none (missing : recordFound args w = none) :
    Ends (reviewAndLock sha host args) w
      (fun result after => ∃ decision, analyzeDocument sha host args.analysisRequest = .ok decision ∧
        if isBlocked decision then Refused sha args decision result w after
        else ∃ contract lock, Locked sha args decision contract lock result after)
      fun error _ => analyzeDocument sha host args.analysisRequest = .error error ∨ Fault host error ∨
        ∃ decision, analyzeDocument sha host args.analysisRequest = .ok decision ∧
          isBlocked decision = false ∧ Obstacle sha host args decision w.activeFile error := by
  refine ends_bind ((openOperation_of_none sha host missing).mono (fun created w₁ holds => ?_)
    fun _ _ failed => .inr (.inl failed.1))
  obtain ⟨sameFile, rfl, fresh⟩ := holds
  refine (performReview_returns fresh).mono (fun result after ended => ?_) fun _ _ failed => ?_
  · obtain ⟨decision, analyzed, ended⟩ := ended
    refine ⟨decision, analyzed, ?_⟩
    by_cases blocked : isBlocked decision = true
    · rw [if_pos blocked] at ended ⊢
      exact { ended with untouched := ended.untouched.trans sameFile }
    · rwa [if_neg blocked] at ended ⊢
  · rwa [sameFile] at failed

/-- **A call that returns** is a replay of the record that it found, or a review of its own. -/
theorem reviewAndLock_returned {result : ReviewResult}
    (returned : reviewAndLock sha host args w = (.ok result, w')) :
    (∃ state, recordFound args w = some state ∧ state.requestHash = args.requestHash sha ∧
      result = replayed args.operationId state ∧ w' = opened args w) ∨
    (recordFound args w = none ∧ ∃ decision,
      analyzeDocument sha host args.analysisRequest = .ok decision ∧
      if isBlocked decision then Refused sha args decision result w w'
      else ∃ contract lock, Locked sha args decision contract lock result w') := by
  cases found : recordFound args w with
  | some state =>
    rw [reviewAndLock_of_record found] at returned
    by_cases same : state.requestHash = args.requestHash sha
    · rw [if_pos same] at returned
      cases returned
      exact .inl ⟨state, rfl, same, rfl, rfl⟩
    · rw [if_neg same] at returned
      cases returned
  | none => exact .inr ⟨rfl, (reviewAndLock_of_none found).of_ok returned⟩

theorem analyzeDocument_of {document : Dict} {request : Aflow.AnalysisRequest}
    (read : host.readRequest document = .ok request)
    (analyzed : Aflow.analyze sha request none host.now = .ok decision) :
    analyzeDocument sha host document = .ok decision := by
  unfold analyzeDocument
  rw [read]
  dsimp only [bind, Except.bind]
  rw [analyzed]
  rfl

/-- **The decision of an analysis** blocks where there are findings, and is ready where there are
none. -/
theorem analyzeDocument_sound {document : Dict}
    (analyzed : analyzeDocument sha host document = .ok decision) :
    decision.blocking = !decision.findings.isEmpty ∧
      decision.executionReady = decision.findings.isEmpty ∧
      (decision.decision = .noMaterialGap ↔ decision.findings = []) := by
  unfold analyzeDocument at analyzed
  cases read : host.readRequest document with
  | error failure => rw [read] at analyzed; cases analyzed
  | ok request =>
    rw [read] at analyzed
    dsimp only [bind, Except.bind] at analyzed
    cases ran : Aflow.analyze sha request none host.now with
    | error failure => rw [ran] at analyzed; cases analyzed
    | ok made =>
      rw [ran] at analyzed
      cases analyzed
      obtain ⟨_, _, rfl⟩ := Aflow.conclude_ok.mp (Aflow.analyze_ok.mp ran).2
      refine ⟨rfl, rfl, ?_⟩
      generalize (Aflow.findingsOf sha request none).1 = findings
      cases findings with
      | nil => exact ⟨fun _ => rfl, fun _ => rfl⟩
      | cons finding rest => exact ⟨fun none => absurd none (Aflow.decisionType_ne _), nofun⟩

theorem isBlocked_iff {document : Dict}
    (analyzed : analyzeDocument sha host document = .ok decision) :
    isBlocked decision = true ↔ decision.findings ≠ [] := by
  obtain ⟨blocking, _, clean⟩ := analyzeDocument_sound analyzed
  rw [isBlocked, Bool.or_eq_true, bne_iff_ne, ne_eq, clean, blocking, Bool.not_eq_true',
    List.isEmpty_eq_false_iff, or_self]

end

/-! ### A host whose writes succeed -/

/-- A host that reads every document in one way, and whose writes succeed. -/
def quietHost (reading : Except Raised Aflow.AnalysisRequest) : ReviewHost Char.isAlphanum where
  storeFails _ _ := none
  artifactHost := { root := "/state/artifacts", writeFails := fun _ _ _ => none }
  stateFails _ _ := none
  statePath := "/state/active-lock.json"
  repr := plainRepr
  readRequest _ := reading
  now := "2026-01-01T00:00:00Z"

theorem quietHost_faultless {reading : Except Raised Aflow.AnalysisRequest} {error : Raised} :
    ¬ Fault (quietHost reading) error := by
  intro fault
  cases fault with
  | record store state write => cases write
  | artifact files path content write => cases write
  | state file value write => cases write

theorem quietHost_refuses {sha : Sha256} {request : Aflow.AnalysisRequest} {args : ReviewArguments}
    {w : World Char.isAlphanum} {decision : AnalysisDecision} (missing : recordFound args w = none)
    (analyzed : Aflow.analyze sha request none "2026-01-01T00:00:00Z" = .ok decision)
    (blocked : isBlocked decision = true) :
    ∃ result after, reviewAndLock sha (quietHost (.ok request)) args w = (.ok result, after) ∧
      Refused sha args decision result w after := by
  have document : analyzeDocument sha (quietHost (.ok request)) args.analysisRequest = .ok decision :=
    analyzeDocument_of rfl analyzed
  refine Ends.returns ((reviewAndLock_of_none missing).mono (fun result after ended => ?_)
    fun error _ failed => ?_)
  · obtain ⟨made, analyzed', ended⟩ := ended
    rw [document] at analyzed'
    cases analyzed'
    rwa [if_pos blocked] at ended
  · obtain failed | fault | ⟨made, analyzed', free, _⟩ := failed
    · rw [document] at failed
      cases failed
    · exact quietHost_faultless fault
    · rw [document] at analyzed'
      cases analyzed'
      rw [blocked] at free
      cases free

end Audisor.Lifecycle
