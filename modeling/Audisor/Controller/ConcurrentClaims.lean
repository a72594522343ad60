/-
**Concurrent claims of one suspension.**

* `claimProtocol` — what a claim does: it loads the record and, where that carries no claim, may save
  it with a claim of its own claimant. A call that reports a claim holds a record with one.
* `Agrees` — what a claiming call knows of the stored record: the claim that its copy carries is the
  stored one, and where its copy carries none, a rival may have saved meanwhile.
* `Unraced` — a condition on the turns: no claim is saved after a rival saved since the load.
* **`one_claimant`** — in every interleaving of any number of claims whose saves meet the condition, at
  most one claimant is told that it has the claim.
-/

import Audisor.Controller.ExecutionClaims
import Audisor.Interaction.Interleaving

namespace Audisor.Controller

open Interaction Json

variable {c : OperationController} {base : Log} {operationId claimantId : String}
  {record kept : OperationRecord}

/-! ### Claim calls -/

/-- The arguments of a `claim_tool_execution` call, but for the operation. -/
structure ClaimRequest where
  claimantId : String
  suspensionId : String
  callId : String
  argumentDigest : String

def ClaimRequest.call (c : OperationController) (operationId : String) (request : ClaimRequest) :
    Ctl OperationControllerResult :=
  claimToolExecution c operationId request.claimantId request.suspensionId request.callId
    request.argumentDigest

def Granted (result : OperationControllerResult) : Prop :=
  get? result.detail "claimed" = some (.bool true)

instance (result : OperationControllerResult) : Decidable (Granted result) :=
  inferInstanceAs (Decidable (_ = _))

def ClaimedBy (claimantId : String) (record : OperationRecord) : Prop :=
  ∃ claim, record.slices.executionClaim = some claim ∧ claim.claimantId = claimantId

theorem ClaimedBy.unique {claimantId' : String} (first : ClaimedBy claimantId record)
    (second : ClaimedBy claimantId' record) : claimantId = claimantId' := by
  obtain ⟨claim, holds, rfl⟩ := first
  obtain ⟨claim', holds', rfl⟩ := second
  rw [holds, Option.some.injEq] at holds'
  rw [holds']

/-- What a claim asks, and what it holds then. -/
inductive ClaimMove (operationId claimantId : String) :
    CallState → (op : ControllerOp) → op.Answer → CallState → Prop
  | loaded (record : OperationRecord) :
      ClaimMove operationId claimantId .idle (.load operationId) (some record) (.holding record)
  | missing : ClaimMove operationId claimantId .idle (.load operationId) none .idle
  | claimed {record : OperationRecord} (claim : ExecutionClaim)
      (unclaimed : record.slices.executionClaim = none) (mine : claim.claimantId = claimantId) :
      ClaimMove operationId claimantId (.holding record) (.save (record.claimed claim)) ()
        (.holding (record.claimed claim))
  | append (k : CallState) (operation : String) (state : OperationState) (eventType : String)
      (payload : Dict) :
      ClaimMove operationId claimantId k (.append operation state eventType payload) () k

def claimProtocol (operationId claimantId : String) : Protocol controllerSignature CallState :=
  ⟨ClaimMove operationId claimantId, fun _ => True⟩

def HoldsReported (claimantId : String) (k : CallState) (result : OperationControllerResult) : Prop :=
  Granted result → ∃ record, k = .holding record ∧ ClaimedBy claimantId record

theorem holdsReported_error {k : CallState} {state : OperationState} {text : String} {more : Dict}
    (quiet : get? more "claimed" = none) :
    HoldsReported claimantId k ⟨operationId, state, errorDetail text ++ more⟩ := by
  intro granted
  unfold Granted errorDetail at granted
  rw [List.singleton_append, get?, if_neg (by decide), quiet] at granted
  cases granted

theorem claimRecord_claims (suspensionId callId argumentDigest : String) :
    Follows (claimProtocol operationId claimantId) (.holding record)
      (claimRecord c record claimantId suspensionId callId argumentDigest)
      (HoldsReported claimantId) := by
  unfold claimRecord
  split
  · exact holdsReported_error rfl
  · cases iterate (record.slices.pendingCalls.getD (.arr [])) with
    | error error => trivial
    | ok calls =>
      rw [Program.ofExcept_ok, Program.done_bind]
      cases matchingCall callId calls with
      | error error => trivial
      | ok call =>
        rw [Program.ofExcept_ok, Program.done_bind]
        cases call with
        | none => exact holdsReported_error rfl
        | some call =>
          dsimp only
          split
          · exact holdsReported_error rfl
          · cases held : record.slices.executionClaim with
            | some claim =>
              dsimp only
              split
              · rename_i mine
                exact fun _ => ⟨record, rfl, claim, held, mine⟩
              · exact holdsReported_error rfl
            | none =>
              refine fun _ => ⟨_, .claimed ⟨claimantId, callId, suspensionId, argumentDigest⟩ held rfl, ?_⟩
              refine follows_emit_of (ClaimMove.append _) ?_
              exact fun _ => ⟨_, rfl, _, rfl, rfl⟩

/-- **A claim follows its protocol**, and reports no claim but one it holds. -/
theorem claimToolExecution_claims (request : ClaimRequest) :
    Follows (claimProtocol operationId request.claimantId) .idle (request.call c operationId)
      (HoldsReported request.claimantId) := by
  intro answer
  cases answer with
  | none => exact ⟨.idle, .missing, holdsReported_error rfl⟩
  | some record =>
    refine ⟨.holding record, .loaded record, ?_⟩
    show Follows _ _ (if record.state ≠ .suspendedForToolResult then _ else _) _
    split
    · exact holdsReported_error rfl
    · exact claimRecord_claims _ _ _

/-! ### What the claims know of each other -/

def IsLoad : Event controllerSignature → Prop
  | ⟨.load _, _⟩ => True
  | _ => False

def IsSave : Event controllerSignature → Prop
  | ⟨.save _, _⟩ => True
  | _ => False

instance : DecidablePred IsLoad
  | ⟨.load _, _⟩ => .isTrue trivial
  | ⟨.save _, _⟩ | ⟨.append _ _ _ _, _⟩ | ⟨.createPlan _ _, _⟩ | ⟨.resumePlan _ _, _⟩
  | ⟨.review _ _ _, _⟩ | ⟨.fulfil _ _ _, _⟩ | ⟨.execute _ _ _, _⟩ | ⟨.resumeExecution _ _, _⟩
  | ⟨.chatTurn _ _ _, _⟩ | ⟨.tokenHex _, _⟩ | ⟨.uuid4Hex, _⟩ => .isFalse id

instance : DecidablePred IsSave
  | ⟨.save _, _⟩ => .isTrue trivial
  | ⟨.load _, _⟩ | ⟨.append _ _ _ _, _⟩ | ⟨.createPlan _ _, _⟩ | ⟨.resumePlan _ _, _⟩
  | ⟨.review _ _ _, _⟩ | ⟨.fulfil _ _ _, _⟩ | ⟨.execute _ _ _, _⟩ | ⟨.resumeExecution _ _, _⟩
  | ⟨.chatTurn _ _ _, _⟩ | ⟨.tokenHex _, _⟩ | ⟨.uuid4Hex, _⟩ => .isFalse id

/-- A claim of another claimant was saved since the call loaded the record. -/
def Raced (requests : Nat → ClaimRequest) (thread : Nat) :
    List (Turn controllerSignature) → Prop :=
  Overtaken IsLoad (fun turn => IsSave turn.event ∧
    (requests turn.thread).claimantId ≠ (requests thread).claimantId) thread

def Unraced (requests : Nat → ClaimRequest) (older : List (Turn controllerSignature))
    (turn : Turn controllerSignature) : Prop :=
  IsSave turn.event → ¬ Raced requests turn.thread older

instance (requests : Nat → ClaimRequest) (older : List (Turn controllerSignature))
    (turn : Turn controllerSignature) : Decidable (Unraced requests older turn) :=
  inferInstanceAs (Decidable (_ → ¬ Overtaken _ _ turn.thread older))

variable {requests : Nat → ClaimRequest} {turns : List (Turn controllerSignature)}
  {thread other : Nat} {k : CallState}

/-- What a call knows of the stored record. -/
structure Agrees (base : Log) (operationId : String) (requests : Nat → ClaimRequest)
    (turns : List (Turn controllerSignature)) (thread : Nat) (record kept : OperationRecord) :
    Prop where
  operation : record.operationId = operationId
  present : stored (logOf base turns) operationId = some kept
  claimed : ∀ claimantId, ClaimedBy claimantId record → ClaimedBy claimantId kept
  unclaimed : record.slices.executionClaim = none → Raced requests thread turns ∨
    kept.slices.executionClaim = none ∨ ClaimedBy (requests thread).claimantId kept

theorem Agrees.of_reads (agrees : Agrees base operationId requests turns thread record kept)
    {op : ControllerOp} (reads : op.Reads) (answer : op.Answer)
    (blind : other = thread → ¬ IsLoad ⟨op, answer⟩) :
    Agrees base operationId requests (⟨other, op, answer⟩ :: turns) thread record kept where
  operation := agrees.operation
  present := by
    rw [logOf_cons, stored_of_reads reads]
    exact agrees.present
  claimed := agrees.claimed
  unclaimed := by
    intro none
    refine (agrees.unclaimed none).imp (fun raced => ?_) id
    by_cases same : other = thread
    · exact (overtaken_own_iff same (blind same)).mpr raced
    · exact (overtaken_other_iff same).mpr (Or.inr raced)

theorem agrees_saved {next : OperationRecord} (operation : next.operationId = operationId)
    (claimed : ClaimedBy claimantId next) :
    Agrees base operationId requests (⟨thread, ControllerOp.save next, ()⟩ :: turns) thread next next where
  operation := operation
  present := by
    rw [logOf_cons, ← operation]
    exact stored_save_self _ _ _
  claimed := fun _ same => same
  unclaimed := by
    obtain ⟨claim, holds, _⟩ := claimed
    intro none
    rw [holds] at none
    cases none

/-- **A save that no rival raced leaves the knowledge of the others.** -/
theorem Agrees.of_saved (agrees : Agrees base operationId requests turns thread record kept)
    {next : OperationRecord} (operation : next.operationId = operationId)
    (claimed : ClaimedBy (requests other).claimantId next)
    (free : kept.slices.executionClaim = none ∨ ClaimedBy (requests other).claimantId kept)
    (different : other ≠ thread) :
    Agrees base operationId requests (⟨other, ControllerOp.save next, ()⟩ :: turns) thread record
      next where
  operation := agrees.operation
  present := by
    rw [logOf_cons, ← operation]
    exact stored_save_self _ _ _
  claimed := by
    intro claimantId holds
    have held := agrees.claimed claimantId holds
    rcases free with none | mine
    · obtain ⟨claim, some, _⟩ := held
      rw [none] at some
      cases some
    · rwa [held.unique mine]
  unclaimed := by
    intro _
    by_cases same : (requests other).claimantId = (requests thread).claimantId
    · exact Or.inr (Or.inr (same ▸ claimed))
    · exact Or.inl ((overtaken_other_iff different).mpr (Or.inl ⟨trivial, same⟩))

def AllAgree (base : Log) (operationId : String) (requests : Nat → ClaimRequest)
    (turns : List (Turn controllerSignature)) (states : Nat → CallState) : Prop :=
  ∀ thread record, states thread = .holding record →
    ∃ kept, Agrees base operationId requests turns thread record kept

/-- **Every move of every claim preserves the agreement**, where its saves are unraced. -/
theorem AllAgree.step {states : Nat → CallState} {op : ControllerOp} {answer : op.Answer}
    {k' : CallState} (agree : AllAgree base operationId requests turns states)
    (answered : answersAs (logOf base turns) op answer)
    (unraced : Unraced requests turns ⟨thread, op, answer⟩)
    (move : ClaimMove operationId (requests thread).claimantId (states thread) op answer k') :
    AllAgree base operationId requests (⟨thread, op, answer⟩ :: turns)
      (Function.update states thread k') := by
  intro reader record holding
  by_cases same : reader = thread
  · subst same
    rw [Function.update_self] at holding
    subst holding
    generalize at_ : states reader = k at move
    cases move with
    | loaded record =>
      have found : stored (logOf base turns) operationId = some record := Eq.symm answered
      refine ⟨record, stored_operationId found, ?_, fun _ same => same, fun none => Or.inr (Or.inl none)⟩
      rw [logOf_cons, stored_of_reads (by trivial)]
      exact found
    | claimed claim unclaimed mine =>
      obtain ⟨kept, known⟩ := agree reader _ at_
      exact ⟨_, agrees_saved known.operation ⟨claim, rfl, mine⟩⟩
    | append =>
      obtain ⟨kept, known⟩ := agree reader _ at_
      exact ⟨kept, known.of_reads (by trivial) _ fun _ looks => looks⟩
  · rw [Function.update_of_ne same] at holding
    obtain ⟨kept, known⟩ := agree reader record holding
    have different : thread ≠ reader := fun equal => same equal.symm
    generalize at_ : states thread = k at move
    cases move with
    | claimed claim unclaimed mine =>
      obtain ⟨stored, saver⟩ := agree thread _ at_
      have one : stored = kept := Option.some.inj (saver.present.symm.trans known.present)
      subst one
      refine ⟨_, known.of_saved saver.operation ⟨claim, rfl, mine⟩ ?_ different⟩
      exact (saver.unclaimed unclaimed).resolve_left (unraced trivial)
    | _ => exact ⟨kept, known.of_reads (by trivial) _ fun equal => absurd equal different⟩

/-- **At most one claimant**: in every interleaving of the loads and saves of any number of claims of
one operation, where no claim is saved after a rival was since its load, all the calls that report
the claim have one claimant. -/
theorem one_claimant {threads : Nat → Ctl OperationControllerResult}
    (run : Interleaving answersAs base (fun thread => (requests thread).call c operationId) threads
      turns)
    (unraced : Always (Unraced requests) turns) {first second : Nat}
    {result result' : OperationControllerResult} (reported : threads first = .done result)
    (granted : Granted result) (reported' : threads second = .done result')
    (granted' : Granted result') :
    (requests first).claimantId = (requests second).claimantId := by
  obtain ⟨states, simulated, agree⟩ := run.invariant
    (fun turns states => Always (Unraced requests) turns →
      AllAgree base operationId requests turns states)
    (fun thread => claimToolExecution_claims (requests thread))
    (fun _ _ _ holding => by cases holding)
    (fun _ _ _ _ _ _ agree answered move unraced =>
      (agree unraced.2).step answered unraced.1 move)
  have known : ∀ {thread result}, threads thread = .done result → Granted result →
      ∃ kept, stored (logOf base turns) operationId = some kept ∧
        ClaimedBy (requests thread).claimantId kept := by
    intro thread result ended granted
    have holds := simulated thread
    rw [ended] at holds
    obtain ⟨record, holding, claimed⟩ := holds granted
    obtain ⟨kept, agrees⟩ := agree unraced thread record holding
    exact ⟨kept, agrees.present, agrees.claimed _ claimed⟩
  obtain ⟨kept, present, mine⟩ := known reported granted
  obtain ⟨kept', present', theirs⟩ := known reported' granted'
  rw [present, Option.some.injEq] at present'
  subst present'
  exact mine.unique theirs

/-! ### Two browser tabs -/

/-- The claims of two tabs for the pending call of `pendingTask`; `tab-2` may ask any number of
times. -/
def tabs (thread : Nat) : ClaimRequest :=
  ⟨if thread = 0 then "tab-1" else "tab-2", "susp-1", "call-1", ""⟩

@[irreducible] def tabTurns (schedule : List Nat) :
    (Nat → Ctl OperationControllerResult) × List (Turn controllerSignature) :=
  interleave pendingTask (schedule.map fun thread => (thread, []))
    (fun thread => (tabs thread).call .complete "op-1") []

theorem tabTurns_interleaving (schedule : List Nat) :
    Interleaving answersAs pendingTask (fun thread => (tabs thread).call .complete "op-1")
      (tabTurns schedule).1 (tabTurns schedule).2 := by
  unfold tabTurns
  exact interleave_interleaving _ _ _ .start

def Program.result? {α : Type} : Ctl α → Option α
  | .done value => some value
  | _ => none

theorem done_of_any {α : Type} {p : Ctl α} {P : α → Prop} [DecidablePred P]
    (holds : (Program.result? p).any (fun result => P result) = true) :
    ∃ result, p = .done result ∧ P result := by
  cases p with
  | done result => exact ⟨result, rfl, of_decide_eq_true holds⟩
  | _ => cases holds

theorem tabs_one_claimant : ∃ result result',
    (tabTurns [1, 1, 1, 1, 2, 2, 2, 2]).1 1 = .done result ∧ Granted result ∧
      (tabTurns [1, 1, 1, 1, 2, 2, 2, 2]).1 2 = .done result' ∧ Granted result' ∧
        (tabs 1).claimantId = (tabs 2).claimantId := by
  obtain ⟨result, reported, granted⟩ : ∃ result,
      (tabTurns [1, 1, 1, 1, 2, 2, 2, 2]).1 1 = .done result ∧ Granted result :=
    done_of_any (by decide +kernel)
  obtain ⟨result', reported', granted'⟩ : ∃ result,
      (tabTurns [1, 1, 1, 1, 2, 2, 2, 2]).1 2 = .done result ∧ Granted result :=
    done_of_any (by decide +kernel)
  exact ⟨result, result', reported, granted, reported', granted',
    one_claimant (tabTurns_interleaving [1, 1, 1, 1, 2, 2, 2, 2]) (by decide +kernel) reported
      granted reported' granted'⟩

theorem tabs_two_claimants :
    ¬ ∀ (c : OperationController) (base : Log) (operationId : String)
      (requests : Nat → ClaimRequest) (threads : Nat → Ctl OperationControllerResult)
      (turns : List (Turn controllerSignature)), Reachable c base →
      Interleaving answersAs base (fun thread => (requests thread).call c operationId) threads turns →
      ∀ first second result result', threads first = .done result → Granted result →
        threads second = .done result' → Granted result' →
        (requests first).claimantId = (requests second).claimantId := by
  intro every
  obtain ⟨result, reported, granted⟩ : ∃ result,
      (tabTurns [0, 1, 0, 1, 0, 0, 1, 1]).1 0 = .done result ∧ Granted result :=
    done_of_any (by decide +kernel)
  obtain ⟨result', reported', granted'⟩ : ∃ result,
      (tabTurns [0, 1, 0, 1, 0, 0, 1, 1]).1 1 = .done result ∧ Granted result :=
    done_of_any (by decide +kernel)
  have same := every _ _ _ _ _ _ pendingTask_reachable
    (tabTurns_interleaving [0, 1, 0, 1, 0, 0, 1, 1]) 0 1 result result' reported granted reported'
    granted'
  exact absurd same (by decide)

end Audisor.Controller
