/-
**How long a round of review and fulfilment is.**

* `reviews` — the reviews a journal has. `Request.BeginsRound` — a call of `start` or `retry_aflow`.
* `RoundsBounded` — one number bounds the reviews of every such call, whatever the adapters answer and
  however deep the interpreter's stack is.
* `stubborn_round` — where the review always finds a gap and fulfilment always resolves it, a call
  reviews until the stack is exhausted.
* **`roundsBounded_iff`** — the rounds of a controller are bounded exactly when it lacks the review or
  the fulfilment adapter.

The two methods keep no count of their rounds: `round_le_depth` is the bound that the interpreter's
stack gives, and a call that reaches it raises.
-/

import Audisor.Controller.Rounds
import Audisor.Controller.Runs

namespace Audisor.Controller

open Interaction Json

variable {c : OperationController} {counted : Option String → Prop} {credit : Nat}
  {record : OperationRecord} {log log' : Log}

/-! ### Reviews -/

instance [DecidablePred counted] : DecidablePred (ControllerOp.Reviews counted)
  | .review _ _ providerOverride => inferInstanceAs (Decidable (counted providerOverride))
  | .load _ | .save _ | .append _ _ _ _ | .createPlan _ _ | .resumePlan _ _ | .fulfil _ _ _
  | .execute _ _ _ | .resumeExecution _ _ | .chatTurn _ _ _ | .tokenHex _ | .uuid4Hex => .isFalse id

/-- A review, with an override or without. -/
abbrev AnyReview : Option String → Prop := fun _ => True

/-- How many reviews a journal has. -/
abbrev reviews (log : Log) : Nat := asked (ControllerOp.Reviews AnyReview) log

theorem reviews_review (plan : Json) (operationId : String) (providerOverride : Option String)
    (answer : AdapterAnswer) (log : Log) :
    reviews (⟨ControllerOp.review plan operationId providerOverride, answer⟩ :: log) =
      reviews log + 1 := by
  rw [reviews, asked_cons]
  exact congrArg (reviews log + ·) (if_pos trivial)

theorem reviews_other {op : ControllerOp} (other : ¬ op.Reviews AnyReview) (answer : op.Answer)
    (log : Log) : reviews ((⟨op, answer⟩ : Event controllerSignature) :: log) = reviews log := by
  rw [reviews, asked_cons, if_neg other, Nat.add_zero]

/-- A call of `start` or `retry_aflow`. -/
def Request.BeginsRound : Request → Prop
  | .start _ _ _ | .retryAflow _ _ _ _ => True
  | _ => False

def OperationController.onStack (c : OperationController) (depth : Nat) : OperationController :=
  { c with recursionLimit := depth }

def RoundsBounded (c : OperationController) : Prop :=
  ∃ bound, ∀ (depth : Nat) (log log' : Log) (request : Request)
    (p : Ctl OperationControllerResult), Reachable (c.onStack depth) log → request.BeginsRound →
    Exec world log ((c.onStack depth).handle request) log' p → reviews log' ≤ reviews log + bound

/-! ### What a round spends -/

/-- The credits that are enough for a program, wherever it ends. -/
abbrev Spends (counted : Option String → Prop) (credit : Nat)
    (p : Ctl OperationControllerResult) : Prop :=
  Follows (credits (ControllerOp.Reviews counted)) credit p fun _ _ => True

theorem spends_of_rounds {p : Ctl OperationControllerResult}
    (follows : Follows (rounds counted) ⟨record, credit⟩ p Unnamed) : Spends counted credit p := by
  let spending : Protocol controllerSignature Nat := credits (ControllerOp.Reviews counted)
  have pays : ∀ (held : Held) (op : ControllerOp) (answer : op.Answer) (held' : Held) (left : Nat),
      (rounds counted).Move held op answer held' → held.credit = left →
      ∃ left', spending.Move left op answer left' ∧ held'.credit = left' := by
    rintro held op _ held' _ ⟨_, _, paid⟩ rfl
    exact ⟨held'.credit, paid, rfl⟩
  have rests : ∀ (held : Held) (left : Nat), (rounds counted).Rest held → held.credit = left →
      spending.Rest left := fun _ _ _ _ => trivial
  exact (Follows.lift pays rests follows rfl).mono fun _ _ _ => trivial

theorem spends_moveTo {target : OperationState} {reason : String}
    {rest : OperationRecord → Ctl OperationControllerResult}
    (further : Spends counted credit (rest (record.moved target reason))) :
    Spends counted credit (moveTo record target reason >>= rest) := by
  unfold moveTo
  rcases record.transition_cases target reason with ⟨_, done⟩ | ⟨_, message, failed⟩
  · rw [done]
    exact further
  · rw [failed]
    trivial

theorem spends_save {next : OperationRecord} {rest : Unit → Ctl OperationControllerResult}
    (further : Spends counted credit (rest ())) : Spends counted credit (save next >>= rest) :=
  follows_uncounted id fun _ => further

theorem spends_load {operationId : String}
    {rest : Option OperationRecord → Ctl OperationControllerResult}
    (further : ∀ loaded, Spends counted credit (rest loaded)) :
    Spends counted credit (load operationId >>= rest) :=
  follows_uncounted id further

theorem spends_emit {eventType : String} {payload : Dict}
    {rest : Unit → Ctl OperationControllerResult} (further : Spends counted credit (rest ())) :
    Spends counted credit (emit c record eventType payload >>= rest) :=
  follows_emit_of (P := credits _) (fun _ _ _ _ => Or.inr ⟨id, rfl⟩) further

theorem spends_ofExcept {α : Type} {outcome : Except PyError α}
    {rest : α → Ctl OperationControllerResult}
    (further : ∀ value, Spends counted credit (rest value)) :
    Spends counted credit (Program.ofExcept outcome >>= rest) := by
  cases outcome with
  | ok value => exact further value
  | error error => trivial

/-- Credits that are enough for the review of any settled record. -/
def EnoughFor (c : OperationController) (counted : Option String → Prop) (credit : Nat) : Prop :=
  ∀ (record : OperationRecord) (plan : Json) (context : Dict) (providerOverride : Option String),
    Settled record →
    Spends counted credit (doReview c c.recursionLimit record plan context providerOverride)

theorem doPlanning_spends (enough : EnoughFor c counted credit) (prompt : String) (context : Dict) :
    Spends counted credit (doPlanning c (record.moved .planning "task_accepted") prompt context) := by
  have planning : Settled (record.moved .planning "task_accepted") := settled_moved (by decide)
  unfold doPlanning
  split
  · trivial
  · refine follows_uncounted id fun answer => spends_ofExcept fun result => ?_
    split
    · exact spends_of_rounds (handleAdapterResult_rounds planning)
    · unfold advancePlan
      simp only [bind_assoc]
      refine spends_moveTo (spends_save (spends_moveTo (spends_save ?_)))
      exact enough _ _ _ _ (settled_moved (by decide))

theorem doChat_spends (context : Dict) : Spends counted credit (doChat c record context) := by
  unfold doChat
  split
  · trivial
  · refine spends_moveTo (spends_save (spends_emit ?_))
    refine follows_uncounted id fun answer => spends_ofExcept fun result => ?_
    dsimp only
    split
    · exact spends_moveTo (spends_save trivial)
    · exact spends_moveTo (spends_save (spends_emit trivial))

theorem startRecord_spends (enough : EnoughFor c counted credit) (plan : Option Dict)
    (context : Dict) : Spends counted credit (startRecord c record plan context) := by
  have reviewing : Settled (record.moved .reviewing "prepared_plan_submitted") :=
    settled_moved (by decide)
  unfold startRecord
  split
  · exact spends_moveTo (spends_save (enough _ _ _ _ reviewing))
  · exact spends_moveTo (spends_save (spends_emit (doPlanning_spends enough _ _)))
  · refine spends_moveTo (spends_save ?_)
    split
    · exact enough _ _ _ _ (settled_moved (by decide))
    · trivial
  · exact doChat_spends context
  · trivial

theorem retryRecord_spends (enough : EnoughFor c counted credit) (operationVersion : Int)
    (idempotencyKey provider : String) :
    Spends counted credit (retryRecord c record operationVersion idempotencyKey provider) := by
  unfold retryRecord
  dsimp only
  split
  · trivial
  · split
    · trivial
    · trivial
    · refine spends_ofExcept fun plan => spends_moveTo (spends_save ?_)
      refine Follows.bind ((enough _ _ _ _ (settled_moved (by decide))).mono fun left _ _ => ?_)
      exact spends_load fun _ => spends_save trivial

/-- **The credits for one review are enough for a round.** -/
theorem round_spends (enough : EnoughFor c counted credit) {request : Request}
    (begins : request.BeginsRound) : Spends counted credit (c.handle request) := by
  cases request with
  | start operationId plan context =>
    refine spends_load fun loaded => ?_
    cases loaded with
    | none => trivial
    | some record =>
      dsimp only
      split
      · trivial
      · exact startRecord_spends enough plan _
  | retryAflow operationId operationVersion idempotencyKey provider =>
    refine spends_load fun loaded => ?_
    cases loaded with
    | none => trivial
    | some record =>
      dsimp only
      split
      · exact spends_ofExcept fun _ => trivial
      · split
        · trivial
        · exact retryRecord_spends enough operationVersion idempotencyKey provider
  | _ => exact begins.elim

theorem doReview_unattached (unattached : c.hasReview = false) (depth : Nat) {plan : Json}
    {context : Dict} {providerOverride : Option String} :
    Spends counted credit (doReview c depth record plan context providerOverride) := by
  cases depth with
  | zero => trivial
  | succ depth =>
    unfold doReview
    rw [unattached]
    trivial

/-! ### Rounds without an end -/

/-- The answers of a review that finds a gap, and of a fulfilment that resolves it. -/
def gapFound : Dict := [("decision", .str "material_gap_found")]

def allResolved : Dict := [("all_resolved", .bool true)]

section Steps

variable {p : Ctl OperationControllerResult}

theorem exec_save {next : OperationRecord} {rest : Unit → Ctl OperationControllerResult}
    (run : Exec world (⟨ControllerOp.save next, ()⟩ :: log) (rest ()) log' p) :
    Exec world log (save next >>= rest) log' p :=
  .ask () trivial run

theorem exec_review {plan : Json} {operationId : String} {providerOverride : Option String}
    (result : Dict) {rest : Dict → Ctl OperationControllerResult}
    (run : Exec world (⟨ControllerOp.review plan operationId providerOverride, .ok result⟩ :: log)
      (rest result) log' p) :
    Exec world log (review plan operationId providerOverride >>= rest) log' p :=
  .ask (.ok result) trivial run

theorem exec_fulfil {findings plan : Json} {context : Dict} (result : Dict)
    {rest : Dict → Ctl OperationControllerResult}
    (run : Exec world (⟨ControllerOp.fulfil findings plan context, .ok result⟩ :: log)
      (rest result) log' p) :
    Exec world log (fulfil findings plan context >>= rest) log' p :=
  .ask (.ok result) trivial run

theorem exec_moveTo {target : OperationState} {reason : String} (allowed : record.Allows target)
    {rest : OperationRecord → Ctl OperationControllerResult}
    (run : Exec world log (rest (record.moved target reason)) log' p) :
    Exec world log (moveTo record target reason >>= rest) log' p := by
  rw [moveTo, OperationRecord.transition_of_allows allowed]
  exact run

end Steps

/-- **Stubborn adapters keep a round going until the stack is exhausted.** -/
theorem stubborn_round (review : c.hasReview = true) (fulfilment : c.hasFulfilment = true)
    (depth : Nat) : ∀ {record : OperationRecord} {plan : Json} {context : Dict}
      {providerOverride : Option String} {log : Log}, record.state = .reviewing →
      ∃ log', Exec world log (doReview c depth record plan context providerOverride) log'
          (.raise .recursionError) ∧ reviews log' = reviews log + depth := by
  induction depth with
  | zero => exact fun _ => ⟨_, .refl _ _, rfl⟩
  | succ depth ih =>
    intro record plan context providerOverride log reviewing
    have gap : record.Allows .fulfilling := OperationRecord.allows_of_state reviewing (by decide)
    have fulfilling : (record.moved .fulfilling "material_gap_found").state = .fulfilling := rfl
    have resolved : (record.moved .fulfilling "material_gap_found").Allows .reviewing :=
      OperationRecord.allows_of_state fulfilling (by decide)
    obtain ⟨log', again, counted⟩ := @ih
      ((record.moved .fulfilling "material_gap_found").moved .reviewing "fulfilment_complete") plan
      context none
      (⟨ControllerOp.save ((record.moved .fulfilling "material_gap_found").moved .reviewing
          "fulfilment_complete"), ()⟩ :: ⟨ControllerOp.fulfil (.arr []) plan context, .ok allResolved⟩ ::
        ⟨ControllerOp.save (record.moved .fulfilling "material_gap_found"), ()⟩ ::
        ⟨ControllerOp.review plan record.operationId providerOverride, .ok gapFound⟩ :: log) rfl
    refine ⟨log', ?_, ?_⟩
    · unfold doReview
      rw [review]
      refine exec_review gapFound ?_
      dsimp only
      rw [if_neg (by decide), if_pos (by decide)]
      refine exec_moveTo gap (exec_save ?_)
      unfold doFulfilment
      rw [fulfilment]
      refine exec_fulfil allResolved ?_
      rw [if_pos (by decide)]
      exact exec_moveTo resolved (exec_save again)
    · rw [counted, reviews_other id, reviews_other id, reviews_other id, reviews_review]
      omega

def registeredFix : Log := [⟨ControllerOp.save (registeredRecord "op-1" "fix" ""), ()⟩]

def fixPlan : Dict := [("goal", .str "auth")]

theorem registeredFix_reachable (review : c.hasReview = true) : Reachable c registeredFix := by
  have run : ∃ p, Exec world [] (c.handle (.register "fix" "" (some "op-1"))) registeredFix p := by
    show ∃ p, Exec world [] (register c "fix" "" (some "op-1")) registeredFix p
    unfold register
    rw [if_neg (by simp [missingAdapters, review])]
    exact ⟨_, exec_save (.refl _ _)⟩
  obtain ⟨p, run⟩ := run
  exact .call _ .empty run

theorem startedFix_exhausts (review : c.hasReview = true) (fulfilment : c.hasFulfilment = true) :
    ∃ log', Exec world registeredFix (c.handle (.start "op-1" (some fixPlan) none)) log'
        (.raise .recursionError) ∧ reviews log' = c.recursionLimit := by
  have received : (registeredRecord "op-1" "fix" "").state = .received := rfl
  have accepted : (registeredRecord "op-1" "fix" "").Allows .reviewing :=
    OperationRecord.allows_of_state received (by decide)
  obtain ⟨log', run, count⟩ := @stubborn_round c review fulfilment c.recursionLimit
    ((registeredRecord "op-1" "fix" "").moved .reviewing "fix_accepted") (.obj fixPlan) [] none
    (⟨ControllerOp.save ((registeredRecord "op-1" "fix" "").moved .reviewing "fix_accepted"), ()⟩ ::
      ⟨ControllerOp.load "op-1", some (registeredRecord "op-1" "fix" "")⟩ :: registeredFix) rfl
  refine ⟨log', .ask (some (registeredRecord "op-1" "fix" "")) rfl ?_, ?_⟩
  · show Exec world _ (startRecord c (registeredRecord "op-1" "fix" "") (some fixPlan) []) log' _
    unfold startRecord
    exact exec_moveTo accepted (exec_save run)
  · rw [count, reviews_other id, reviews_other id]
    exact Nat.zero_add _

/-- **Rounds are bounded exactly without one of the two adapters**: one number bounds the reviews of
every call of `start` and `retry_aflow`, for all answers of the adapters, if and only if the controller
has no review adapter or no fulfilment adapter. -/
theorem roundsBounded_iff :
    RoundsBounded c ↔ ¬ (c.hasReview = true ∧ c.hasFulfilment = true) := by
  constructor
  · rintro ⟨bound, bounded⟩ ⟨review, fulfilment⟩
    obtain ⟨log', run, count⟩ := startedFix_exhausts (c := c.onStack (bound + 1)) review fulfilment
    have within := bounded (bound + 1) _ _ (.start "op-1" (some fixPlan) none) _
      (registeredFix_reachable review) trivial run
    have many : reviews log' = bound + 1 := count
    rw [many] at within
    have none : reviews registeredFix = 0 := rfl
    omega
  · intro lacking
    refine ⟨1, fun depth log log' request p _ begins run => ?_⟩
    refine (round_spends (fun record plan context providerOverride settled => ?_) begins).asked_le run
    by_cases review : c.hasReview = true
    · refine spends_of_rounds (doReview_once (fun fulfilment => ?_) _ settled)
      exact absurd ⟨review, fulfilment⟩ lacking
    · have unattached : c.hasReview = false := by simpa using review
      exact doReview_unattached (c := c.onStack depth) unattached _

theorem complete_rounds_unbounded : ¬ ∀ c : OperationController, RoundsBounded c := by
  intro every
  obtain ⟨bound, bounded⟩ := every .complete
  obtain ⟨log', run, count⟩ := startedFix_exhausts
    (c := OperationController.complete.onStack (bound + 1)) rfl rfl
  have within := bounded (bound + 1) _ _ (.start "op-1" (some fixPlan) none) _
    (registeredFix_reachable rfl) trivial run
  have many : reviews log' = bound + 1 := count
  have none : reviews registeredFix = 0 := rfl
  omega

end Audisor.Controller
