/-
**Rounds of review and fulfilment.**

* `Held` — the record a call holds, and how many counted reviews it may still ask for.
* `rounds counted` — the machine of the phases from a review on: each save keeps the operation and its
  recorded retries (`Continues`), each counted review takes a credit, and the call may raise only
  while the record it holds is not suspended (`Settled`).
* One lemma for each phase; **`doReview_rounds`** — a review that begins with credits for itself and
  for those that fulfilment leads to, follows the machine.
* `doReview_asks_once`, `doReview_asks_depth` — without a fulfilment adapter one credit is enough, and
  always as many as the interpreter's stack is deep.
-/

import Audisor.Controller.Simulation
import Audisor.Interaction.Tallies

namespace Audisor.Controller

open Interaction Json

variable {c : OperationController} {counted : Option String → Prop} {credit : Nat}
  {record next : OperationRecord} {α β : Type}

/-! ### The machine -/

def ControllerOp.Reviews (counted : Option String → Prop) : ControllerOp → Prop
  | review _ _ providerOverride => counted providerOverride
  | _ => False

/-- The same operation later on, with the same recorded retries. -/
structure Continues (record next : OperationRecord) : Prop where
  operationId : next.operationId = record.operationId
  retries : next.artifacts.aflowRetry = record.artifacts.aflowRetry
  started : record.state ≠ .received → next.state ≠ .received

def Settled (record : OperationRecord) : Prop := record.state ∉ suspendedStates

/-- The record a call holds, and the counted reviews it may still ask for. -/
structure Held where
  record : OperationRecord
  credit : Nat

def ControllerOp.leaves : ControllerOp → OperationRecord → OperationRecord
  | save next, _ => next
  | _, record => record

def rounds (counted : Option String → Prop) : Protocol controllerSignature Held where
  Move held op _ held' :=
    held'.record = op.leaves held.record ∧ Continues held.record held'.record ∧
      ((op.Reviews counted ∧ held.credit = held'.credit + 1) ∨
        (¬ op.Reviews counted ∧ held.credit = held'.credit))
  Rest held := Settled held.record

theorem Continues.refl (record : OperationRecord) : Continues record record := ⟨rfl, rfl, id⟩

theorem Continues.trans {third : OperationRecord} (first : Continues record next)
    (second : Continues next third) : Continues record third where
  operationId := second.operationId.trans first.operationId
  retries := second.retries.trans first.retries
  started := fun started => second.started (first.started started)

/-! ### Rules of the questions -/

section Rules

variable {Q : Held → β → Prop}

theorem rounds_save {rest : Unit → Ctl β} (keeps : Continues record next)
    (further : Follows (rounds counted) ⟨next, credit⟩ (rest ()) Q) :
    Follows (rounds counted) ⟨record, credit⟩ (save next >>= rest) Q :=
  fun _ => ⟨⟨next, credit⟩, ⟨rfl, keeps, Or.inr ⟨id, rfl⟩⟩, further⟩

theorem rounds_emit {held : Held} {eventType : String} {payload : Dict} {rest : Unit → Ctl β}
    (further : Follows (rounds counted) held (rest ()) Q) :
    Follows (rounds counted) held (emit c record eventType payload >>= rest) Q :=
  follows_emit_of (P := rounds counted) (fun _ _ _ _ => ⟨rfl, .refl _, Or.inr ⟨id, rfl⟩⟩) further

theorem rounds_moveTo {held : Held} (settled : Settled held.record) {target : OperationState}
    {reason : String} {rest : OperationRecord → Ctl β}
    (further : Follows (rounds counted) held (rest (record.moved target reason)) Q) :
    Follows (rounds counted) held (moveTo record target reason >>= rest) Q := by
  unfold moveTo
  rcases record.transition_cases target reason with ⟨_, done⟩ | ⟨_, message, failed⟩
  · rw [done]
    exact further
  · rw [failed]
    exact settled

theorem rounds_ofExcept {held : Held} (settled : Settled held.record)
    {outcome : Except PyError α} {rest : α → Ctl β}
    (further : ∀ value, Follows (rounds counted) held (rest value) Q) :
    Follows (rounds counted) held (Program.ofExcept outcome >>= rest) Q := by
  cases outcome with
  | ok value => exact further value
  | error error => exact settled

theorem rounds_fulfil {held : Held} (settled : Settled held.record) {findings plan : Json}
    {context : Dict} {rest : Dict → Ctl β}
    (further : ∀ result, Follows (rounds counted) held (rest result) Q) :
    Follows (rounds counted) held (fulfil findings plan context >>= rest) Q :=
  fun _ => ⟨held, ⟨rfl, .refl _, Or.inr ⟨id, rfl⟩⟩, rounds_ofExcept settled further⟩

theorem rounds_execute {held : Held} (settled : Settled held.record) {operationId : String}
    {plan : Json} {context : Dict} {rest : Dict → Ctl β}
    (further : ∀ result, Follows (rounds counted) held (rest result) Q) :
    Follows (rounds counted) held (execute operationId plan context >>= rest) Q :=
  fun _ => ⟨held, ⟨rfl, .refl _, Or.inr ⟨id, rfl⟩⟩, rounds_ofExcept settled further⟩

theorem rounds_review_counted (settled : Settled record) {plan : Json} {operationId : String}
    {providerOverride : Option String} {rest : Dict → Ctl β} (counts : counted providerOverride)
    (further : ∀ result, Follows (rounds counted) ⟨record, credit⟩ (rest result) Q) :
    Follows (rounds counted) ⟨record, credit + 1⟩
      (review plan operationId providerOverride >>= rest) Q :=
  fun _ => ⟨⟨record, credit⟩, ⟨rfl, .refl _, Or.inl ⟨counts, rfl⟩⟩, rounds_ofExcept settled further⟩

theorem rounds_review_free {held : Held} (settled : Settled held.record) {plan : Json}
    {operationId : String} {providerOverride : Option String} {rest : Dict → Ctl β}
    (free : ¬ counted providerOverride)
    (further : ∀ result, Follows (rounds counted) held (rest result) Q) :
    Follows (rounds counted) held (review plan operationId providerOverride >>= rest) Q :=
  fun _ => ⟨held, ⟨rfl, .refl _, Or.inr ⟨free, rfl⟩⟩, rounds_ofExcept settled further⟩

end Rules

/-! ### What keeps the retries -/

section Keeps

variable (result : Dict)

@[simp] theorem withContinuation_aflowRetry :
    (record.withContinuation result).artifacts.aflowRetry = record.artifacts.aflowRetry := by
  unfold OperationRecord.withContinuation
  split <;> rfl

@[simp] theorem withImprovedPlan_aflowRetry :
    (record.withImprovedPlan result).artifacts.aflowRetry = record.artifacts.aflowRetry := by
  unfold OperationRecord.withImprovedPlan
  split <;> rfl

theorem Continues.of_moved {target : OperationState} {reason : String}
    (started : target ≠ .received) : Continues record (record.moved target reason) :=
  ⟨rfl, rfl, fun _ => started⟩

end Keeps

theorem settled_moved {target : OperationState} {reason : String}
    (outside : target ∉ suspendedStates) : Settled (record.moved target reason) := outside

/-! ### The phases -/

/-- A phase ends with a detail that leaves two keys to the record of a retry. -/
abbrev Unnamed : Held → OperationControllerResult → Prop := fun _ result =>
  hasKey result.detail "provider" = false ∧ hasKey result.detail "state" = false

section Phases

variable {result : Dict} {phase : String} {context : Dict}

theorem handleApprovalSuspension_rounds (settled : Settled record) (suspensionId : Json) :
    Follows (rounds counted) ⟨record, credit⟩
      (handleApprovalSuspension c record result phase suspensionId) Unnamed := by
  unfold handleApprovalSuspension
  refine rounds_ofExcept settled fun toolCall => rounds_moveTo settled ?_
  refine rounds_save ?_ (rounds_emit ⟨rfl, rfl⟩)
  constructor <;> simp [OperationRecord.withSlices]

theorem handleToolResultSuspension_rounds (settled : Settled record) (suspensionId : Json) :
    Follows (rounds counted) ⟨record, credit⟩
      (handleToolResultSuspension c record result phase suspensionId) Unnamed := by
  unfold handleToolResultSuspension
  refine rounds_moveTo settled (rounds_save ?_ (rounds_emit ⟨rfl, rfl⟩))
  constructor <;> simp [OperationRecord.withSlices]

theorem handleOtherSuspension_rounds :
    Follows (rounds counted) ⟨record, credit⟩ (handleOtherSuspension record result phase)
      Unnamed := by
  unfold handleOtherSuspension
  refine rounds_save ?_ ⟨rfl, rfl⟩
  constructor <;> simp [OperationRecord.withSlices]

theorem handleAdapterResult_rounds (settled : Settled record) :
    Follows (rounds counted) ⟨record, credit⟩ (handleAdapterResult c record result phase)
      Unnamed := by
  unfold handleAdapterResult
  dsimp only
  split
  · exact rounds_moveTo settled (rounds_save (.of_moved nofun) (rounds_emit ⟨rfl, rfl⟩))
  · split
    · exact rounds_moveTo settled (rounds_save (.of_moved nofun) (rounds_emit ⟨rfl, rfl⟩))
    · split
      · split
        · exact handleApprovalSuspension_rounds settled _
        · split
          · exact handleToolResultSuspension_rounds settled _
          · exact handleOtherSuspension_rounds
      · exact ⟨rfl, rfl⟩

theorem doExecution_rounds (settled : Settled record) :
    Follows (rounds counted) ⟨record, credit⟩ (doExecution c record context) Unnamed := by
  unfold doExecution
  split
  · exact ⟨rfl, rfl⟩
  · refine rounds_ofExcept settled fun plan => rounds_moveTo settled (rounds_save (.of_moved nofun) ?_)
    have running : Settled (record.moved .sandboxRunning "execution_started") :=
      settled_moved (by decide)
    exact rounds_execute running fun result => handleAdapterResult_rounds running

theorem doFulfilment_rounds {again : OperationRecord → Json → Dict → Ctl OperationControllerResult}
    {findings plan : Json} (settled : Settled record)
    (reviewed : c.hasFulfilment = true → ∀ next plan context, Settled next →
      Follows (rounds counted) ⟨next, credit⟩ (again next plan context) Unnamed) :
    Follows (rounds counted) ⟨record, credit⟩ (doFulfilment c again record findings plan context)
      Unnamed := by
  unfold doFulfilment
  split
  · exact rounds_ofExcept settled fun _ => ⟨rfl, rfl⟩
  · rename_i attached
    refine rounds_fulfil settled fun result => ?_
    dsimp only
    split
    · refine rounds_moveTo settled (rounds_save (.of_moved nofun) ?_)
      exact reviewed (by simpa using attached) _ _ _ (settled_moved (by decide))
    · refine rounds_ofExcept settled fun items => rounds_ofExcept settled fun decision => ?_
      cases decision with
      | true =>
        have waiting : Settled (record.moved .awaitingDecision "decision_required") :=
          settled_moved (by decide)
        exact rounds_moveTo settled
          (rounds_save (.of_moved nofun) (rounds_ofExcept waiting fun _ => ⟨rfl, rfl⟩))
      | false =>
        have collecting : Settled (record.moved .collectingEvidence "evidence_required") :=
          settled_moved (by decide)
        exact rounds_moveTo settled
          (rounds_save (.of_moved nofun) (rounds_ofExcept collecting fun _ => ⟨rfl, rfl⟩))

theorem reviewClean_rounds (settled : Settled record) :
    Follows (rounds counted) ⟨record, credit⟩ (reviewClean c record result context) Unnamed := by
  unfold reviewClean
  refine rounds_moveTo settled (rounds_save ?_ (rounds_emit ?_))
  · constructor <;> simp
  · split
    · exact doExecution_rounds (settled_moved (by decide))
    · exact ⟨rfl, rfl⟩

theorem reviewProviderError_rounds (settled : Settled record) :
    Follows (rounds counted) ⟨record, credit⟩ (reviewProviderError c record result) Unnamed := by
  unfold reviewProviderError
  refine rounds_moveTo settled ?_
  dsimp only
  refine rounds_save ?_ (rounds_emit ⟨rfl, rfl⟩)
  split <;> exact ⟨rfl, rfl, fun _ => nofun⟩

theorem reviewSuspended_rounds (settled : Settled record) (decision : Json) :
    Follows (rounds counted) ⟨record, credit⟩ (reviewSuspended record result decision) Unnamed := by
  unfold reviewSuspended
  exact rounds_moveTo settled (rounds_save ⟨rfl, rfl, fun _ => nofun⟩ ⟨rfl, rfl⟩)

theorem reviewed_rounds {again : OperationRecord → Json → Dict → Ctl OperationControllerResult}
    {plan : Json} (settled : Settled record)
    (reviewed : c.hasFulfilment = true → ∀ next plan context, Settled next →
      Follows (rounds counted) ⟨next, credit⟩ (again next plan context) Unnamed) :
    Follows (rounds counted) ⟨record, credit⟩
      (let decision := getD result "decision" (.str "")
      if decision = .str "no_material_gap" then reviewClean c record result context
      else if decision = .str "material_gap_found" then do
        let record ← moveTo record .fulfilling "material_gap_found"
        save record
        doFulfilment c again record (getD result "findings" (.arr [])) plan context
      else if decision = .str "provider_error" then reviewProviderError c record result
      else reviewSuspended record result decision) Unnamed := by
  dsimp only
  split
  · exact reviewClean_rounds settled
  · split
    · refine rounds_moveTo settled (rounds_save (.of_moved nofun) ?_)
      exact doFulfilment_rounds (settled_moved (by decide)) reviewed
    · split
      · exact reviewProviderError_rounds settled
      · exact reviewSuspended_rounds settled _

theorem doReview_zero {plan : Json} {providerOverride : Option String} {held : Held}
    (settled : Settled held.record) :
    Follows (rounds counted) held (doReview c 0 record plan context providerOverride) Unnamed :=
  settled

/-- **Reviews that do not count take no credit.** -/
theorem doReview_free (free : ¬ counted none) (depth : Nat) :
    ∀ {record : OperationRecord} {plan : Json} {context : Dict}, Settled record →
      Follows (rounds counted) ⟨record, credit⟩ (doReview c depth record plan context none)
        Unnamed := by
  induction depth with
  | zero => exact fun settled => doReview_zero settled
  | succ depth ih =>
    intro record plan context settled
    unfold doReview
    split
    · exact ⟨rfl, rfl⟩
    · refine rounds_review_free settled free fun result => ?_
      exact reviewed_rounds settled fun _ _ _ _ reviewing => ih reviewing

/-- **A review that counts takes one credit**, where those that fulfilment leads to do not count. -/
theorem doReview_once {providerOverride : Option String} (free : c.hasFulfilment = true → ¬ counted none)
    (depth : Nat) {plan : Json} (settled : Settled record) :
    Follows (rounds counted) ⟨record, 1⟩ (doReview c depth record plan context providerOverride)
      Unnamed := by
  cases depth with
  | zero => exact doReview_zero settled
  | succ depth =>
    unfold doReview
    split
    · exact ⟨rfl, rfl⟩
    · by_cases counts : counted providerOverride
      · refine rounds_review_counted settled counts fun result => ?_
        exact reviewed_rounds settled fun attached _ _ _ reviewing =>
          doReview_free (free attached) depth reviewing
      · refine rounds_review_free settled counts fun result => ?_
        exact reviewed_rounds settled fun attached _ _ _ reviewing =>
          doReview_free (free attached) depth reviewing

end Phases

end Audisor.Controller
