/-
**Deciding an approval.**

* `ApprovalFacts` — what holds of every stored record: a live record has its decision flag set exactly
  when an earlier approval was granted, and a record that waits for an approval keeps the call and its
  digest. The flag is never cleared, so it outlives the suspension that set it.
* `Decision`, `TakesEffect` — a decision for the current suspension, and what it should lead to.
* `OwnDecision` — no approval was granted before, the suspended call has an id, and the stored
  continuation can take the call.
* **`decision_effective_iff`** — every decision for the current suspension takes effect exactly under
  `OwnDecision`.
-/

import Audisor.Controller.ApprovalGate

namespace Audisor.Controller

open Interaction Json

variable {c : OperationController} {log log' : Log} {k k' : CallState}
  {record next : OperationRecord} {operationId : String}

/-! ### What a record says of its approvals -/

def ApprovedBefore (record : OperationRecord) : Prop :=
  ∃ entry ∈ record.history, entry.source = .suspendedForApproval ∧
    entry.target = .suspendedForToolResult

def callDigest (c : OperationController) (toolCall : Dict) : String :=
  computeArgumentDigest c (getD toolCall "call_id" (.str "")) (getD toolCall "tool_name" (.str ""))
    (parsedArguments (getD toolCall "arguments" (.obj [])))

structure ApprovalFacts (c : OperationController) (record : OperationRecord) : Prop where
  decided : record.state ∉ terminalStates →
    (record.slices.approvalDecided.getD false = true ↔ ApprovedBefore record)
  envelope : record.state = .suspendedForApproval → ∃ toolCall,
    record.slices.approvalToolCall = some toolCall ∧
      record.slices.argumentDigest = some (callDigest c toolCall)

theorem Advances.approvedBefore_iff (advances : Advances record next)
    (plain : ¬ (record.state = .suspendedForApproval ∧ next.state = .suspendedForToolResult)) :
    ApprovedBefore next ↔ ApprovedBefore record := by
  unfold ApprovedBefore
  rcases advances.2 with ⟨_, history⟩ | ⟨_, reason, history⟩
  · rw [history]
  · rw [history]
    constructor
    · rintro ⟨entry, member, source, target⟩
      rcases List.mem_append.mp member with earlier | last
      · exact ⟨entry, earlier, source, target⟩
      · rw [List.mem_singleton] at last
        subst last
        exact absurd ⟨source, target⟩ plain
    · rintro ⟨entry, member, granted⟩
      exact ⟨entry, List.mem_append_left _ member, granted⟩

theorem Advances.live (advances : Advances record next) (live : next.state ∉ terminalStates) :
    record.state ∉ terminalStates := by
  rcases advances.2 with ⟨state, _⟩ | ⟨allowed, _⟩
  · exact state ▸ live
  · exact allowed.1

/-- **What a save does to the decision flag**: it keeps it, it cancels the operation, or it grants
the approval that the record waits for. -/
theorem Saves.approvalDecided (saves : Saves c k next k') (holding : k.record? = some record) :
    (next.slices.approvalDecided = record.slices.approvalDecided ∧
        ¬ (record.state = .suspendedForApproval ∧ next.state = .suspendedForToolResult)) ∨
      next.state = .cancelledByUser ∨
      (record.state = .suspendedForApproval ∧ next.state = .suspendedForToolResult ∧
        next.slices.approvalDecided = some true) := by
  have running : ∀ {result : Dict} {phase : String}, Returned k record result phase →
      ¬ record.state = .suspendedForApproval := by
    intro result phase returned waiting
    cases returned with
    | planning state _ => exact absurd (state.symm.trans waiting) (by decide)
    | execution state => exact absurd (state.symm.trans waiting) (by decide)
  have resumes : ∀ source : OperationRecord, resumeTarget source ≠ .suspendedForToolResult :=
    fun source same => resumeTarget_not_suspended source (by rw [same]; decide)
  cases saves with
  | registered => cases holding
  | approvalDenied => exact Or.inr (Or.inl rfl)
  | cancelled => exact Or.inr (Or.inl rfl)
  | failed => exact Or.inr (Or.inl rfl)
  | approvalGranted _ _ _ state =>
    cases holding
    exact Or.inr (Or.inr ⟨state, rfl, rfl⟩)
  | approvalSuspension toolCall suspensionId returned =>
    cases returned.holds.symm.trans holding
    exact Or.inl ⟨by simp, fun granted => running returned granted.1⟩
  | toolResultSuspension suspensionId returned =>
    cases returned.holds.symm.trans holding
    exact Or.inl ⟨by simp, fun granted => running returned granted.1⟩
  | otherSuspension returned =>
    cases returned.holds.symm.trans holding
    exact Or.inl ⟨by simp, fun granted => running returned granted.1⟩
  | fulfilmentDone target reason state outcome =>
    cases holding
    refine Or.inl ⟨rfl, fun granted => ?_⟩
    have reached : target = .suspendedForToolResult := granted.2
    subst reached
    exact absurd outcome (by decide)
  | toolResults =>
    cases holding
    exact Or.inl ⟨by simp, fun granted => resumes _ (by simpa using granted.2)⟩
  | resumed =>
    cases holding
    exact Or.inl ⟨rfl, fun granted => resumes _ granted.2⟩
  | claimed claim calls call state =>
    cases holding
    exact Or.inl ⟨rfl, fun granted => absurd (state.symm.trans granted.1) (by decide)⟩
  | retryRecorded =>
    cases holding
    exact Or.inl ⟨rfl, fun granted => absurd (granted.1.symm.trans granted.2) (by decide)⟩
  | _ =>
    cases holding
    exact Or.inl ⟨by simp [OperationRecord.withPlan, OperationRecord.withArtifacts],
      by simp [OperationRecord.withPlan, OperationRecord.withArtifacts]⟩

theorem Saves.envelope (saves : Saves c k next k')
    (held : ∀ record, k.record? = some record → ApprovalFacts c record)
    (waiting : next.state = .suspendedForApproval) : ∃ toolCall,
      next.slices.approvalToolCall = some toolCall ∧
        next.slices.argumentDigest = some (callDigest c toolCall) := by
  have resumes : ∀ source : OperationRecord, resumeTarget source ≠ .suspendedForApproval :=
    fun source same => resumeTarget_not_suspended source (by rw [same]; decide)
  cases saves with
  | approvalSuspension toolCall suspensionId returned => exact ⟨toolCall, by simp, by simp [callDigest]⟩
  | otherSuspension returned =>
    rw [otherSuspended_state] at waiting
    cases returned with
    | planning state _ => exact absurd (state.symm.trans waiting) (by decide)
    | execution state => exact absurd (state.symm.trans waiting) (by decide)
  | fulfilmentDone target reason state outcome =>
    have reached : target = .suspendedForApproval := waiting
    subst reached
    exact absurd outcome (by decide)
  | toolResults => exact absurd (by simpa using waiting) (resumes _)
  | resumed => exact absurd waiting (resumes _)
  | claimed claim calls call state => exact absurd (state.symm.trans waiting) (by decide)
  | retryRecorded => exact (held _ rfl).envelope waiting
  | _ => exact absurd waiting (by
      simp [OperationRecord.withPlan, OperationRecord.withArtifacts, OperationRecord.denied,
        OperationRecord.withSlices, registeredRecord])

/-- **What every save keeps of the approval facts.** -/
theorem Saves.approvalFacts (saves : Saves c k next k')
    (held : ∀ record, k.record? = some record → ApprovalFacts c record) : ApprovalFacts c next := by
  refine ⟨fun live => ?_, saves.envelope held⟩
  rcases saves.advances with ⟨_, operationId, sourceKind, prompt, rfl⟩ | ⟨record, holding, advances⟩
  · constructor
    · exact nofun
    · rintro ⟨_, member, _⟩
      exact absurd member List.not_mem_nil
  · have earlier := (held record holding).decided (advances.live live)
    rcases saves.approvalDecided holding with ⟨same, plain⟩ | cancelled | ⟨waiting, granted, flag⟩
    · rw [same, earlier, advances.approvedBefore_iff plain]
    · rw [cancelled] at live
      exact absurd live (by decide)
    · refine iff_of_true (by rw [flag]; rfl) ?_
      rcases advances.2 with ⟨state, _⟩ | ⟨_, reason, history⟩
      · exact absurd (waiting.symm.trans (state.symm.trans granted)) (by decide)
      · refine ⟨⟨record.state, next.state, reason⟩, ?_, waiting, granted⟩
        rw [history]
        exact List.mem_append_right _ List.mem_cons_self

theorem stored_approvalFacts (reachable : Reachable c log)
    (found : stored log operationId = some record) : ApprovalFacts c record :=
  (RunInvariant.of_records fun saves held => Saves.approvalFacts saves held).reachable reachable
    (.cancel "" "") operationId record found

/-! ### Decisions for the current suspension -/

/-- A decision for the suspension that the record is in. -/
structure Decision (record : OperationRecord) (approved : Bool) (resumeInput : Dict) : Prop where
  kind : resumeType resumeInput = .str "approval_decision"
  approved : get? resumeInput "approved" = some (.bool approved)
  suspension : get? resumeInput "suspension_id" =
    some (record.slices.suspensionId.getD (.str ""))

def suspendedCall (record : OperationRecord) : Dict :=
  approvedCall (record.slices.approvalToolCall.getD []) (.str "")

/-- The decision took effect: it is answered as a decision, and the record is moved. -/
def TakesEffect (operationId : String) (record : OperationRecord) (approved : Bool) (log : Log)
    (p : Ctl OperationControllerResult) : Prop :=
  (∃ result, p = .done result ∧ get? result.detail "idempotent" = none ∧
      get? result.detail "error" = none) ∧
    ∃ next, stored log operationId = some next ∧
      if approved then next.state = .suspendedForToolResult ∧
        next.slices.pendingCalls = some (.arr [.obj (suspendedCall record)])
      else next.state = .cancelledByUser

/-- The stored continuation, where there is one, can take the approved call. -/
def ContinuationUsable (artifacts : Artifacts) : Prop :=
  ∀ continuation, artifacts.continuation = some continuation → continuation.truthy = true →
    ∃ text fields messages, continuation = .str text ∧ loads text = some (.obj fields) ∧
      get? fields "messages" = some (.arr messages)

/-- When the decisions for a suspension are its own. -/
structure OwnDecision (record : OperationRecord) : Prop where
  undecided : ¬ ApprovedBefore record
  named : hasKey (record.slices.approvalToolCall.getD []) "call_id" = true
  continuation : ContinuationUsable record.artifacts

/-! #### The checks -/

theorem Decision.suspensionMatches {approved : Bool} {resumeInput : Dict}
    (decision : Decision record approved resumeInput) :
    approvalSuspensionMatches record.slices (getD resumeInput "suspension_id" (.str "")) = true := by
  unfold approvalSuspensionMatches
  rw [getD, decision.suspension, Option.getD_some]
  simp

theorem getD_of_hasKey {fields : Dict} {key : String} (present : hasKey fields key = true)
    (first second : Json) : getD fields key first = getD fields key second := by
  obtain ⟨value, found⟩ := Option.isSome_iff_exists.mp present
  rw [getD, getD, found, Option.getD_some, Option.getD_some]

theorem ApprovalFacts.digestMatches (facts : ApprovalFacts c record)
    (waiting : record.state = .suspendedForApproval)
    (named : hasKey (record.slices.approvalToolCall.getD []) "call_id" = true) (callId : Json) :
    approvalDigestMatches c record.slices callId = true := by
  obtain ⟨toolCall, call, digest⟩ := facts.envelope waiting
  rw [call, Option.getD_some] at named
  unfold approvalDigestMatches
  rw [call, digest, Option.getD_some, Option.getD_some]
  dsimp only
  rw [getD_of_hasKey named callId (.str "")]
  simp [verifyArgumentDigest, callDigest]

theorem integrateApproval_eq_ok_iff (continuation : Json) (pendingCall : Dict) :
    (∃ integrated, integrateApproval continuation pendingCall = .ok integrated) ↔
      ∃ fields messages, continuation = .obj fields ∧ get? fields "messages" = some (.arr messages) := by
  unfold integrateApproval
  cases continuation with
  | obj fields =>
    cases found : get? fields "messages" with
    | none => simp [found]
    | some messages => cases messages <;> simp [found]
  | _ => simp

/-- **When the approved call can join the continuation.** -/
theorem approvedContinuation_eq_ok_iff (artifacts : Artifacts) (pendingCall : Dict) :
    (∃ continuation, approvedContinuation artifacts pendingCall = .ok continuation) ↔
      ContinuationUsable artifacts := by
  unfold approvedContinuation ContinuationUsable
  cases kept : artifacts.continuation with
  | none => simp
  | some continuation =>
    simp only [Option.some.injEq, forall_eq']
    cases present : continuation.truthy with
    | false => simp
    | true =>
      simp only [if_true, forall_const]
      cases continuation with
      | str text =>
        cases read : loads text with
        | none => simp [loadsValue, read, bind, Except.bind]
        | some value =>
          have integrates := integrateApproval_eq_ok_iff value pendingCall
          simp only [loadsValue, read, bind, Except.bind]
          cases outcome : integrateApproval value pendingCall with
          | error error =>
            rw [outcome] at integrates
            simp only [reduceCtorEq, exists_false, false_iff] at integrates
            simp only [reduceCtorEq, exists_false, false_iff]
            rintro ⟨text', fields, messages, same, loaded, found⟩
            cases same
            rw [read, Option.some.injEq] at loaded
            exact integrates ⟨fields, messages, loaded, found⟩
          | ok integrated =>
            obtain ⟨fields, messages, rfl, found⟩ := integrates.mp ⟨integrated, outcome⟩
            simp only [Except.ok.injEq, exists_eq', true_iff]
            exact ⟨text, fields, messages, rfl, read, found⟩
      | _ => simp [loadsValue, bind, Except.bind]

/-! ### What a decision leads to -/

theorem suspended_of_waiting (waiting : record.state = .suspendedForApproval) :
    record.state ∈ suspendedStates := by
  rw [waiting]
  decide

theorem denyApproval_effective (waiting : record.state = .suspendedForApproval) (callId : Json)
    (log : Log) :
    Outcome world log (denyApproval c record callId)
      (TakesEffect record.operationId record false) := by
  have allowed : record.Allows .cancelledByUser :=
    OperationRecord.allows_of_state waiting (by decide)
  unfold denyApproval
  rw [OperationRecord.transition_of_allows allowed]
  refine outcome_save (outcome_emit fun log' kept => outcome_done ⟨⟨_, rfl, rfl, rfl⟩, ?_⟩)
  exact ⟨(record.moved .cancelledByUser "approval_denied").denied,
    by rw [kept]; exact stored_save_self _ _ _, rfl⟩

theorem grantApproval_effective (waiting : record.state = .suspendedForApproval) (callId : Json)
    (usable : ContinuationUsable record.artifacts) (log : Log) :
    Outcome world log (grantApproval c record callId) fun log' p =>
      (∃ result, p = .done result ∧ get? result.detail "idempotent" = none ∧
        get? result.detail "error" = none) ∧
      ∃ next, stored log' record.operationId = some next ∧ next.state = .suspendedForToolResult ∧
        next.slices.pendingCalls =
          some (.arr [.obj (approvedCall (record.slices.approvalToolCall.getD []) callId)]) := by
  obtain ⟨continuation, integrated⟩ := (approvedContinuation_eq_ok_iff record.artifacts
    (approvedCall (record.slices.approvalToolCall.getD []) callId)).mpr usable
  unfold grantApproval
  refine outcome_emit fun middle _ => ?_
  dsimp only
  rw [integrated, Program.ofExcept_ok, Program.done_bind]
  refine outcome_tokenHex fun token => ?_
  have allowed : (record.approved continuation token
      (approvedCall (record.slices.approvalToolCall.getD []) callId)).Allows
        .suspendedForToolResult := OperationRecord.allows_of_state waiting (by decide)
  rw [OperationRecord.transition_of_allows allowed]
  refine outcome_save (outcome_emit fun log' kept => outcome_done ⟨⟨_, rfl, rfl, rfl⟩, ?_⟩)
  exact ⟨(record.approved continuation token (approvedCall (record.slices.approvalToolCall.getD [])
    callId)).moved .suspendedForToolResult "approval_granted",
    by rw [kept]; exact stored_save_self _ _ _, rfl, rfl⟩

theorem grantApproval_fails (callId : Json) (unusable : ¬ ContinuationUsable record.artifacts)
    (log : Log) :
    Outcome world log (grantApproval c record callId) fun _ p => ∃ error, p = .raise error := by
  unfold grantApproval
  refine outcome_emit fun middle _ => ?_
  dsimp only
  cases integrated : approvedContinuation record.artifacts
      (approvedCall (record.slices.approvalToolCall.getD []) callId) with
  | ok continuation =>
    exact absurd ((approvedContinuation_eq_ok_iff _ _).mp ⟨continuation, integrated⟩) unusable
  | error error =>
    rw [Program.ofExcept_error, Program.raise_bind]
    exact outcome_raise ⟨error, rfl⟩

/-- **An undecided record with a matching digest decides by `approved` alone.** -/
theorem handleApprovalDecision_eq {approved : Bool} {resumeInput : Dict}
    (decision : Decision record approved resumeInput)
    (undecided : record.slices.approvalDecided.getD false = false)
    (digest : approvalDigestMatches c record.slices (getD resumeInput "call_id" (.str "")) = true) :
    handleApprovalDecision c record resumeInput =
      if approved then grantApproval c record (getD resumeInput "call_id" (.str ""))
      else denyApproval c record (getD resumeInput "call_id" (.str "")) := by
  have given : getD resumeInput "approved" (.bool false) = .bool approved := by
    rw [getD, decision.approved, Option.getD_some]
  unfold handleApprovalDecision
  simp only [given, decision.suspensionMatches, undecided, digest, Bool.not_true, Bool.false_eq_true,
    if_false]
  cases approved <;> rfl

theorem handleApprovalDecision_decided {approved : Bool} {resumeInput : Dict}
    (decision : Decision record approved resumeInput)
    (decided : record.slices.approvalDecided.getD false = true) (log : Log) :
    Outcome world log (handleApprovalDecision c record resumeInput) fun log' _ => log' = log := by
  unfold handleApprovalDecision
  simp only [decision.suspensionMatches, decided, Bool.not_true, Bool.false_eq_true, if_false, if_true]
  split <;> exact outcome_done rfl

theorem handleApprovalDecision_mismatch {approved : Bool} {resumeInput : Dict}
    (decision : Decision record approved resumeInput)
    (undecided : record.slices.approvalDecided.getD false = false)
    (digest : approvalDigestMatches c record.slices (getD resumeInput "call_id" (.str "")) = false)
    (log : Log) :
    Outcome world log (handleApprovalDecision c record resumeInput) fun log' _ => log' = log := by
  unfold handleApprovalDecision
  simp only [decision.suspensionMatches, undecided, digest, Bool.not_true, Bool.not_false,
    Bool.false_eq_true, if_false, if_true]
  exact outcome_done rfl

/-! ### The exact condition -/

/-- A granting decision for the suspension that the record is in, which names a call. -/
def grantingInput (record : OperationRecord) (callId : String) : Dict :=
  [("resume_type", .str "approval_decision"), ("approved", .bool true),
    ("suspension_id", record.slices.suspensionId.getD (.str "")), ("call_id", .str callId)]

theorem grantingInput_decision (record : OperationRecord) (callId : String) :
    Decision record true (grantingInput record callId) :=
  ⟨rfl, rfl, rfl⟩

theorem granting_effective {callId : String} (found : stored log operationId = some record)
    (waiting : record.state = .suspendedForApproval)
    (effective : Outcome world log (resume c operationId (some (grantingInput record callId)))
      (TakesEffect operationId record true)) {Q : Log → Ctl OperationControllerResult → Prop}
    (outcome : Outcome world (⟨ControllerOp.load operationId, some record⟩ :: log)
      (handleApprovalDecision c record (grantingInput record callId)) Q) :
    ∃ log' p, TakesEffect operationId record true log' p ∧ Q log' p := by
  have handled := (outcome_resume_iff found (suspended_of_waiting waiting) _).mp effective
  rw [resumeRecord, if_pos (grantingInput_decision record callId).kind] at handled
  exact handled.exists_both world_total outcome

theorem not_takesEffect_of_same (found : stored log operationId = some record)
    (waiting : record.state = .suspendedForApproval) (p : Ctl OperationControllerResult) :
    ¬ TakesEffect operationId record true (⟨ControllerOp.load operationId, some record⟩ :: log) p := by
  rintro ⟨_, next, holds, state, _⟩
  rw [stored_of_reads (by trivial), found] at holds
  cases holds
  exact absurd (waiting.symm.trans state) (by decide)

theorem approvedCall_of_named {toolCall : Dict} (named : hasKey toolCall "call_id" = true)
    (callId callId' : Json) : approvedCall toolCall callId = approvedCall toolCall callId' := by
  unfold approvedCall
  rw [getD_of_hasKey named callId callId']

theorem OwnDecision.effective (own : OwnDecision record) (facts : ApprovalFacts c record)
    (found : stored log operationId = some record) (waiting : record.state = .suspendedForApproval)
    {approved : Bool} {resumeInput : Dict} (decision : Decision record approved resumeInput) :
    Outcome world log (resume c operationId (some resumeInput))
      (TakesEffect operationId record approved) := by
  have live : record.state ∉ terminalStates := by rw [waiting]; decide
  have undecided : record.slices.approvalDecided.getD false = false :=
    Bool.eq_false_iff.mpr fun decided => own.undecided ((facts.decided live).mp decided)
  refine (outcome_resume_iff found (suspended_of_waiting waiting) _).mpr ?_
  rw [resumeRecord, if_pos decision.kind,
    handleApprovalDecision_eq decision undecided (facts.digestMatches waiting own.named _)]
  rw [← stored_operationId found]
  cases approved with
  | true =>
    refine (grantApproval_effective waiting _ own.continuation _).mono ?_
    rintro log' p ⟨answered, next, holds, state, pending⟩
    refine ⟨answered, next, holds, state, ?_⟩
    rw [pending, suspendedCall, approvedCall_of_named own.named _ (.str "")]
  | false => exact denyApproval_effective waiting _ _

/-- **A suspension's decisions are effective exactly when they are its own**: for every stored record
that waits for an approval, in every run, every decision for its current suspension takes effect if
and only if no approval of the operation was granted before, the suspended call has an id, and the
stored continuation can take the call. -/
theorem decision_effective_iff (reachable : Reachable c log)
    (found : stored log operationId = some record)
    (waiting : record.state = .suspendedForApproval) :
    (∀ approved resumeInput, Decision record approved resumeInput →
        Outcome world log (resume c operationId (some resumeInput))
          (TakesEffect operationId record approved)) ↔ OwnDecision record := by
  have facts : ApprovalFacts c record := stored_approvalFacts reachable found
  have live : record.state ∉ terminalStates := by rw [waiting]; decide
  constructor
  · intro effective
    have granted := fun callId => effective true _ (grantingInput_decision record callId)
    have undecided : record.slices.approvalDecided.getD false = false := by
      by_contra decided
      rw [Bool.not_eq_false] at decided
      obtain ⟨log', p, effect, rfl⟩ := granting_effective found waiting (granted "")
        (handleApprovalDecision_decided (grantingInput_decision record "") decided _)
      exact not_takesEffect_of_same found waiting p effect
    -- whatever call the decision names, its digest matches and its continuation is usable
    have handled : ∀ callId, approvalDigestMatches c record.slices (.str callId) = true ∧
        ContinuationUsable record.artifacts := by
      intro callId
      have decision := grantingInput_decision record callId
      have digest : approvalDigestMatches c record.slices (.str callId) = true := by
        by_contra mismatch
        rw [Bool.not_eq_true] at mismatch
        obtain ⟨log', p, effect, rfl⟩ := granting_effective found waiting (granted callId)
          (handleApprovalDecision_mismatch decision undecided mismatch _)
        exact not_takesEffect_of_same found waiting p effect
      refine ⟨digest, ?_⟩
      by_contra unusable
      have fails := grantApproval_fails (c := c) (.str callId) unusable
        (⟨ControllerOp.load operationId, some record⟩ :: log)
      obtain ⟨log', p, ⟨⟨result, done, _⟩, _⟩, error, raised⟩ :=
        granting_effective found waiting (granted callId)
          (by rw [handleApprovalDecision_eq decision undecided digest]; exact fails)
      rw [done] at raised
      cases raised
    refine ⟨fun before => ?_, ?_, (handled "").2⟩
    · rw [(facts.decided live).mpr before] at undecided
      cases undecided
    · by_contra unnamed
      rw [Bool.not_eq_true] at unnamed
      have pends := grantApproval_effective (c := c) waiting (.str "other") (handled "other").2
        (⟨ControllerOp.load operationId, some record⟩ :: log)
      obtain ⟨log', p, ⟨_, next, holds, _, own⟩, _, next', holds', _, other⟩ :=
        granting_effective found waiting (granted "other")
          (by rw [handleApprovalDecision_eq (grantingInput_decision record "other") undecided
                (handled "other").1]; exact pends)
      rw [stored_operationId found, holds, Option.some.injEq] at holds'
      rw [← holds', own] at other
      have absent : get? (record.slices.approvalToolCall.getD []) "call_id" = none := by
        simpa [hasKey] using unnamed
      simp [suspendedCall, approvedCall, getD, absent] at other
  · exact fun own approved resumeInput decision => own.effective facts found waiting decision

/-! ### A second suspension -/

/-- A planning result that waits for the approval of a listing. -/
def approvalResult (suspensionId callId : String) : Dict :=
  [("status", .str "suspended"), ("suspend_state", .str "suspended_for_approval"),
    ("suspension_id", .str suspensionId),
    ("tool_call", .obj [("call_id", .str callId), ("tool_name", .str "shell_exec"),
      ("arguments", .obj [("command", .str "ls")])])]

@[irreducible] def waitingTask : Log :=
  session .complete
    [(.accept "task" "fix the auth bug" none (some "op-1") none,
      [.adapter (.ok (approvalResult "susp-1" "call-1"))])] []

/-- The same task in its second suspension for approval: the first approval was granted, and the
result of its call led to another call that needs one. -/
@[irreducible] def waitingAgainTask : Log :=
  session .complete
    [(.resume "op-1" (some [("resume_type", .str "approval_decision"), ("approved", .bool true),
      ("suspension_id", .str "susp-1")]), [.text "0a1b2c3d"]),
    (.resume "op-1" (some [("resume_type", .str "tool_result"),
      ("tool_results", .arr [.obj [("call_id", .str "call-1"), ("output", .str "src")]])]),
      [.adapter (.ok (approvalResult "susp-2" "call-2"))])] waitingTask

theorem waitingTask_reachable : Reachable .complete waitingTask := by
  unfold waitingTask
  exact session_reachable _ _ [] .empty

theorem waitingAgainTask_reachable : Reachable .complete waitingAgainTask := by
  unfold waitingAgainTask
  exact session_reachable _ _ _ waitingTask_reachable

theorem waitingAgainTask_ineffective :
    ¬ ∀ (c : OperationController) (log : Log) (operationId : String) (record : OperationRecord)
      (approved : Bool) (resumeInput : Dict), Reachable c log →
      stored log operationId = some record → record.state = .suspendedForApproval →
      Decision record approved resumeInput →
      Outcome world log (resume c operationId (some resumeInput))
        (TakesEffect operationId record approved) := by
  intro every
  obtain ⟨record, found, waiting, suspension⟩ : ∃ record, stored waitingAgainTask "op-1" = some record ∧
      record.state = .suspendedForApproval ∧ record.slices.suspensionId = some (.str "susp-2") :=
    stored_of_any (by decide +kernel)
  have decision : Decision record true [("resume_type", .str "approval_decision"),
      ("approved", .bool true), ("suspension_id", .str "susp-2")] :=
    ⟨rfl, rfl, by rw [suspension]; rfl⟩
  have effective := every _ _ _ record _ _ waitingAgainTask_reachable found waiting decision
  have run := play_exec (resume .complete "op-1" (some [("resume_type", .str "approval_decision"),
    ("approved", .bool true), ("suspension_id", .str "susp-2")])) waitingAgainTask []
  obtain ⟨_, next, holds, state, _⟩ := effective _ _ run (by decide +kernel)
  obtain ⟨same, found', waits⟩ : ∃ record, stored (play (resume .complete "op-1"
      (some [("resume_type", .str "approval_decision"), ("approved", .bool true),
        ("suspension_id", .str "susp-2")])) waitingAgainTask []).1 "op-1" = some record ∧
      record.state = .suspendedForApproval := stored_of_any (by decide +kernel)
  rw [holds, Option.some.injEq] at found'
  rw [found', waits] at state
  cases state

theorem waitingTask_decision_iff :
    ∃ record, stored waitingTask "op-1" = some record ∧
      ((∀ approved resumeInput, Decision record approved resumeInput →
        Outcome world waitingTask (resume .complete "op-1" (some resumeInput))
          (TakesEffect "op-1" record approved)) ↔ OwnDecision record) := by
  obtain ⟨record, found, waiting⟩ : ∃ record, stored waitingTask "op-1" = some record ∧
      record.state = .suspendedForApproval := stored_of_any (by decide +kernel)
  exact ⟨record, found, decision_effective_iff waitingTask_reachable found waiting⟩

end Audisor.Controller
