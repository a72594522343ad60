/-
**How many attempts a stage makes, and under which deadline.**

* `Untouched`, `Starts` — a step that leaves the attempts and the time limits alone, and one attempt.
* `runAttempt_starts`, `runStage_starts` — every attempt is one start, whatever it ends with; a stage is
  one attempt on the primary provider, and at most one on the fallback.
* `WithinDeadline` — at most two attempts, each given the deadline of the stage.
* `stays_within_iff` — a call of a stage stays within it exactly if the worker does not leave the stage with
  an exception that the probe of its signature catches.
-/

import Audisor.ArtifactFlow.Runs
import Audisor.ArtifactFlow.StageWorkers

namespace Audisor.ArtifactFlow

open Interaction Json

variable (script : Script stageSignature) (host : StageHost) (worker : ManagedStageWorker)

/-! ### What an attempt leaves alone -/

def Untouched (w w' : StageWorld) : Prop := w'.started = w.started ∧ w'.timeouts = w.timeouts

theorem Untouched.refl (w : StageWorld) : Untouched w w := ⟨rfl, rfl⟩

theorem Untouched.trans (a b c : StageWorld) (first : Untouched a b) (second : Untouched b c) :
    Untouched a c := ⟨second.1.trans first.1, second.2.trans first.2⟩

theorem untouched_consult {ε : Type} (op : StageOp) :
    Frame Untouched (consult script op : Run StageWorld ε op.Answer) := fun _ => ⟨rfl, rfl⟩

theorem untouched_raise {ε α : Type} (error : ε) : Frame Untouched (Run.raise error : Run StageWorld ε α) :=
  Untouched.refl

theorem untouched_progress (stage : Stage) (provider : ProviderRef) (attempt : Nat)
    (elapsed remaining : ℚ) :
    Frame Untouched (reportProgress script worker stage provider attempt elapsed remaining) := by
  unfold reportProgress
  split
  · exact Frame.bind Untouched.trans (untouched_consult script _) fun answer =>
      Frame.ofExcept Untouched.refl answer
  · exact Frame.pure Untouched.refl ()

theorem untouched_append (record : AttemptRecord) : Frame Untouched (appendAttempt record) :=
  fun _ => ⟨rfl, rfl⟩

theorem untouched_askProvider (stage : Stage) (provider : ProviderRef) (task : StageTask)
    (schemaMode : String) :
    Frame Untouched (askProvider script worker stage provider task schemaMode) := by
  unfold askProvider
  split
  · refine Frame.bind Untouched.trans (untouched_consult script _) fun first => ?_
    split
    · exact Frame.pure Untouched.refl _
    · split
      · refine Frame.bind Untouched.trans (untouched_consult script _) fun second => ?_
        split
        · exact Frame.pure Untouched.refl _
        · exact untouched_raise _
      · exact untouched_raise _
  · refine Frame.bind Untouched.trans (untouched_consult script _) fun output => ?_
    split
    · exact Frame.pure Untouched.refl _
    · exact untouched_raise _

theorem untouched_body (stage : Stage) (prompt : String) (args : AttemptArgs) :
    Frame Untouched (attemptBody script host worker stage prompt args) := by
  refine Frame.bind Untouched.trans (untouched_consult script _) fun native => ?_
  split
  · exact untouched_raise _
  · exact Frame.bind Untouched.trans (untouched_askProvider script worker _ _ _ _) fun _ =>
      Frame.ofExcept Untouched.refl _

theorem untouched_invalidate (provider : ProviderRef) (exc : Exc) (schemaMode : Option String) :
    Frame Untouched (invalidateReadiness script worker provider exc schemaMode) := by
  unfold invalidateReadiness
  split
  · split
    · exact untouched_raise _
    · split
      · exact Frame.pure Untouched.refl ()
      · exact Frame.bind Untouched.trans (untouched_consult script _) fun answer =>
          Frame.ofExcept Untouched.refl answer
  · exact Frame.pure Untouched.refl ()

theorem untouched_complete (stage : Stage) (args : AttemptArgs) (startedAt budget : ℚ) (parsed : Dict) :
    Frame Untouched (completeAttempt script worker stage args startedAt budget parsed) :=
  Frame.bind Untouched.trans (untouched_consult script _) fun _ =>
    Frame.bind Untouched.trans (untouched_append _) fun _ =>
      Frame.bind Untouched.trans (untouched_progress script worker _ _ _ _ _) fun _ =>
        Frame.pure Untouched.refl parsed

theorem untouched_fail (stage : Stage) (args : AttemptArgs) (startedAt budget : ℚ)
    (raised : Exc × Option String) :
    Frame Untouched (failAttempt script worker stage args startedAt budget raised) := by
  obtain ⟨exc, schemaMode⟩ := raised
  simp only [failAttempt]
  split
  · refine Frame.bind Untouched.trans (untouched_consult script _) fun _ => ?_
    refine Frame.bind Untouched.trans (untouched_append _) fun _ => ?_
    refine Frame.bind Untouched.trans (untouched_progress script worker _ _ _ _ _) fun _ => ?_
    exact Frame.bind Untouched.trans (untouched_invalidate script worker _ _ _) fun _ => untouched_raise _
  · exact untouched_raise _

theorem untouched_await (outcome : Except Exc Dict) : Frame Untouched (awaitThread script outcome) := by
  refine Frame.bind Untouched.trans (untouched_consult script .inTime) fun inTime => ?_
  split
  · exact Frame.bind Untouched.trans (Frame.ofExcept Untouched.refl _) fun _ => Frame.pure Untouched.refl _
  · exact Frame.pure Untouched.refl _

theorem Frame.tryElse {σ ε ε' α β : Type} {R : σ → σ → Prop} (trans : ∀ a b c, R a b → R b c → R a c)
    {body : Run σ ε α} {onError : ε → Run σ ε' β} {onValue : α → Run σ ε' β} (first : Frame R body)
    (error : ∀ e, Frame R (onError e)) (value : ∀ a, Frame R (onValue a)) :
    Frame R (ArtifactFlow.tryElse body onError onValue) := by
  intro w
  have before := first w
  unfold ArtifactFlow.tryElse
  split
  · rename_i a w' returned
    rw [returned] at before
    exact trans _ _ _ before (value a w')
  · rename_i e w' raised
    rw [raised] at before
    exact trans _ _ _ before (error e w')

/-! ### One attempt, one start -/

def startOf (timeouts : ProviderRef → Option ℚ) (args : AttemptArgs) (startedAt : ℚ) : AttemptStart where
  provider := args.provider
  attempt := args.attempt
  fallbackUsage := args.fallbackUsage
  deadline := args.deadline
  startedAt := startedAt
  budget := attemptBudget ((timeouts args.provider).getD 0) args.deadline startedAt

def timeoutsAfter (timeouts : ProviderRef → Option ℚ) (start : AttemptStart) : ProviderRef → Option ℚ :=
  if start.deadline.isSome ∧ start.budget ≤ 0 then timeouts
  else setTimeout timeouts start.provider start.budget

def Starts (args : AttemptArgs) (w w' : StageWorld) : Prop :=
  ∃ startedAt, w'.started = startOf w.timeouts args startedAt :: w.started ∧
    w'.timeouts = timeoutsAfter w.timeouts (startOf w.timeouts args startedAt)

/-- **An attempt starts once, whatever it ends with.** -/
theorem runAttempt_starts (stage : Stage) (prompt : String) (args : AttemptArgs) :
    Frame (Starts args) (runAttempt script host worker stage prompt args) := by
  intro w
  let start := startOf w.timeouts args (script w.log .clock)
  let begun : StageWorld := { w with
    started := start :: w.started
    log := ⟨.clock, script w.log .clock⟩ :: w.log }
  by_cases exhausted : start.deadline.isSome ∧ start.budget ≤ 0
  · have timeouts : timeoutsAfter w.timeouts start = w.timeouts := if_pos exhausted
    have rest : Frame Untouched (do
        appendAttempt (recordOf worker stage args 0 0 "provider_timeout" "not_valid"
          (some "stage deadline exhausted before attempt started"))
        (Run.raise (providerFailure ["ProviderTimeoutError"] "provider_timeout"
          ("stage deadline exhausted before attempt " ++ toString args.attempt)
          ("provider=" ++ worker.providerId args.provider)) : Run StageWorld Exc Dict)) :=
      Frame.bind Untouched.trans (untouched_append _) fun _ => untouched_raise _
    have step : runAttempt script host worker stage prompt args w = _ :=
      congrFun (if_pos exhausted) begun
    rw [step]
    exact ⟨script w.log .clock, (rest begun).1, ((rest begun).2).trans timeouts.symm⟩
  · have timeouts : timeoutsAfter w.timeouts start =
        setTimeout w.timeouts start.provider start.budget := if_neg exhausted
    let clamped : StageWorld := { begun with timeouts := setTimeout w.timeouts start.provider start.budget }
    have rest : Frame Untouched (do
        reportProgress script worker stage args.provider args.attempt 0 start.budget
        tryElse (attemptBody script host worker stage prompt args)
          (failAttempt script worker stage args start.startedAt start.budget)
          (completeAttempt script worker stage args start.startedAt start.budget)) :=
      Frame.bind Untouched.trans (untouched_progress script worker _ _ _ _ _) fun _ =>
        Frame.tryElse Untouched.trans (untouched_body script host worker stage prompt args)
          (untouched_fail script worker stage args _ _) (untouched_complete script worker stage args _ _)
    have step : runAttempt script host worker stage prompt args w = _ :=
      congrFun (if_neg exhausted) begun
    rw [step]
    exact ⟨script w.log .clock, (rest clamped).1, ((rest clamped).2).trans timeouts.symm⟩

/-! ### One stage -/

/-- One attempt on the primary provider has started, and at most one more, on the fallback. -/
def StageStarts (deadline : Option ℚ) (w w' : StageWorld) : Prop :=
  Starts (primaryArgs worker deadline) w w' ∨
    ∃ provider middle, worker.fallback = some provider ∧
      Starts (primaryArgs worker deadline) w middle ∧ Starts (fallbackArgs provider deadline) middle w'

/-- **A stage starts at most two attempts, whatever they end with.** -/
theorem runStage_starts (stage : Stage) (payload : Dict) (deadline : Option ℚ) :
    Frame (StageStarts worker deadline) (runStage script host worker stage payload deadline) := by
  intro w
  have first := runAttempt_starts script host worker stage (host.prompt stage payload)
    (primaryArgs worker deadline) w
  unfold runStage Run.tryCatch
  split
  · rename_i parsed w' returned
    rw [returned] at first
    exact .inl first
  · rename_i exc middle raised
    rw [raised] at first
    dsimp only
    by_cases eligible : fallbackEligible.any exc.isA = true
    · rw [if_pos eligible]
      cases held : worker.fallback with
      | none => exact .inl first
      | some provider =>
        by_cases ready : worker.fallbackReady = true
        · simp only [if_pos ready]
          exact .inr ⟨provider, middle, held, first, runAttempt_starts script host worker stage _ _ middle⟩
        · simp only [if_neg ready]
          exact .inl first
    · rw [if_neg eligible]
      exact .inl first

/-! ### One call -/

/-- **At most two attempts, each under the deadline.** -/
structure WithinDeadline (deadline : ℚ) (starts : List AttemptStart) : Prop where
  primary : (starts.filter fun start => !start.fallbackUsage).length ≤ 1
  fallback : (starts.filter fun start => start.fallbackUsage).length ≤ 1
  timed : ∀ start ∈ starts, start.deadline = some deadline

theorem StageStarts.starts {deadline : Option ℚ} {w w' : StageWorld}
    (stage : StageStarts worker deadline w w') :
    ∃ starts, w'.started = starts ++ w.started ∧
      (starts.filter fun start => !start.fallbackUsage).length = 1 ∧
      (starts.filter fun start => start.fallbackUsage).length ≤ 1 ∧
      ∀ start ∈ starts, start.deadline = deadline := by
  rcases stage with ⟨startedAt, one, -⟩ | ⟨provider, middle, -, ⟨startedAt, one, -⟩, later, two, -⟩
  · refine ⟨[startOf w.timeouts (primaryArgs worker deadline) startedAt], one, rfl, Nat.zero_le 1, ?_⟩
    intro start member
    rw [List.mem_singleton.mp member]
    rfl
  · refine ⟨[startOf middle.timeouts (fallbackArgs provider deadline) later,
      startOf w.timeouts (primaryArgs worker deadline) startedAt], ?_, rfl, Nat.le_refl 1, ?_⟩
    · rw [two, one]
      rfl
    · intro start member
      rcases List.mem_cons.mp member with rfl | other
      · rfl
      · rw [List.mem_singleton.mp other]
        rfl

variable (flowHost : Host) (stage : Stage) (payload : Dict) (timeout : ℚ)

def threadWorld (w : StageWorld) : StageWorld :=
  { w with log := ⟨.clock, script w.log .clock⟩ :: w.log }

def stageDeadline (w : StageWorld) : ℚ := (show ℚ from script w.log .clock) + timeout

def StaysWithin (w : StageWorld) : Prop :=
  ∃ starts, (executeStageOn script host worker flowHost stage payload (some timeout) w).2.started =
      starts ++ w.started ∧ WithinDeadline (stageDeadline script timeout w) starts

/-- The worker leaves the stage, under its deadline, with an exception that the probe of its signature
catches. -/
def LeavesCaught (w : StageWorld) : Prop :=
  ∃ exc after, runStage script host worker stage payload (some (stageDeadline script timeout w))
    (threadWorld script w) = (.error exc, after) ∧ exc.isCaught = true

theorem callWithTimeout_started (positive : 0 < timeout) (w : StageWorld) :
    (callWithTimeout script host worker stage payload (some timeout) w).2.started =
      (runInThread script host worker stage payload (stageDeadline script timeout w)
        (threadWorld script w)).2.started := by
  have bounded : ¬ timeout ≤ 0 := not_le.mpr positive
  have step : callWithTimeout script host worker stage payload (some timeout) w = _ :=
    congrFun (if_neg bounded) w
  rw [step]
  exact (untouched_await script _ _).1

theorem executeStageOn_started (positive : 0 < timeout) (w : StageWorld) :
    (executeStageOn script host worker flowHost stage payload (some timeout) w).2.started =
      (runInThread script host worker stage payload (stageDeadline script timeout w)
        (threadWorld script w)).2.started := by
  rw [← callWithTimeout_started script host worker stage payload timeout positive w]
  unfold executeStageOn tryElse
  split
  · rename_i output after returned
    rw [returned]
    rfl
  · rename_i exc after raised
    rw [raised]
    show (Run.andThen (Run.ofExcept (answerOfExc exc)) _ after).2.started = after.started
    unfold Run.andThen Run.ofExcept
    cases answerOfExc exc <;> rfl

/-- **When a call makes at most two attempts, each within its deadline**: exactly if the worker does not
leave the stage with an exception that makes the call start it again. -/
theorem stays_within_iff (positive : 0 < timeout) (w : StageWorld) :
    StaysWithin script host worker flowHost stage payload timeout w ↔
      ¬ LeavesCaught script host worker stage payload timeout w := by
  have first := runStage_starts script host worker stage payload
    (some (stageDeadline script timeout w)) (threadWorld script w)
  unfold StaysWithin
  rw [executeStageOn_started script host worker flowHost stage payload timeout positive w]
  by_cases caught : LeavesCaught script host worker stage payload timeout w
  · refine iff_of_false ?_ (not_not.mpr caught)
    obtain ⟨exc, after, raised, listed⟩ := caught
    have again : runInThread script host worker stage payload (stageDeadline script timeout w)
        (threadWorld script w) = runStage script host worker stage payload none after := by
      unfold runInThread Run.tryCatch
      rw [raised]
      exact congrFun (if_pos listed) after
    rw [raised] at first
    obtain ⟨early, started, -⟩ := first.starts
    obtain ⟨late, restarted, one, -, unbounded⟩ :=
      (runStage_starts script host worker stage payload none after).starts
    rintro ⟨starts, same, -, -, timed⟩
    rw [again, restarted, started, ← List.append_assoc] at same
    -- A start without a deadline is among those of the call.
    have all : starts = late ++ early := (List.append_cancel_right same).symm
    cases late with
    | nil => cases one
    | cons start others =>
      have deadline := timed start (by rw [all]; exact List.mem_cons_self)
      rw [unbounded start List.mem_cons_self] at deadline
      cases deadline
  · refine iff_of_true ?_ caught
    have once : (runInThread script host worker stage payload (stageDeadline script timeout w)
        (threadWorld script w)).2 = (runStage script host worker stage payload
          (some (stageDeadline script timeout w)) (threadWorld script w)).2 := by
      unfold runInThread Run.tryCatch
      split
      · rename_i parsed after returned
        rw [returned]
      · rename_i exc after raised
        have other : ¬ exc.isCaught = true := fun listed => caught ⟨exc, after, raised, listed⟩
        dsimp only
        rw [if_neg other, raised]
        rfl
    obtain ⟨starts, started, one, two, timed⟩ := first.starts
    exact ⟨starts, by rw [once, started]; rfl, one.le, two, timed⟩

/-! ### An exception of the provider -/

/-- A worker with one provider, which answers in the mode of its prompt. -/
def loneWorker : ManagedStageWorker where
  primary := 0
  fallback := none
  fallbackReady := false
  reportsProgress := false
  invalidates := false
  providerId _ := "local"
  model _ := "model"
  structured _ := true

/-- A host whose prompts are empty and whose answers are all `{}`. -/
def emptyStageHost : StageHost where
  prompt _ _ := ""
  loads _ := .ok (.obj [])
  violationDetail _ _ _ _ _ := ""
  notJsonDetail _ _ _ _ _ := ""

/-- The provider raises an exception, and everything happens at once. -/
def raisingScript (exc : Exc) : Script stageSignature := fun _ op =>
  match op with
  | .clock => (0 : ℚ)
  | .capabilities _ => (.ok false : Except Exc Bool)
  | .executeStructured _ _ _ _ | .execute _ _ => (.error exc : Except Exc String)
  | .progress _ _ _ _ _ | .invalidateReadiness _ _ _ => (.ok () : Except Exc Unit)
  | .inTime => true

/-- A worker that has made no attempt, with a limit of 300 seconds for its provider. -/
def freshWorld : StageWorld where
  timeouts _ := some 300
  attempts := []
  started := []
  log := []

def unavailable : Exc :=
  providerFailure ["ProviderUnavailableError"] "provider_unavailable" "connection refused" ""

def valueError : Exc where
  classes := ["ValueError", "Exception"]
  message := "invalid literal for int() with base 10: 'n/a'"

def endsCaught : Except Exc Dict → Bool
  | .error exc => exc.isCaught
  | .ok _ => false

theorem leavesCaught_endsCaught {timeout : ℚ} {w : StageWorld}
    (left : LeavesCaught script host worker stage payload timeout w) :
    endsCaught (runStage script host worker stage payload (some (stageDeadline script timeout w))
      (threadWorld script w)).1 = true := by
  obtain ⟨exc, after, raised, caught⟩ := left
  rw [raised]
  exact caught

theorem unavailable_within :
    StaysWithin (raisingScript unavailable) emptyStageHost loneWorker plainHost .evaluation [] 60
      freshWorld := by
  refine (stays_within_iff (raisingScript unavailable) emptyStageHost loneWorker plainHost .evaluation [] 60
    (by decide) freshWorld).mpr fun left => ?_
  have ended := leavesCaught_endsCaught _ _ _ _ _ left
  revert ended
  decide +kernel

/-- **A provider that raises a `ValueError` is asked a second time, without the deadline.** -/
theorem value_error_restarts :
    (executeStageOn (raisingScript valueError) emptyStageHost loneWorker plainHost .evaluation [] (some 60)
      freshWorld).2.started = [⟨0, 1, false, none, 0, 60⟩, ⟨0, 1, false, some 60, 0, 60⟩] ∧
      ¬ StaysWithin (raisingScript valueError) emptyStageHost loneWorker plainHost .evaluation [] 60
        freshWorld := by
  have started : (executeStageOn (raisingScript valueError) emptyStageHost loneWorker plainHost .evaluation
      [] (some 60) freshWorld).2.started =
        [⟨0, 1, false, none, 0, 60⟩, ⟨0, 1, false, some 60, 0, 60⟩] := by
    decide +kernel
  refine ⟨started, ?_⟩
  rintro ⟨starts, same, -, -, timed⟩
  have all : starts = [⟨0, 1, false, none, 0, 60⟩, ⟨0, 1, false, some 60, 0, 60⟩] := by
    rw [← started, same]
    exact (List.append_nil starts).symm
  have deadline := timed ⟨0, 1, false, none, 0, 60⟩ (by rw [all]; exact List.mem_cons_self)
  cases deadline

end Audisor.ArtifactFlow
