/-
**What the budget of an attempt depends on.**

* `limitOf`, `timeLeft`, `AttemptStart.due` — limits in seconds, of which zero is none; the budget that
  the configured time limit and the deadline of the call give.
* `currentLimit`, `Faithful` — the time limit a provider has after some attempts, and attempts whose
  budgets were computed from it.
* `runCalls` — any sequence of stages on one worker. `runCalls_faithful` — its attempts are such.
* `budgets_due_iff` — every budget is the one that is due exactly if no earlier attempt on the provider
  had less time left than is due now.
-/

import Audisor.ArtifactFlow.StageAttempts
import Mathlib.Algebra.Order.Ring.Rat
import Mathlib.Order.WithBot

namespace Audisor.ArtifactFlow

open Interaction Json

/-! ### Limits -/

def limitOf (seconds : ℚ) : WithTop ℚ := if seconds = 0 then ⊤ else seconds

def timeLeft (deadline : Option ℚ) (startedAt : ℚ) : WithTop ℚ :=
  match deadline with
  | some deadline => ((max 0 (deadline - startedAt) : ℚ) : WithTop ℚ)
  | none => ⊤

/-- The budget of an attempt, as a limit: without a deadline, zero is none. -/
def AttemptStart.budgetLimit (start : AttemptStart) : WithTop ℚ :=
  match start.deadline with
  | some _ => (start.budget : WithTop ℚ)
  | none => limitOf start.budget

variable (configured : ProviderRef → Option ℚ)

/-- The time limit of the provider when the worker was built. -/
def configuredLimit (provider : ProviderRef) : WithTop ℚ := limitOf ((configured provider).getD 0)

/-- **The budget that is due**: the configured time limit, or less where the deadline is nearer. -/
def AttemptStart.due (start : AttemptStart) : WithTop ℚ :=
  min (configuredLimit configured start.provider) (timeLeft start.deadline start.startedAt)

/-! ### The time limit of a provider after some attempts -/

/-- `provider.timeout_seconds` after some attempts, the last first. -/
def currentTimeouts : List AttemptStart → ProviderRef → Option ℚ
  | [] => configured
  | start :: earlier => timeoutsAfter (currentTimeouts earlier) start

/-- Each budget was computed from what the provider had then. -/
def Faithful : List AttemptStart → Prop
  | [] => True
  | start :: earlier =>
    start.budget = attemptBudget ((currentTimeouts configured earlier start.provider).getD 0) start.deadline
      start.startedAt ∧ Faithful earlier

/-! ### One budget -/

theorem limitOf_zero : limitOf 0 = ⊤ := if_pos rfl

theorem limitOf_of_ne {seconds : ℚ} (limited : seconds ≠ 0) : limitOf seconds = seconds := if_neg limited

theorem limitOf_of_pos {seconds : ℚ} (positive : 0 < seconds) : limitOf seconds = seconds :=
  limitOf_of_ne positive.ne'

theorem attemptBudget_nonneg (timeout deadline startedAt : ℚ) :
    0 ≤ attemptBudget timeout (some deadline) startedAt := by
  simp only [attemptBudget]
  split
  · rename_i positive
    exact le_min positive.le (le_max_left _ _)
  · exact le_max_left _ _

/-- **A budget is the lesser of two limits**: that of the provider, and the time that is left. -/
theorem budgetLimit_eq {start : AttemptStart} {timeout : ℚ} (positive : 0 ≤ timeout)
    (computed : start.budget = attemptBudget timeout start.deadline start.startedAt) :
    start.budgetLimit = min (limitOf timeout) (timeLeft start.deadline start.startedAt) := by
  cases timed : start.deadline with
  | none =>
    rw [timed] at computed
    simp only [AttemptStart.budgetLimit, timed, timeLeft, computed, attemptBudget, min_top_right]
  | some deadline =>
    rw [timed] at computed
    simp only [AttemptStart.budgetLimit, timed, timeLeft, computed, attemptBudget]
    by_cases limited : 0 < timeout
    · rw [if_pos limited, limitOf_of_pos limited, WithTop.coe_min]
    · have none : timeout = 0 := le_antisymm (not_lt.mp limited) positive
      rw [if_neg limited, none, limitOf_zero, min_top_left]

/-! ### What earlier attempts leave -/

/-- The limit that an attempt leaves behind in a provider: the time it had left. -/
def AttemptStart.leaves (start : AttemptStart) (provider : ProviderRef) : WithTop ℚ :=
  match start.deadline with
  | some deadline =>
    if start.provider = provider ∧ 0 < deadline - start.startedAt then
      ((deadline - start.startedAt : ℚ) : WithTop ℚ)
    else ⊤
  | none => ⊤

theorem leaves_untimed {start : AttemptStart} (untimed : start.deadline = none) (provider : ProviderRef) :
    start.leaves provider = ⊤ := by
  rw [AttemptStart.leaves, untimed]

theorem leaves_other {start : AttemptStart} {provider : ProviderRef} (other : start.provider ≠ provider) :
    start.leaves provider = ⊤ := by
  unfold AttemptStart.leaves
  split
  · exact if_neg fun both => other both.1
  · rfl

def leastLeft (provider : ProviderRef) : List AttemptStart → WithTop ℚ
  | [] => ⊤
  | start :: earlier => min (start.leaves provider) (leastLeft provider earlier)

theorem le_leastLeft {provider : ProviderRef} {limit : WithTop ℚ} {starts : List AttemptStart} :
    limit ≤ leastLeft provider starts ↔ ∀ start ∈ starts, limit ≤ start.leaves provider := by
  induction starts with
  | nil => exact iff_of_true le_top fun start member => by cases member
  | cons start earlier ih => rw [leastLeft, le_min_iff, ih, List.forall_mem_cons]

theorem currentTimeouts_none {provider : ProviderRef} (absent : configured provider = none)
    (starts : List AttemptStart) : currentTimeouts configured starts provider = none := by
  induction starts with
  | nil => exact absent
  | cons start earlier ih =>
    rw [currentTimeouts, timeoutsAfter]
    split
    · exact ih
    · simp only [setTimeout, ih, Option.map_none, ite_self]

theorem timeoutsAfter_other {timeouts : ProviderRef → Option ℚ} {start : AttemptStart}
    {provider : ProviderRef} (other : start.provider ≠ provider) :
    timeoutsAfter timeouts start provider = timeouts provider := by
  unfold timeoutsAfter
  split
  · rfl
  · exact if_neg other.symm

/-- **One attempt**: the limit of the provider afterwards is the lesser of the one it had and of what the
attempt leaves. -/
theorem timeoutsAfter_limit {timeouts : ProviderRef → Option ℚ} {start : AttemptStart} {timeout : ℚ}
    (held : timeouts start.provider = some timeout) (positive : 0 ≤ timeout)
    (computed : start.budget = attemptBudget timeout start.deadline start.startedAt) :
    ∃ after, timeoutsAfter timeouts start start.provider = some after ∧ 0 ≤ after ∧
      limitOf after = min (start.leaves start.provider) (limitOf timeout) := by
  have limit := budgetLimit_eq positive computed
  cases timed : start.deadline with
  | none =>
    have written : timeoutsAfter timeouts start start.provider = some start.budget := by
      rw [timeoutsAfter, if_neg (by rw [timed]; rintro ⟨⟨⟩, -⟩), setTimeout, if_pos rfl, held]
      rfl
    have same : start.budget = timeout := by rw [computed, timed, attemptBudget]
    refine ⟨start.budget, written, same ▸ positive, ?_⟩
    simp only [AttemptStart.leaves, timed, min_top_left, same]
  | some deadline =>
    rw [AttemptStart.budgetLimit, timed] at limit
    simp only [timeLeft] at limit
    by_cases exhausted : start.budget ≤ 0
    · have written : timeoutsAfter timeouts start start.provider = some timeout := by
        rw [timeoutsAfter, if_pos ⟨by rw [timed]; rfl, exhausted⟩, held]
      refine ⟨timeout, written, positive, ?_⟩
      -- No time is left, so the attempt leaves nothing.
      have late : ¬ 0 < deadline - start.startedAt := by
        intro left
        rw [computed, timed, attemptBudget] at exhausted
        simp only [max_eq_right left.le] at exhausted
        split at exhausted
        · rename_i limited
          exact absurd (lt_min limited left) (not_lt.mpr exhausted)
        · exact absurd left (not_lt.mpr exhausted)
      simp only [AttemptStart.leaves, timed, late, and_false, if_false, min_top_left]
    · have positive' : 0 < start.budget := not_le.mp exhausted
      have written : timeoutsAfter timeouts start start.provider = some start.budget := by
        rw [timeoutsAfter, if_neg fun both => exhausted both.2, setTimeout, if_pos rfl, held]
        rfl
      refine ⟨start.budget, written, positive'.le, ?_⟩
      have left : 0 < deadline - start.startedAt := by
        by_contra late
        have none : max 0 (deadline - start.startedAt) = 0 := max_eq_left (not_lt.mp late)
        rw [none] at limit
        have below : (start.budget : WithTop ℚ) ≤ ((0 : ℚ) : WithTop ℚ) := limit.trans_le (min_le_right _ _)
        exact exhausted (WithTop.coe_le_coe.mp below)
      rw [limitOf_of_pos positive', limit, max_eq_right left.le, min_comm]
      simp only [AttemptStart.leaves, timed, left, and_true, if_true]

/-- **After some attempts**: the limit of a provider is the least of its configured limit and of what the
attempts leave. -/
theorem currentTimeouts_limit {provider : ProviderRef} {timeout : ℚ}
    (built : configured provider = some timeout) (positive : 0 ≤ timeout) {starts : List AttemptStart}
    (faithful : Faithful configured starts) :
    ∃ current, currentTimeouts configured starts provider = some current ∧ 0 ≤ current ∧
      limitOf current = min (leastLeft provider starts) (limitOf timeout) := by
  induction starts with
  | nil => exact ⟨timeout, built, positive, (min_top_left _).symm⟩
  | cons start earlier ih =>
    obtain ⟨current, held, kept, limit⟩ := ih faithful.2
    by_cases own : start.provider = provider
    · subst own
      have computed := faithful.1
      rw [held, Option.getD_some] at computed
      obtain ⟨after, written, positive', limit'⟩ := timeoutsAfter_limit held kept computed
      exact ⟨after, written, positive', by rw [limit', limit, leastLeft, min_assoc]⟩
    · refine ⟨current, (timeoutsAfter_other own).trans held, kept, ?_⟩
      rw [leastLeft, leaves_other own, min_top_left, limit]

theorem currentTimeouts_untimed {provider : ProviderRef} {starts : List AttemptStart}
    (faithful : Faithful configured starts)
    (untimed : ∀ start ∈ starts, start.provider = provider → start.deadline = none) :
    currentTimeouts configured starts provider = configured provider := by
  induction starts with
  | nil => rfl
  | cons start earlier ih =>
    have before := ih faithful.2 fun other later => untimed other (List.mem_cons_of_mem _ later)
    by_cases own : start.provider = provider
    · have none := untimed start List.mem_cons_self own
      subst own
      have computed := faithful.1
      rw [none, attemptBudget] at computed
      rw [currentTimeouts, timeoutsAfter, if_neg (by rw [none]; rintro ⟨⟨⟩, -⟩), setTimeout, if_pos rfl,
        before]
      rw [before] at computed
      cases built : configured start.provider with
      | none => rfl
      | some timeout =>
        rw [built] at computed
        rw [computed]
        rfl
    · exact (timeoutsAfter_other own).trans before

/-! ### When every budget is the one that is due -/

/-- Attempts, the last first, of which none has a deadline and a negative configured limit, and none
comes after an attempt on its provider that had less time left than is due now. -/
structure Unclamped (starts : List AttemptStart) : Prop where
  limited : ∀ start ∈ starts, start.deadline.isSome → 0 ≤ (configured start.provider).getD 0
  fits : starts.Pairwise fun later earlier =>
    (configured later.provider).isSome → later.due configured ≤ earlier.leaves later.provider

theorem unclamped_cons {start : AttemptStart} {earlier : List AttemptStart} :
    Unclamped configured (start :: earlier) ↔
      ((start.deadline.isSome → 0 ≤ (configured start.provider).getD 0) ∧
        ∀ before ∈ earlier, (configured start.provider).isSome →
          start.due configured ≤ before.leaves start.provider) ∧ Unclamped configured earlier := by
  constructor
  · rintro ⟨limited, fits⟩
    obtain ⟨now, others⟩ := List.pairwise_cons.mp fits
    obtain ⟨own, rest⟩ := List.forall_mem_cons.mp limited
    exact ⟨⟨own, now⟩, rest, others⟩
  · rintro ⟨⟨own, now⟩, rest, others⟩
    exact ⟨List.forall_mem_cons.mpr ⟨own, rest⟩, List.pairwise_cons.mpr ⟨now, others⟩⟩

/-- **The last attempt**: its budget is the one that is due exactly if what comes before it lets it. -/
theorem budgetLimit_due {start : AttemptStart} {earlier : List AttemptStart}
    (faithful : Faithful configured (start :: earlier)) (before : Unclamped configured earlier) :
    start.budgetLimit = start.due configured ↔
      (start.deadline.isSome → 0 ≤ (configured start.provider).getD 0) ∧
        ∀ other ∈ earlier, (configured start.provider).isSome →
          start.due configured ≤ other.leaves start.provider := by
  obtain ⟨computed, rest⟩ := faithful
  cases built : configured start.provider with
  | none =>
    -- The attribute is absent, so nothing is ever written into it.
    rw [currentTimeouts_none configured built, Option.getD_none] at computed
    refine iff_of_true ?_ ⟨fun _ => le_rfl, ?_⟩
    swap
    · rintro other - ⟨⟩
    rw [budgetLimit_eq le_rfl computed, AttemptStart.due, configuredLimit, built, Option.getD_none]
  | some timeout =>
    by_cases positive : 0 ≤ timeout
    · obtain ⟨current, held, kept, limit⟩ := currentTimeouts_limit configured built positive rest
      rw [held, Option.getD_some] at computed
      have clamped : start.budgetLimit =
          min (leastLeft start.provider earlier) (start.due configured) := by
        rw [budgetLimit_eq kept computed, limit, AttemptStart.due, configuredLimit, built,
          Option.getD_some, min_assoc]
      rw [clamped, min_eq_right_iff, le_leastLeft]
      constructor
      · intro fits
        exact ⟨fun _ => positive, fun other member _ => fits other member⟩
      · rintro ⟨-, fits⟩ other member
        exact fits other member rfl
    · have negative : timeout < 0 := not_le.mp positive
      have limit : configuredLimit configured start.provider = (timeout : WithTop ℚ) := by
        rw [configuredLimit, built, Option.getD_some, limitOf_of_ne negative.ne]
      cases timed : start.deadline with
      | some deadline =>
        -- The budget is not negative, and the one that is due is.
        refine iff_of_false ?_ fun both => positive (both.1 rfl)
        intro same
        rw [timed] at computed
        have kept : ((0 : ℚ) : WithTop ℚ) ≤ start.budgetLimit := by
          rw [AttemptStart.budgetLimit, timed, computed]
          exact WithTop.coe_le_coe.mpr (attemptBudget_nonneg _ _ _)
        have due : start.due configured ≤ (timeout : WithTop ℚ) :=
          (min_le_left _ _).trans limit.le
        exact positive (WithTop.coe_le_coe.mp ((kept.trans same.le).trans due))
      | none =>
        have untimed : ∀ other ∈ earlier, other.provider = start.provider → other.deadline = none := by
          intro other member own
          by_contra present
          have nonneg := before.limited other member (Option.isSome_iff_ne_none.mpr present)
          rw [own, built] at nonneg
          exact positive nonneg
        refine iff_of_true ?_ ⟨?_, fun other member _ => ?_⟩
        · rw [currentTimeouts_untimed configured rest untimed, built, timed, attemptBudget,
            Option.getD_some] at computed
          rw [AttemptStart.due, limit, AttemptStart.budgetLimit, timed, timeLeft, min_top_right, computed]
          exact limitOf_of_ne negative.ne
        · rintro ⟨⟩
        · by_cases own : other.provider = start.provider
          · rw [leaves_untimed (untimed other member own)]
            exact le_top
          · rw [leaves_other own]
            exact le_top

/-- **When every budget is the one that is due**: the induction is over the attempts, the first of them
innermost. -/
theorem budgets_due {starts : List AttemptStart} (faithful : Faithful configured starts) :
    (∀ start ∈ starts, start.budgetLimit = start.due configured) ↔ Unclamped configured starts := by
  induction starts with
  | nil => exact iff_of_true (List.forall_mem_nil _) ⟨List.forall_mem_nil _, List.Pairwise.nil⟩
  | cons start earlier ih =>
    rw [List.forall_mem_cons, unclamped_cons, ih faithful.2]
    exact and_congr_left fun before => budgetLimit_due configured faithful before

/-! ### Any sequence of stages -/

/-- One call of `run_stage`. -/
structure StageRequest where
  stage : Stage
  payload : Dict
  deadline : Option ℚ

variable (script : Script stageSignature) (host : StageHost) (worker : ManagedStageWorker)

/-- Some stages, one after the other on one worker, whatever each of them ends with. -/
def runCalls : List StageRequest → StageWorld → StageWorld
  | [], w => w
  | request :: others, w =>
    runCalls others (runStage script host worker request.stage request.payload request.deadline w).2

def builtWorld : StageWorld where
  timeouts := configured
  attempts := []
  started := []
  log := []

/-- The attempts account for the time limits, and each budget was computed from them. -/
structure Accounted (w : StageWorld) : Prop where
  timeouts : w.timeouts = currentTimeouts configured w.started
  faithful : Faithful configured w.started

theorem Accounted.attempt {w w' : StageWorld} {args : AttemptArgs} (before : Accounted configured w)
    (starts : Starts args w w') : Accounted configured w' := by
  obtain ⟨startedAt, started, timeouts⟩ := starts
  constructor
  · rw [timeouts, started, currentTimeouts, ← before.timeouts]
  · rw [started]
    refine ⟨?_, before.faithful⟩
    rw [← before.timeouts]
    rfl

theorem Accounted.stage {w w' : StageWorld} {deadline : Option ℚ} (before : Accounted configured w)
    (starts : StageStarts worker deadline w w') : Accounted configured w' := by
  rcases starts with once | ⟨provider, middle, -, first, second⟩
  · exact before.attempt configured once
  · exact (before.attempt configured first).attempt configured second

theorem runCalls_accounted (calls : List StageRequest) {w : StageWorld}
    (before : Accounted configured w) : Accounted configured (runCalls script host worker calls w) := by
  induction calls generalizing w with
  | nil => exact before
  | cons request others ih =>
    exact ih (before.stage configured worker
      (runStage_starts script host worker request.stage request.payload request.deadline w))

theorem builtWorld_accounted : Accounted configured (builtWorld configured) := ⟨rfl, trivial⟩

/-- **When the budgets do not depend on earlier stages**: each attempt of some stages on one worker gets
the budget that is due exactly if no earlier attempt on its provider had less time left than that. -/
theorem budgets_due_iff (calls : List StageRequest) :
    (∀ start ∈ (runCalls script host worker calls (builtWorld configured)).started,
      start.budgetLimit = start.due configured) ↔
      Unclamped configured (runCalls script host worker calls (builtWorld configured)).started :=
  budgets_due configured
    (runCalls_accounted configured script host worker calls (builtWorld_accounted configured)).faithful

/-! ### A short stage before a long one -/

def shortThenLong : List StageRequest := [⟨.gapFinding, [], some 60⟩, ⟨.gapFixing, [], some 1000⟩]

/-- **The second stage gets the 60 seconds of the first**, of a provider whose limit is 300. -/
theorem second_budget_clamped :
    (runCalls (raisingScript unavailable) emptyStageHost loneWorker shortThenLong
      (builtWorld fun _ => some 300)).started =
        [⟨0, 1, false, some 1000, 0, 60⟩, ⟨0, 1, false, some 60, 0, 60⟩] ∧
      ¬ ∀ start ∈ (runCalls (raisingScript unavailable) emptyStageHost loneWorker shortThenLong
        (builtWorld fun _ => some 300)).started, start.budgetLimit = start.due fun _ => some 300 := by
  have started : (runCalls (raisingScript unavailable) emptyStageHost loneWorker shortThenLong
      (builtWorld fun _ => some 300)).started =
        [⟨0, 1, false, some 1000, 0, 60⟩, ⟨0, 1, false, some 60, 0, 60⟩] := by
    decide +kernel
  refine ⟨started, fun due => ?_⟩
  rw [started] at due
  have same := due _ List.mem_cons_self
  have least : ((300 : ℚ) : WithTop ℚ) ≤ ((60 : ℚ) : WithTop ℚ) := by
    refine le_trans (le_min ?_ ?_) same.ge
    · exact (limitOf_of_pos (by decide +kernel : (0 : ℚ) < 300)).ge
    · exact WithTop.coe_le_coe.mpr (by decide +kernel)
  exact absurd (WithTop.coe_le_coe.mp least) (by decide +kernel)

end Audisor.ArtifactFlow
