/-
**How often Codex is launched for one operation.**

* `launches` — the launches that have been made. `Admitted` — a call that comes to its launch.
  `launches_call` — such a call launches once, and no other one does.
* `RunsOnce` — Codex is launched at most once, and behind a verdict every call reports it.
* `runs_once_iff` — this is so exactly if no call comes behind a verdict, and none is admitted behind a
  launch.
-/

import Audisor.Fix.CommandAuthority
import Audisor.Fix.ContinuationRun
import Audisor.Fix.FalseCompletion

namespace Audisor.Fix

open Checked Interaction Json Text

variable (repr : PythonRepr) (site : ContinuationSite) (sha : Aflow.Sha256) (readers : Readers)
  (script : Script continuationSignature)

/-! ### Launches -/

def ContinuationOp.isLaunch : ContinuationOp → Bool
  | .launch _ _ => true
  | _ => false

def Calm (op : ContinuationOp) : Prop := op.isLaunch = false

def launches (log : ContinuationLog) : Nat := log.countP fun event => event.op.isLaunch

theorem launches_kept {α : Type} {p : ContinuationProgram α}
    (asks : p.Asks Calm) (log : ContinuationLog) :
    launches (p.journalOf script log) = launches log := by
  have run : Exec (journal fun _ _ _ => True) log p (p.journalOf script log)
      (ended (p.resultOf script log)) := exec_journalOf (fun _ _ => trivial) p log
  obtain ⟨new, whole, calm⟩ := run.asked asks
  have none : new.countP (fun event => event.op.isLaunch) = 0 := by
    refine List.countP_eq_zero.mpr fun event member => ?_
    rw [show event.op.isLaunch = false from calm event member]
    exact Bool.false_ne_true
  rw [launches, whole, List.countP_append, none, Nat.zero_add, launches]

theorem asks_demand (op : ContinuationOp) (calm : op.isLaunch = false) :
    (demand op).Asks Calm := ⟨calm, fun _ => trivial⟩

theorem asks_prepareLaunch (call : ContinuationCall) :
    (prepareLaunch repr site call).Asks Calm := by
  refine (asks_demand .disk rfl).bind fun disk => ?_
  refine (asks_demand (.readHandoff _) rfl).bind fun file => ?_
  refine (Program.Asks.ofExcept _).bind fun validated => ?_
  refine (asks_demand (.persistEnvelope _) rfl).bind fun written => ?_
  exact (Program.Asks.ofExcept written).bind fun _ => trivial

theorem asks_verifier {α : Type} (p : VerifierProgram α) :
    (p.within verifierPart).Asks Calm := by
  refine (asks_within verifierPart p).mono ?_
  rintro op ⟨question, rfl⟩
  rfl

theorem asks_concludeLaunch (call : ContinuationCall) (prepared : PreparedLaunch)
    (outcome : Except Failure Launched) :
    (concludeLaunch repr site sha readers call prepared outcome).Asks Calm := by
  cases outcome with
  | error failure =>
    unfold concludeLaunch
    dsimp only
    split
    · refine (asks_demand (.persistLaunchResult _) rfl).bind fun written => ?_
      exact (Program.Asks.ofExcept written).bind fun _ => trivial
    · trivial
  | ok launched =>
    refine (asks_demand (.persistLaunchResult _) rfl).bind fun written => ?_
    refine (Program.Asks.ofExcept written).bind fun _ => ?_
    split
    · exact (asks_verifier _).bind fun _ => trivial
    · trivial

/-- **A call that comes to its launch**: its validations pass, and its envelope can be written. -/
def Admitted (call : ContinuationCall) (log : ContinuationLog) : Prop :=
  ∃ prepared, (prepareLaunch repr site call).resultOf (overFiles script) log = .ok prepared

theorem launches_admitted {call : ContinuationCall} {log : ContinuationLog}
    (admitted : Admitted repr site script call log) :
    launches (recordOf repr site sha readers script call log).after = launches log + 1 := by
  obtain ⟨prepared, ready⟩ := admitted
  have front := launches_kept (overFiles script) (asks_prepareLaunch repr site call) log
  have behind : ∀ outcome later, launches ((concludeLaunch repr site sha readers call prepared outcome).journalOf
      (overFiles script) later) = launches later := fun outcome =>
    launches_kept (overFiles script) (asks_concludeLaunch repr site sha readers call prepared outcome)
  show launches ((continueFix repr site sha readers call).journalOf (overFiles script) log) = _
  rw [continueFix, journalOf_bind, ready]
  refine (behind _ _).trans ?_
  rw [launches, List.countP_cons_of_pos rfl, ← launches, front]

theorem refused {call : ContinuationCall} {log : ContinuationLog}
    (refused : ¬ Admitted repr site script call log) :
    launches (recordOf repr site sha readers script call log).after = launches log ∧
      ∃ failure, (recordOf repr site sha readers script call log).ended = .error failure := by
  cases ended : (prepareLaunch repr site call).resultOf (overFiles script) log with
  | ok prepared => exact absurd ⟨prepared, ended⟩ refused
  | error failure =>
    constructor
    · show launches ((continueFix repr site sha readers call).journalOf (overFiles script) log) = _
      rw [continueFix, journalOf_bind, ended]
      exact launches_kept (overFiles script) (asks_prepareLaunch repr site call) log
    · refine ⟨failure, ?_⟩
      show (continueFix repr site sha readers call).resultOf (overFiles script) log = _
      rw [continueFix, resultOf_bind, ended]

/-! ### Verdicts -/

def verdictOf (log : ContinuationLog) : Option FixVerificationResult :=
  match existingResult repr (verdictFile log) with
  | .ok found => found
  | .error _ => none

/-- A question that does something again: a launch, a scan, a command. -/
def ContinuationOp.redoes : ContinuationOp → Bool
  | .launch _ _ => true
  | .verifier (.rescan _ _) => true
  | .verifier (.runCommand _ _) => true
  | _ => false

theorem redoes_of_isLaunch {op : ContinuationOp} (launches : op.isLaunch = true) : op.redoes = true := by
  cases op with
  | launch stdin cwd => rfl
  | disk | readHandoff path | persistEnvelope envelope | persistLaunchResult result | verifier op =>
    cases launches

/-- **The call reports the verdict**, does nothing again, and leaves the launch result that the verdict is
about. -/
structure CallRecord.Reports (record : CallRecord) (verdict : FixVerificationResult) : Prop where
  reported : ∃ result, record.ended = .ok result ∧
    result.verificationPerformed = verdict.verificationPerformed ∧
    result.verificationPassed = verdict.passed ∧ result.completionClaimed = verdict.completionClaimed
  quiet : ∃ new, record.after = new ++ record.before ∧ ∀ event ∈ new, event.op.redoes = false
  paired : launchFile record.after = launchFile record.before

/-- **Codex runs at most once**, and once a verdict has been persisted every call reports it. -/
structure RunsOnce (calls : List ContinuationCall) : Prop where
  once : launches (logAfter repr site sha readers script calls []) ≤ 1
  later : ∀ record ∈ runCalls repr site sha readers script calls [], ∀ verdict,
    verdictOf repr record.before = some verdict → record.Reports verdict

/-- No verdict has been persisted before the call, and if Codex has been launched, the call is not
admitted. -/
structure CallRecord.Early (record : CallRecord) : Prop where
  undecided : verdictOf repr record.before = none
  first : launches record.before = 0 ∨ ¬ Admitted repr site script record.call record.before

/-! ### Sequences of calls -/

variable {repr site sha readers script}

theorem record_eq {calls : List ContinuationCall} {log : ContinuationLog} {record : CallRecord}
    (member : record ∈ runCalls repr site sha readers script calls log) :
    record = recordOf repr site sha readers script record.call record.before := by
  induction calls generalizing log with
  | nil => cases member
  | cons call others ih =>
    rcases List.mem_cons.mp member with rfl | later
    · rfl
    · exact ih later

theorem launches_le_record (call : ContinuationCall) (log : ContinuationLog) :
    launches log ≤ launches (recordOf repr site sha readers script call log).after := by
  by_cases admitted : Admitted repr site script call log
  · rw [launches_admitted repr site sha readers script admitted]
    exact Nat.le_succ _
  · exact (refused repr site sha readers script admitted).1.ge

theorem launches_le (calls : List ContinuationCall) (log : ContinuationLog) :
    launches log ≤ launches (logAfter repr site sha readers script calls log) := by
  induction calls generalizing log with
  | nil => exact Nat.le_refl _
  | cons call others ih => exact (launches_le_record call log).trans (ih _)

theorem launches_record_le {calls : List ContinuationCall} {log : ContinuationLog} {record : CallRecord}
    (member : record ∈ runCalls repr site sha readers script calls log) :
    launches record.after ≤ launches (logAfter repr site sha readers script calls log) := by
  induction calls generalizing log with
  | nil => cases member
  | cons call others ih =>
    rcases List.mem_cons.mp member with rfl | later
    · exact launches_le others _
    · exact ih later

theorem not_reports {call : ContinuationCall} {log : ContinuationLog} {verdict : FixVerificationResult} :
    ¬ (recordOf repr site sha readers script call log).Reports verdict := by
  rintro ⟨⟨result, returned, -⟩, ⟨new, whole, quiet⟩, -⟩
  by_cases admitted : Admitted repr site script call log
  · have launched := launches_admitted repr site sha readers script admitted
    have none : new.countP (fun event => event.op.isLaunch) = 0 := by
      refine List.countP_eq_zero.mpr fun event member again => ?_
      have redone := redoes_of_isLaunch again
      rw [quiet event member] at redone
      cases redone
    rw [launches, whole, List.countP_append, none] at launched
    have same : (recordOf repr site sha readers script call log).before = log := rfl
    rw [same, ← launches] at launched
    omega
  · obtain ⟨failure, raised⟩ := (refused repr site sha readers script admitted).2
    rw [raised] at returned
    cases returned

/-- **Calls that are early launch once.** -/
theorem launches_of_early {calls : List ContinuationCall} {log : ContinuationLog}
    (early : ∀ record ∈ runCalls repr site sha readers script calls log,
      record.Early repr site script) (bounded : launches log ≤ 1) :
    launches (logAfter repr site sha readers script calls log) ≤ 1 := by
  induction calls generalizing log with
  | nil => exact bounded
  | cons call others ih =>
    rw [runCalls, List.forall_mem_cons] at early
    refine ih early.2 ?_
    by_cases admitted : Admitted repr site script call log
    · rcases early.1.first with none | other
      · have launched := launches_admitted repr site sha readers script admitted
        rw [show launches log = 0 from none] at launched
        exact launched.le
      · exact absurd admitted other
    · rw [(refused repr site sha readers script admitted).1]
      exact bounded

variable (repr site sha readers script)

/-- **When Codex runs at most once for an operation**: exactly if no call comes behind a verdict, and no
call is admitted behind a launch. -/
theorem runs_once_iff (calls : List ContinuationCall) :
    RunsOnce repr site sha readers script calls ↔
      ∀ record ∈ runCalls repr site sha readers script calls [], record.Early repr site script := by
  constructor
  · intro once record member
    have made := record_eq member
    constructor
    · by_contra decided
      obtain ⟨verdict, persisted⟩ := Option.ne_none_iff_exists'.mp decided
      have reports := once.later record member verdict persisted
      rw [made] at reports
      exact not_reports reports
    · by_contra both
      obtain ⟨launched, admitted⟩ := not_or.mp both
      have again := launches_admitted repr site sha readers script (not_not.mp admitted)
      rw [← made] at again
      have bounded := (launches_record_le member).trans once.once
      omega
  · intro early
    refine ⟨launches_of_early early (Nat.zero_le 1), fun record member verdict persisted => ?_⟩
    rw [(early record member).undecided] at persisted
    cases persisted

/-! ### A second call -/

/-- Codex succeeds whenever it is launched, and the scan finds nothing. -/
def relaunchScript : Script continuationSignature := fun log op =>
  match op with
  | .disk => (⟨id, fun _ => true, fun _ => true, ["repo"]⟩ : Disk)
  | .readHandoff _ => HandoffFile.document (.obj secretHandoff)
  | .persistEnvelope _ | .persistLaunchResult _ => (.ok () : Except Failure Unit)
  | .launch _ _ => (.ok ⟨some (launches log), 0, "codex_completed", ["codex", "exec", "-"], "", ""⟩ :
      Except Failure Launched)
  | .verifier op => calmScript [] op

def fixSite : ContinuationSite := ⟨"fix-1", ["store", "fix-1"]⟩

def fixCall : ContinuationCall :=
  ⟨"/store/fix-1/qualified-fix-handoff.json", .null, .null, ["src/app.py"], true⟩

def twoCalls : List CallRecord :=
  runCalls plainRepr fixSite Aflow.sha256 plainReaders relaunchScript [fixCall, fixCall] []

/-- **A second call launches Codex again**, and pairs the verdict on the first launch with the second. -/
theorem second_call_launches :
    twoCalls.map (fun record => (launches record.before, launches record.after)) = [(0, 1), (1, 2)] ∧
      twoCalls.map (fun record => (verdictOf plainRepr record.before).map FixVerificationResult.passed) =
        [none, some true] ∧
      twoCalls.map (fun record => record.ended.toOption.map fun result =>
        (result.pid, result.verificationPassed)) = [some (some 0, true), some (some 1, true)] ∧
      ¬ RunsOnce plainRepr fixSite Aflow.sha256 plainReaders relaunchScript [fixCall, fixCall] := by
  have launched : launches (logAfter plainRepr fixSite Aflow.sha256 plainReaders relaunchScript
      [fixCall, fixCall] []) = 2 := by
    decide +kernel
  refine ⟨by decide +kernel, by decide +kernel, by decide +kernel, fun runs => ?_⟩
  have once := runs.once
  rw [launched] at once
  exact absurd once (by decide)

end Audisor.Fix
