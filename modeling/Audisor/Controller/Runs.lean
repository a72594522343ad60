/-
**Runs of the controller.**

* `Log` — the journal of a controller: what its calls asked, with the answers. `stored` — what the
  store holds then: of each operation the record saved last.
* `Reachable c log` — calls were made one after the other, each run to its end or broken off anywhere,
  with any answers of the adapters.
* `Coherent` — between its questions, a call holds the very record that is stored.
* **`RunInvariant`** — what every move of the protocol preserves holds in every reachable log and at
  every point of a call.
* `play`, `session`, `interleave` — a run from a script of answers.
-/

import Audisor.Controller.Simulation
import Audisor.Interaction.Outcome
import Audisor.Interaction.Interleaving

namespace Audisor.Controller

open Interaction Json

/-- The journal of a controller, the newest event first. -/
abbrev Log := List (Event controllerSignature)

/-! ### The store -/

def stored : Log → String → Option OperationRecord
  | [], _ => none
  | ⟨.save record, _⟩ :: older, operationId =>
    if record.operationId = operationId then some record else stored older operationId
  | _ :: older, operationId => stored older operationId

theorem stored_save (record : OperationRecord) (answer : Unit) (log : Log) (operationId : String) :
    stored (⟨ControllerOp.save record, answer⟩ :: log) operationId =
      if record.operationId = operationId then some record else stored log operationId := rfl

@[simp] theorem stored_save_self (record : OperationRecord) (answer : Unit) (log : Log) :
    stored (⟨ControllerOp.save record, answer⟩ :: log) record.operationId = some record :=
  if_pos rfl

def ControllerOp.Reads : ControllerOp → Prop
  | save _ => False
  | _ => True

theorem stored_of_reads {op : ControllerOp} (reads : op.Reads) (answer : op.Answer) (log : Log)
    (operationId : String) :
    stored ((⟨op, answer⟩ : Event controllerSignature) :: log) operationId =
      stored log operationId := by
  cases op with
  | save record => exact reads.elim
  | _ => rfl

theorem stored_operationId {log : Log} {operationId : String} {record : OperationRecord}
    (found : stored log operationId = some record) : record.operationId = operationId := by
  induction log with
  | nil => cases found
  | cons event older ih =>
    obtain ⟨op, answer⟩ := event
    cases op with
    | save saved =>
      rw [stored_save] at found
      split at found
      · rename_i same
        cases found
        exact same
      · exact ih found
    | _ => exact ih found

theorem saved_of_stored {log : Log} {operationId : String} {record : OperationRecord}
    (found : stored log operationId = some record) : ⟨ControllerOp.save record, ()⟩ ∈ log := by
  induction log with
  | nil => cases found
  | cons event older ih =>
    obtain ⟨op, answer⟩ := event
    cases op with
    | save saved =>
      rw [stored_save] at found
      split at found
      · cases found
        exact List.mem_cons_self
      · exact List.mem_cons_of_mem _ (ih found)
    | _ => exact List.mem_cons_of_mem _ (ih found)

/-! ### Runs -/

/-- A load is answered by the store; anything else, by anything. -/
def answersAs (log : Log) : (op : ControllerOp) → op.Answer → Prop
  | .load operationId, answer => answer = stored log operationId
  | .save _, _ | .append _ _ _ _, _ | .createPlan _ _, _ | .resumePlan _ _, _ | .review _ _ _, _
  | .fulfil _ _ _, _ | .execute _ _ _, _ | .resumeExecution _ _, _ | .chatTurn _ _ _, _
  | .tokenHex _, _ | .uuid4Hex, _ => True

def world : Environment controllerSignature Log := journal answersAs

/-- The logs of all runs: calls one after the other, each run to its end or broken off. -/
inductive Reachable (c : OperationController) : Log → Prop
  | empty : Reachable c []
  | call {log log' : Log} {p : Ctl OperationControllerResult} (request : Request)
      (before : Reachable c log) (run : Exec world log (c.handle request) log' p) : Reachable c log'

/-- Between its questions, a call holds the very record that is stored. -/
def Coherent (log : Log) (k : CallState) : Prop :=
  k ≠ .vanished ∧ ∀ record, k.record? = some record → stored log record.operationId = some record

variable {c : OperationController} {log log' : Log} {k k' : CallState}

theorem Request.entry_record? (request : Request) : request.entry.record? = none := by
  cases request <;> rfl

theorem coherent_entry (log : Log) (request : Request) : Coherent log request.entry := by
  refine ⟨by cases request <;> exact fun same => CallState.noConfusion same, fun record held => ?_⟩
  rw [request.entry_record?] at held
  cases held

theorem Saves.record? {record : OperationRecord} (saves : Saves c k record k') :
    k'.record? = some record := by
  cases saves <;> rfl

theorem Saves.ne_vanished {record : OperationRecord} (saves : Saves c k record k') :
    k' ≠ .vanished := by
  cases saves <;> exact fun same => CallState.noConfusion same

theorem Coherent.keep {op : ControllerOp} (coherent : Coherent log k)
    (reads : op.Reads) (answer : op.Answer) (present : k' ≠ .vanished)
    (same : k'.record? = k.record?) :
    Coherent ((⟨op, answer⟩ : Event controllerSignature) :: log) k' := by
  refine ⟨present, fun record held => ?_⟩
  rw [stored_of_reads reads]
  exact coherent.2 record (same ▸ held)

theorem answeredState_record? {record : OperationRecord} {returned : Dict → CallState}
    (holds : ∀ result, (returned result).record? = some record) (answer : AdapterAnswer) :
    (answeredState record returned answer).record? = some record := by
  cases answer with
  | ok result => exact holds result
  | error error => rfl

theorem answeredState_keeps {record : OperationRecord} {returned : Dict → CallState}
    (holds : ∀ result, (returned result).record? = some record) (answer : AdapterAnswer) :
    (answeredState record returned answer).record? = some record ∧
      answeredState record returned answer ≠ .vanished ∧
      (answeredState record returned answer = .fresh → k = .fresh) := by
  have held := answeredState_record? holds answer
  refine ⟨held, fun gone => ?_, fun fresh => ?_⟩
  · rw [gone] at held
    cases held
  · rw [fresh] at held
    cases held

/-- **What adapters and events leave of a call**: the record it holds. -/
theorem Moves.keeps {op : ControllerOp} {answer : op.Answer} (move : Moves c k op answer k')
    (reads : op.Reads) (blind : ∀ operationId, op ≠ .load operationId) (present : k ≠ .vanished) :
    k'.record? = k.record? ∧ k' ≠ .vanished ∧ (k' = .fresh → k = .fresh) := by
  cases move with
  | save => exact reads.elim
  | append => exact ⟨rfl, present, id⟩
  | token => exact ⟨rfl, present, id⟩
  | uuid => exact ⟨rfl, present, id⟩
  | loaded operationId => exact absurd rfl (blind operationId)
  | missing operationId => exact absurd rfl (blind operationId)
  | vanished => exact absurd rfl (blind _)
  | anything => exact absurd rfl present
  | createPlan _ _ answer _ => exact answeredState_keeps (fun _ => rfl) answer
  | resumePlan _ answer _ => exact answeredState_keeps (fun _ => rfl) answer
  | review _ _ answer _ => exact answeredState_keeps (fun _ => rfl) answer
  | fulfil _ _ _ answer _ => exact answeredState_keeps (fun _ => rfl) answer
  | execute _ _ answer _ _ => exact answeredState_keeps (fun _ => rfl) answer
  | resumeExecution _ answer _ => exact answeredState_keeps (fun _ => rfl) answer

theorem Coherent.step {op : ControllerOp} {answer : op.Answer} (coherent : Coherent log k)
    (answered : answersAs log op answer) (move : Moves c k op answer k') :
    Coherent ((⟨op, answer⟩ : Event controllerSignature) :: log) k' := by
  cases op with
  | save next =>
    cases move with
    | save saves =>
      refine ⟨saves.ne_vanished, fun record held => ?_⟩
      rw [saves.record?] at held
      cases held
      exact stored_save_self _ _ _
    | anything => exact absurd rfl coherent.1
  | load operationId =>
    cases move with
    | loaded _ record =>
      refine ⟨CallState.noConfusion, fun held same => ?_⟩
      cases same
      have found : stored log operationId = some record := Eq.symm answered
      rw [stored_of_reads (by trivial), stored_operationId found]
      exact found
    | missing => exact ⟨CallState.noConfusion, fun _ held => by cases held⟩
    | vanished held rests =>
      have gone : none = stored log _ := answered
      rw [coherent.2 _ held] at gone
      cases gone
    | anything => exact absurd rfl coherent.1
  | _ =>
    obtain ⟨same, present, _⟩ :=
      move.keeps (by trivial) (fun _ loads => ControllerOp.noConfusion loads) coherent.1
    exact coherent.keep (by trivial) _ present same

/-! ### The invariant rule -/

/-- A property of the log and of the running call that every move preserves. -/
structure RunInvariant (c : OperationController) (Inv : Log → CallState → Prop) : Prop where
  empty : ∀ request : Request, Inv [] request.entry
  entry : ∀ {log k}, Inv log k → ∀ request : Request, Inv log request.entry
  step : ∀ {log k} {op : ControllerOp} {answer : op.Answer} {k'}, Coherent log k → Inv log k →
    answersAs log op answer → Moves c k op answer k' → Inv (⟨op, answer⟩ :: log) k'

namespace RunInvariant

variable {Inv : Log → CallState → Prop}

/-- **Along one call** the invariant holds, of a state that simulates what is left of the call. -/
theorem along (invariant : RunInvariant c Inv) {request : Request}
    {p : Ctl OperationControllerResult} (run : Exec world log (c.handle request) log' p)
    (holds : Inv log request.entry) :
    ∃ k, Follows (protocol c) k p (fun k' _ => Rests k') ∧ Coherent log' k ∧ Inv log' k :=
  Follows.exec_invariant (fun log k => Coherent log k ∧ Inv log k)
    (fun _ _ _ _ _ before answered move =>
      ⟨before.1.step answered move, invariant.step before.1 before.2 answered move⟩)
    run (handle_follows c request) ⟨coherent_entry log request, holds⟩

/-- **The invariant rule**: an invariant holds where the next call begins. -/
theorem reachable (invariant : RunInvariant c Inv) (reachable : Reachable c log)
    (request : Request) : Inv log request.entry := by
  induction reachable generalizing request with
  | empty => exact invariant.empty request
  | call earlier _ run ih =>
    obtain ⟨k, _, _, holds⟩ := invariant.along run (ih earlier)
    exact invariant.entry holds request

theorem of_records {Facts : OperationRecord → Prop}
    (saved : ∀ {k k' next}, Saves c k next k' →
      (∀ record, k.record? = some record → Facts record) → Facts next) :
    RunInvariant c fun log _ => ∀ operationId record,
      stored log operationId = some record → Facts record where
  empty _ _ _ found := by cases found
  entry holds _ := holds
  step {log k op answer k'} coherent holds _ move := by
    intro operationId record found
    cases op with
    | save next =>
      rw [stored_save] at found
      split at found
      · cases found
        have entered : k ≠ .vanished := coherent.1
        cases move with
        | save saves =>
          exact saved saves fun held holding => holds _ held (coherent.2 held holding)
        | anything => exact absurd rfl entered
      · exact holds operationId record found
    | _ => exact holds operationId record found

end RunInvariant

/-! ### Outcomes of the questions -/

section Outcomes

variable {β : Type} {Q : Log → Ctl β → Prop}

theorem world_total (log : Log) (op : ControllerOp) : ∃ answer, world.answers log op answer := by
  cases op with
  | load operationId => exact ⟨stored log operationId, rfl⟩
  | save record => exact ⟨(), trivial⟩
  | append operationId state eventType payload => exact ⟨(), trivial⟩
  | tokenHex bytes => exact ⟨"", trivial⟩
  | uuid4Hex => exact ⟨"", trivial⟩
  | _ => exact ⟨.ok [], trivial⟩

theorem outcome_load {operationId : String} {rest : Option OperationRecord → Ctl β}
    (further : Outcome world (⟨ControllerOp.load operationId, stored log operationId⟩ :: log)
      (rest (stored log operationId)) Q) :
    Outcome world log (load operationId >>= rest) Q := by
  refine outcome_ask fun answer answered => ?_
  cases (show answer = stored log operationId from answered)
  exact further

theorem outcome_save {record : OperationRecord} {rest : Unit → Ctl β}
    (further : Outcome world (⟨ControllerOp.save record, ()⟩ :: log) (rest ()) Q) :
    Outcome world log (save record >>= rest) Q :=
  outcome_ask fun _ _ => further

theorem outcome_tokenHex {bytes : Nat} {rest : String → Ctl β}
    (further : ∀ token, Outcome world (⟨ControllerOp.tokenHex bytes, token⟩ :: log) (rest token) Q) :
    Outcome world log (tokenHex bytes >>= rest) Q :=
  outcome_ask fun token _ => further token

theorem outcome_emit {record : OperationRecord} {eventType : String} {payload : Dict}
    {rest : Unit → Ctl β}
    (further : ∀ log', (∀ operationId, stored log' operationId = stored log operationId) →
      Outcome world log' (rest ()) Q) :
    Outcome world log (emit c record eventType payload >>= rest) Q := by
  unfold emit
  split
  · exact further log fun _ => rfl
  · rw [bind_assoc]
    refine outcome_ask fun _ _ => ?_
    split
    · exact outcome_ask fun _ _ => further _ fun _ => rfl
    · exact further _ fun _ => rfl

end Outcomes

/-! ### Scripted runs -/

/-- One line of a script: what an adapter answers, or a random text. -/
inductive Reply where
  | adapter (answer : AdapterAnswer)
  | text (text : String)

/-- The answer to a question, and what is left of the script. -/
def reply (log : Log) : (op : ControllerOp) → List Reply → Option (op.Answer × List Reply)
  | .load operationId, script => some (stored log operationId, script)
  | .save _, script => some ((), script)
  | .append _ _ _ _, script => some ((), script)
  | .createPlan _ _, .adapter answer :: script => some (answer, script)
  | .resumePlan _ _, .adapter answer :: script => some (answer, script)
  | .review _ _ _, .adapter answer :: script => some (answer, script)
  | .fulfil _ _ _, .adapter answer :: script => some (answer, script)
  | .execute _ _ _, .adapter answer :: script => some (answer, script)
  | .resumeExecution _ _, .adapter answer :: script => some (answer, script)
  | .chatTurn _ _ _, .adapter answer :: script => some (answer, script)
  | .tokenHex _, .text text :: script => some (text, script)
  | .uuid4Hex, .text text :: script => some (text, script)
  | _, _ => none

theorem reply_answersAs {op : ControllerOp} {script rest : List Reply} {answer : op.Answer}
    (replied : reply log op script = some (answer, rest)) : answersAs log op answer := by
  cases op with
  | load operationId =>
    simp only [reply, Option.some.injEq, Prod.mk.injEq] at replied
    exact replied.1.symm
  | _ => trivial

def play {α : Type} : Ctl α → Log → List Reply → Log × Ctl α
  | .done value, log, _ => (log, .done value)
  | .raise error, log, _ => (log, .raise error)
  | .ask op next, log, script =>
    match reply log op script with
    | none => (log, .ask op next)
    | some (answer, rest) => play (next answer) (⟨op, answer⟩ :: log) rest

theorem play_exec {α : Type} (p : Ctl α) (log : Log) (script : List Reply) :
    Exec world log p (play p log script).1 (play p log script).2 := by
  induction p generalizing log script with
  | done value => exact .refl _ _
  | raise error => exact .refl _ _
  | ask op next ih =>
    unfold play
    cases replied : reply log op script with
    | none => exact .refl _ _
    | some outcome =>
      obtain ⟨answer, rest⟩ := outcome
      exact .ask answer (reply_answersAs replied) (ih answer _ rest)

/-- The turns of some threads, one line of the schedule for each: the thread, and its answer. -/
def interleave {α : Type} (base : Log) : List (Nat × List Reply) → (Nat → Ctl α) →
    List (Turn controllerSignature) → (Nat → Ctl α) × List (Turn controllerSignature)
  | [], threads, turns => (threads, turns)
  | (thread, script) :: rest, threads, turns =>
    match threads thread with
    | .ask op next =>
      match reply (logOf base turns) op script with
      | some (answer, _) =>
        interleave base rest (Function.update threads thread (next answer))
          (⟨thread, op, answer⟩ :: turns)
      | none => (threads, turns)
    | _ => (threads, turns)

theorem interleave_interleaving {α : Type} {base : Log} {start : Nat → Ctl α}
    (schedule : List (Nat × List Reply)) (threads : Nat → Ctl α)
    (turns : List (Turn controllerSignature))
    (before : Interleaving answersAs base start threads turns) :
    Interleaving answersAs base start (interleave base schedule threads turns).1
      (interleave base schedule threads turns).2 := by
  induction schedule generalizing threads turns with
  | nil => exact before
  | cons line rest ih =>
    obtain ⟨thread, script⟩ := line
    unfold interleave
    split
    · rename_i op next asks
      split
      · rename_i answer _ replied
        exact ih _ _ (.turn before thread answer asks (reply_answersAs replied))
      · exact before
    · exact before

def session (c : OperationController) : List (Request × List Reply) → Log → Log
  | [], log => log
  | (request, script) :: rest, log => session c rest (play (c.handle request) log script).1

theorem session_reachable (c : OperationController) (calls : List (Request × List Reply))
    (log : Log) (before : Reachable c log) : Reachable c (session c calls log) := by
  induction calls generalizing log with
  | nil => exact before
  | cons call rest ih => exact ih _ (.call call.1 before (play_exec _ _ _))

theorem stored_of_any {operationId : String} {P : OperationRecord → Prop} [DecidablePred P]
    (holds : (stored log operationId).any (fun record => P record) = true) :
    ∃ record, stored log operationId = some record ∧ P record := by
  cases found : stored log operationId with
  | none =>
    rw [found] at holds
    cases holds
  | some record =>
    rw [found, Option.any_some] at holds
    exact ⟨record, rfl, of_decide_eq_true holds⟩

/-- The canonical text of a listing command with this call id. -/
def listingText (callId : String) : String :=
  (Json.obj [("arguments", .obj [("command", .str "ls")]), ("call_id", .str callId),
    ("tool_name", .str "shell_exec")]).dumps { compact := true }

/-- SHA-256 on the canonical texts of the calls in the scripts. -/
def scriptSha256 (text : String) : String :=
  if text = listingText "call-1" then
    "7151f84f13e2eba597694d7bb6d8ff5c426dd5eea7a3ba62d0009c4b3ea961dc"
  else if text = listingText "call-2" then
    "c94ff046faf6b3853bc8d8312f7b9d7e2a3f927d89f6c78ad572e90e7e111a33"
  else ""

def OperationController.complete : OperationController where
  hasPlanning := true
  hasReview := true
  hasFulfilment := true
  hasExecution := true
  hasChat := true
  hasEvents := true
  recursionLimit := 1000
  sha256 := scriptSha256

end Audisor.Controller
