/-
**The tool policy holds for every model behaviour.**

* `Permitted` — allowed, not prohibited, and not subject to approval. `NeedsApproval` — allowed, not
  prohibited, and subject to approval.
* `destination_spec` — what each destination of a call says of its name.
* `Chain` — any calls of `run` and `resume`, one after another, against any provider, executor, clock
  and caller. The last one may still be running, and a call may have left with an exception.
* **`policy_enforced`** — along every chain only permitted names are executed or handed to the
  frontend, and a name that needs approval surfaces in an approval suspension only.
-/

import Audisor.Tooling.Loop
import Audisor.Interaction.Scripted

namespace Audisor.Tooling

open Interaction Json Controller

variable {loop : ToolLoop} {config : ToolLoopConfig} {name : Json}

/-- A name that the policy lets through without an operator. -/
def Permitted (config : ToolLoopConfig) (name : Json) : Prop :=
  ∃ tool ∈ (config.allowedTools \ config.prohibitedTools) \ config.approvalRequiredTools,
    name = .str tool

/-- A name that the policy lets through with an operator's approval. -/
def NeedsApproval (config : ToolLoopConfig) (name : Json) : Prop :=
  ∃ tool ∈ (config.allowedTools \ config.prohibitedTools) ∩ config.approvalRequiredTools,
    name = .str tool

/-! ### Where a call goes -/

theorem isIn_str (tools : Finset String) (tool : String) :
    isIn tools (.str tool) = .ok (decide (tool ∈ tools)) := rfl

theorem isToolAllowed_eq_ok_true :
    config.isToolAllowed name = .ok true ↔
      ∃ tool ∈ config.allowedTools \ config.prohibitedTools, name = .str tool := by
  cases name with
  | str tool =>
    by_cases prohibited : tool ∈ config.prohibitedTools <;>
      simp [ToolLoopConfig.isToolAllowed, isIn_str, prohibited, bind, Except.bind, pure, Except.pure]
  | _ => simp [ToolLoopConfig.isToolAllowed, isIn, bind, Except.bind]

def Destination.Says (loop : ToolLoop) (name : Json) : Destination → Prop
  | .blocked => True
  | .approval => NeedsApproval loop.config name
  | .backend => loop.hasExecutor = true ∧ Permitted loop.config name
  | .frontend => Permitted loop.config name

/-- **The destination of a call agrees with the policy.** -/
theorem destination_spec {destination : Destination}
    (sent : loop.destination name = .ok destination) : destination.Says loop name := by
  unfold ToolLoop.destination at sent
  cases allowed : loop.config.isToolAllowed name with
  | error error =>
    rw [allowed] at sent
    cases sent
  | ok allowedHere =>
    rw [allowed] at sent
    cases allowedHere with
    | false =>
      cases sent
      trivial
    | true =>
      obtain ⟨tool, member, rfl⟩ := isToolAllowed_eq_ok_true.mp allowed
      simp only [bind, Except.bind, ToolLoopConfig.requiresApproval, isIn_str, Bool.not_true,
        Bool.false_eq_true, if_false] at sent
      by_cases required : tool ∈ loop.config.approvalRequiredTools
      · simp only [required, decide_true, if_true, pure, Except.pure] at sent
        cases sent
        exact ⟨tool, Finset.mem_inter.mpr ⟨member, required⟩, rfl⟩
      · have permitted : Permitted loop.config (.str tool) :=
          ⟨tool, Finset.mem_sdiff.mpr ⟨member, required⟩, rfl⟩
        cases executor : loop.hasExecutor with
        | false =>
          simp [required, executor, pure, Except.pure] at sent
          subst sent
          exact permitted
        | true =>
          simp only [required, executor, decide_false, Bool.false_eq_true, if_false, if_true,
            canExecuteBackend, isIn_str, bind, Except.bind, pure, Except.pure] at sent
          split at sent <;> cases sent
          · exact ⟨executor, permitted⟩
          · exact permitted

/-- The sorted calls agree with the policy. -/
structure SortedCalls.Right (loop : ToolLoop) (sorted : SortedCalls) : Prop where
  backend : ∀ call ∈ sorted.backend, loop.hasExecutor = true ∧ Permitted loop.config call.name
  frontend : ∀ call ∈ sorted.frontend, Permitted loop.config call.toolName
  approval : ∀ call ∈ sorted.approval, NeedsApproval loop.config call.toolName

theorem SortedCalls.Right.add {sorted : SortedCalls} (right : sorted.Right loop) {call : ReadCall}
    {destination : Destination} (agrees : destination.Says loop call.name) :
    (sorted.add call destination).Right loop := by
  cases destination with
  | blocked => exact ⟨right.backend, right.frontend, right.approval⟩
  | approval =>
    refine ⟨right.backend, right.frontend, fun other member => ?_⟩
    rcases List.mem_append.mp member with before | here
    · exact right.approval other before
    · rw [List.mem_singleton.mp here]
      exact agrees
  | backend =>
    refine ⟨fun other member => ?_, right.frontend, right.approval⟩
    rcases List.mem_append.mp member with before | here
    · exact right.backend other before
    · rw [List.mem_singleton.mp here]
      exact agrees
  | frontend =>
    refine ⟨right.backend, fun other member => ?_, right.approval⟩
    rcases List.mem_append.mp member with before | here
    · exact right.frontend other before
    · rw [List.mem_singleton.mp here]
      exact agrees

/-! ### What a loop asks and answers -/

/-- The machine of the policy: it executes permitted names only. -/
def policy (config : ToolLoopConfig) : Protocol loopSignature Unit where
  Move := fun _ op _ _ => ∀ name arguments, op = .execute name arguments → Permitted config name
  Rest := fun _ => True

def ToolLoopOutcome.Right (config : ToolLoopConfig) : ToolLoopOutcome → Prop
  | .completed _ _ _ _ | .failed _ _ _ => True
  | .suspendedForTool pendingCalls _ _ _ _ => ∀ call ∈ pendingCalls, Permitted config call.toolName
  | .suspendedForApproval toolCall _ _ _ _ _ => NeedsApproval config toolCall.toolName

section Follows

variable {α β : Type} {Q : Unit → α → Prop}

theorem follows_ask {op : LoopOp} {rest : op.Answer → Loop α}
    (other : ∀ name arguments, op ≠ .execute name arguments)
    (each : ∀ answer, Follows (policy config) () (rest answer) Q) :
    Follows (policy config) () (ask op >>= rest) Q :=
  fun answer => ⟨(), fun name arguments same => absurd same (other name arguments), each answer⟩

theorem follows_executeTool {arguments : Json} {rest : ToolExecutionResult → Loop α}
    (permitted : Permitted config name)
    (each : ∀ result, Follows (policy config) () (rest result) Q) :
    Follows (policy config) () (executeTool name arguments >>= rest) Q := by
  intro answer
  refine ⟨(), ?_, ?_⟩
  · intro name' arguments' same
    injection same with named _
    exact named ▸ permitted
  · cases answer with
    | ok result => exact each result
    | error error => trivial

theorem follows_ofExcept {result : Except PyError β} {rest : β → Loop α}
    (each : ∀ value, result = .ok value → Follows (policy config) () (rest value) Q) :
    Follows (policy config) () (Program.ofExcept result >>= rest) Q := by
  cases result with
  | ok value => exact each value rfl
  | error error => trivial

end Follows

theorem sortCalls_follows (calls : List Dict) {sorted : SortedCalls} (right : sorted.Right loop) :
    Follows (policy loop.config) () (sortCalls loop calls sorted) fun _ sorted =>
      sorted.Right loop := by
  induction calls generalizing sorted with
  | nil => exact right
  | cons tc rest ih =>
    refine follows_ask (fun _ _ same => LoopOp.noConfusion same) fun token => ?_
    refine follows_ofExcept fun call _ => ?_
    exact follows_ofExcept fun destination sent => ih (right.add (destination_spec sent))

theorem executeBackendBatch_follows (calls : List ReadCall) (state : LoopState) (results : List Dict)
    (permitted : ∀ call ∈ calls, loop.hasExecutor = true ∧ Permitted loop.config call.name) :
    Follows (policy loop.config) () (executeBackendBatch loop calls state results) fun _ _ =>
      True := by
  induction calls generalizing state results with
  | nil => trivial
  | cons call rest ih =>
    have here := permitted call List.mem_cons_self
    have later := fun call member => permitted call (List.mem_cons_of_mem _ member)
    rw [executeBackendBatch, if_pos here.1]
    refine follows_executeTool here.2 fun result => ?_
    exact follows_ask (fun _ _ same => LoopOp.noConfusion same) fun duration => ih _ _ later

theorem executeInline_follows (calls : List ReadCall) (state : LoopState)
    (permitted : ∀ call ∈ calls, loop.hasExecutor = true ∧ Permitted loop.config call.name) :
    Follows (policy loop.config) () (executeInline loop calls state) fun _ _ => True := by
  induction calls generalizing state with
  | nil => trivial
  | cons call rest ih =>
    have here := permitted call List.mem_cons_self
    have later := fun call member => permitted call (List.mem_cons_of_mem _ member)
    rw [executeInline, if_pos here.1]
    refine follows_executeTool here.2 fun result => ?_
    exact follows_ask (fun _ _ same => LoopOp.noConfusion same) fun duration => ih _ later

/-- **One response** is handled by the policy, and a suspension shows what the policy shows. -/
theorem handleToolCalls_follows (state : LoopState) (response : ProviderResponse)
    (usage : List UsageRecord) :
    Follows (policy loop.config) () (handleToolCalls loop state response usage) fun _ handled =>
      ∀ outcome, handled = .inl outcome → outcome.Right loop.config := by
  refine Follows.bind ((sortCalls_follows response.toolCalls ⟨?_, ?_, ?_⟩).mono
    fun _ sorted right => ?_)
  · exact fun _ member => absurd member List.not_mem_nil
  · exact fun _ member => absurd member List.not_mem_nil
  · exact fun _ member => absurd member List.not_mem_nil
  cases toApprove : sorted.approval with
  | cons call others =>
    refine follows_ofExcept fun continuation _ outcome same => ?_
    cases same
    exact right.approval call (toApprove ▸ List.mem_cons_self)
  | nil =>
    dsimp only
    split
    · refine Follows.bind ((executeBackendBatch_follows _ _ _ right.backend).mono fun _ done _ => ?_)
      refine follows_ofExcept fun continuation _ outcome same => ?_
      cases same
      exact right.frontend
    · split
      · refine Follows.bind ((executeInline_follows _ _ right.backend).mono fun _ next _ => ?_)
        exact fun outcome same => nomatch same
      · exact fun outcome same => nomatch same

theorem recordUsage_follows (state : LoopState) (response : ProviderResponse)
    (usage : List UsageRecord) :
    Follows (policy config) () (recordUsage loop state response usage) fun _ _ => True := by
  unfold recordUsage
  split
  · trivial
  · exact follows_ask (fun _ _ same => LoopOp.noConfusion same) fun timestamp => trivial

/-- **The loop**, on any number of iterations. -/
theorem executeLoop_follows (maxTokens : Int) (left : Nat) (state : LoopState)
    (usage : List UsageRecord) :
    Follows (policy loop.config) () (executeLoop loop maxTokens left state usage) fun _ outcome =>
      outcome.Right loop.config := by
  induction left generalizing state usage with
  | zero => trivial
  | succ left ih =>
    refine follows_ask (fun _ _ same => LoopOp.noConfusion same) fun aborted => ?_
    split
    · trivial
    refine follows_ask (fun _ _ same => LoopOp.noConfusion same) fun elapsed => ?_
    split
    · trivial
    refine follows_ask (fun _ _ same => LoopOp.noConfusion same) fun answer => ?_
    cases answer with
    | error exc => trivial
    | ok response =>
      refine Follows.bind ((recordUsage_follows _ response usage).mono fun _ recorded _ => ?_)
      dsimp only
      split
      · trivial
      refine Follows.bind ((handleToolCalls_follows recorded.1 response recorded.2).mono
        fun _ handled right => ?_)
      cases handled with
      | inl outcome => exact right outcome rfl
      | inr next => exact ih next recorded.2

/-! ### Chains of calls -/

/-- One call of the loop. -/
inductive LoopCall where
  | run (messages tools : List Dict) (maxTokens : Int)
  | resume (continuation : LoopContinuation) (toolResults : List Dict) (maxTokens : Int)

def ToolLoop.perform (loop : ToolLoop) : LoopCall → Loop ToolLoopOutcome
  | .run messages tools maxTokens => loop.run messages tools maxTokens
  | .resume continuation toolResults maxTokens => loop.resume continuation toolResults maxTokens

def outcomeOf : Loop ToolLoopOutcome → List ToolLoopOutcome
  | .done outcome => [outcome]
  | _ => []

/-- What a chain of calls asked, and the outcomes it came to: any answers, any calls. -/
inductive Chain (loop : ToolLoop) : List (Event loopSignature) → List ToolLoopOutcome → Prop
  | start : Chain loop [] []
  | call {log log' : List (Event loopSignature)} {outcomes : List ToolLoopOutcome}
      {rest : Loop ToolLoopOutcome} (earlier : Chain loop log outcomes) (call : LoopCall)
      (run : Exec (journal fun _ _ _ => True) log (loop.perform call) log' rest) :
      Chain loop log' (outcomeOf rest ++ outcomes)

def ToolLoopOutcome.pendingCalls : ToolLoopOutcome → List PendingToolCall
  | .suspendedForTool pendingCalls _ _ _ _ => pendingCalls
  | _ => []

def ToolLoopOutcome.toolCall : ToolLoopOutcome → Option PendingToolCall
  | .suspendedForApproval toolCall _ _ _ _ _ => some toolCall
  | _ => none

theorem perform_follows (call : LoopCall) :
    Follows (policy loop.config) () (loop.perform call) fun _ outcome =>
      outcome.Right loop.config := by
  cases call with
  | run messages tools maxTokens => exact executeLoop_follows maxTokens _ _ _
  | resume continuation toolResults maxTokens =>
    exact follows_ofExcept fun state _ => executeLoop_follows maxTokens _ _ _

theorem Chain.right {log : List (Event loopSignature)} {outcomes : List ToolLoopOutcome}
    (chain : Chain loop log outcomes) :
    (∀ event ∈ log, ∀ name arguments, event.op = .execute name arguments →
        Permitted loop.config name) ∧
      ∀ outcome ∈ outcomes, outcome.Right loop.config := by
  induction chain with
  | start => exact ⟨fun _ member => absurd member List.not_mem_nil,
      fun _ member => absurd member List.not_mem_nil⟩
  | @call log log' outcomes rest earlier call run ih =>
    obtain ⟨k, follows, executed⟩ := Follows.exec_invariant
      (fun log (_ : Unit) => ∀ event ∈ log, ∀ name arguments,
        event.op = .execute name arguments → Permitted loop.config name)
      (by
        intro log k op answer k' executed _ move event member
        rcases List.mem_cons.mp member with rfl | before
        · exact move
        · exact executed event before)
      run (perform_follows call) ih.1
    refine ⟨executed, fun outcome member => ?_⟩
    rcases List.mem_append.mp member with here | before
    · cases rest with
      | done value =>
        rw [List.mem_singleton.mp here]
        exact follows
      | raise error => exact absurd here List.not_mem_nil
      | ask op next => exact absurd here List.not_mem_nil
    · exact ih.2 outcome before

/-- **The tool policy is enforced along every chain of calls.** -/
theorem policy_enforced {log : List (Event loopSignature)} {outcomes : List ToolLoopOutcome}
    (chain : Chain loop log outcomes) :
    (∀ event ∈ log, ∀ name arguments, event.op = .execute name arguments →
        Permitted loop.config name) ∧
      (∀ outcome ∈ outcomes, ∀ call ∈ outcome.pendingCalls,
        Permitted loop.config call.toolName) ∧
      (∀ outcome ∈ outcomes, ∀ call ∈ outcome.toolCall,
        NeedsApproval loop.config call.toolName) ∧
      ∀ tool ∈ loop.config.approvalRequiredTools,
        (∀ event ∈ log, ∀ arguments, event.op ≠ .execute (.str tool) arguments) ∧
          ∀ outcome ∈ outcomes, ∀ call ∈ outcome.pendingCalls, call.toolName ≠ .str tool := by
  obtain ⟨executed, right⟩ := chain.right
  have pending : ∀ outcome ∈ outcomes, ∀ call ∈ outcome.pendingCalls,
      Permitted loop.config call.toolName := by
    intro outcome member call listed
    have shown := right outcome member
    cases outcome with
    | suspendedForTool pendingCalls continuation usage toolTrace results => exact shown call listed
    | _ => exact absurd listed List.not_mem_nil
  have approved : ∀ outcome ∈ outcomes, ∀ call ∈ outcome.toolCall,
      NeedsApproval loop.config call.toolName := by
    intro outcome member call listed
    have shown := right outcome member
    cases outcome with
    | suspendedForApproval toolCall reason riskLevel continuation usage toolTrace =>
      rw [← Option.some.inj listed]
      exact shown
    | _ => cases listed
  have unpermitted : ∀ tool ∈ loop.config.approvalRequiredTools,
      ¬Permitted loop.config (.str tool) := by
    rintro tool required ⟨other, member, same⟩
    rw [Json.str.inj same] at required
    exact (Finset.mem_sdiff.mp member).2 required
  refine ⟨executed, pending, approved, fun tool required => ⟨?_, ?_⟩⟩
  · intro event member arguments same
    exact unpermitted tool required (executed event member _ arguments same)
  · intro outcome member call listed same
    exact unpermitted tool required (same ▸ pending outcome member call listed)

/-- A scan in the execution adapter's loop, followed by the final answer. -/
def scanProgram : Loop ToolLoopOutcome :=
  executionLoop.run [[("role", .str "user"), ("content", .str "scan")]] [] 2048

def scanScript : Script loopSignature :=
  scripted [{ toolCalls := [pathCall "c1" "audisor_scan", pathCall "c2" "file_write"] }]

/-- The scan is executed, so its name is permitted. -/
theorem scan_permitted : Permitted executionLoop.config (.str "audisor_scan") := by
  have chain : Chain executionLoop (scanProgram.journalOf scanScript []) _ :=
    .call .start (.run _ _ _) (exec_journalOf (fun _ _ => trivial) scanProgram [])
  have executed : (⟨.execute (.str "audisor_scan") (.obj [("path", .str "/src")]),
      .ok { output := "scan result" }⟩ : Event loopSignature) ∈ scanProgram.journalOf scanScript [] := by
    decide +kernel
  exact (policy_enforced chain).1 _ executed _ _ rfl

end Audisor.Tooling
