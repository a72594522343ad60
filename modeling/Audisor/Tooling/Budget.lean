/-
**The iteration budget spans suspensions.**

* `chain` — a run of the loop, and resumptions, each with the text of the last continuation read back.
* `Budget` — the provider calls a chain may still make, and the provider's last answer.
* `Decides` — what the last answer leads to by itself: a reply, a failed call, or a suspension.
* `Accounts` — an outcome keeps the books: the iterations in its continuation and the calls that are
  left make up the budget, and it fails with `loop_limit_exceeded` only when none is left.
* **`budget_spans`** — a chain makes `max_iterations` provider calls at most; when it has made them, its
  outcome is decided by the last answer or is `loop_limit_exceeded`, and any further resumption calls no
  provider and is `loop_limit_exceeded`.
-/

import Audisor.Interaction.Tallies
import Audisor.Tooling.Transparency

namespace Audisor.Tooling

open Interaction Json Controller

variable {loop : ToolLoop}

/-! ### Chains of resumptions -/

def ToolLoopOutcome.continuation? : ToolLoopOutcome → Option LoopContinuation
  | .suspendedForTool _ continuation _ _ _ => some continuation
  | .suspendedForApproval _ _ _ continuation _ _ => some continuation
  | .completed _ _ _ _ | .failed _ _ _ => none

/-- Resume from the text of the continuation, where there is one. -/
def continueWith (loop : ToolLoop) (outcome : ToolLoopOutcome)
    (resumption : List Dict × Int) : Loop ToolLoopOutcome :=
  match outcome.continuation? with
  | some continuation => do
    let continuation ← Program.ofExcept (LoopContinuation.deserialize continuation.serialize)
    loop.resume continuation resumption.1 resumption.2
  | none => return outcome

def resumeEach (loop : ToolLoop) : List (List Dict × Int) → ToolLoopOutcome → Loop ToolLoopOutcome
  | [], outcome => return outcome
  | resumption :: rest, outcome => do
    let outcome ← continueWith loop outcome resumption
    resumeEach loop rest outcome

/-- A run, and resumptions with these tool results and token limits. -/
def chain (loop : ToolLoop) (messages tools : List Dict) (maxTokens : Int)
    (resumptions : List (List Dict × Int)) : Loop ToolLoopOutcome := do
  let outcome ← loop.run messages tools maxTokens
  resumeEach loop resumptions outcome

/-- How many provider calls a journal has. -/
abbrev calls (log : List (Event loopSignature)) : Nat :=
  asked (S := loopSignature) (fun op => LoopOp.isCall op = true) log

def lastAnswer : List (Event loopSignature) → Option (Except String ProviderResponse)
  | [] => none
  | ⟨.call _ _ _ _ _, answer⟩ :: _ => some answer
  | _ :: older => lastAnswer older

def ToolLoopOutcome.AtLimit (outcome : ToolLoopOutcome) : Prop :=
  ∃ usage toolTrace, outcome = .failed "loop_limit_exceeded" usage toolTrace

/-- The outcomes that the provider's last answer leads to by itself. -/
inductive Decides : Option (Except String ProviderResponse) → ToolLoopOutcome → Prop
  | error (exc : String) (usage : List UsageRecord) (toolTrace : List ToolTraceEntry) :
      Decides (some (.error exc)) (.failed ("provider_error: " ++ exc) usage toolTrace)
  | completed (response : ProviderResponse) (final : response.toolCalls = [])
      (usage : List UsageRecord) (toolTrace : List ToolTraceEntry) :
      Decides (some (.ok response))
        (.completed response.text usage toolTrace response.finishReason)
  | suspended (response : ProviderResponse) (asks : response.toolCalls ≠ [])
      {outcome : ToolLoopOutcome} {continuation : LoopContinuation}
      (kept : outcome.continuation? = some continuation) : Decides (some (.ok response)) outcome

/-! ### The books of a chain -/

/-- The provider calls that a chain may still make, and the provider's last answer. -/
structure Budget where
  left : Nat
  last : Option (Except String ProviderResponse)

def Budget.Spends (k : Budget) : (op : LoopOp) → op.Answer → Budget → Prop
  | .call _ _ _ _ _, answer, k' => k.left = k'.left + 1 ∧ k'.last = some answer
  | _, _, k' => k' = k

def budgeting : Protocol loopSignature Budget := ⟨Budget.Spends, fun _ => True⟩

/-- An outcome keeps the books. -/
structure Accounts (loop : ToolLoop) (k : Budget) (outcome : ToolLoopOutcome) : Prop where
  spent : k.left = 0 → outcome.AtLimit ∨ Decides k.last outcome
  atLimit : outcome.AtLimit → k.left = 0
  kept : ∀ continuation, outcome.continuation? = some continuation →
    continuation.loopIteration + k.left = loop.config.maxIterations

section Books

variable {α β : Type} {Q : Budget → α → Prop} {k : Budget}

theorem books_ask {op : LoopOp} (other : op.isCall = false) {rest : op.Answer → Loop α}
    (further : ∀ answer, Follows budgeting k (rest answer) Q) :
    Follows budgeting k (ask op >>= rest) Q := by
  intro answer
  refine ⟨k, ?_, further answer⟩
  cases op with
  | call => cases other
  | _ => rfl

theorem books_executeTool {toolName arguments : Json} {rest : ToolExecutionResult → Loop α}
    (further : ∀ result, Follows budgeting k (rest result) Q) :
    Follows budgeting k (executeTool toolName arguments >>= rest) Q := by
  intro answer
  refine ⟨k, rfl, ?_⟩
  cases answer with
  | ok result => exact further result
  | error error => trivial

theorem books_ofExcept {result : Except PyError β} {rest : β → Loop α}
    (further : ∀ value, result = .ok value → Follows budgeting k (rest value) Q) :
    Follows budgeting k (Program.ofExcept result >>= rest) Q := by
  cases result with
  | ok value => exact further value rfl
  | error error => trivial

theorem books_call {messages tools : List Dict} {model : Option String} {maxTokens : Int}
    {timeout : Rat} {rest : Except String ProviderResponse → Loop α} {left : Nat}
    {last : Option (Except String ProviderResponse)}
    (further : ∀ answer, Follows budgeting ⟨left, some answer⟩ (rest answer) Q) :
    Follows budgeting ⟨left + 1, last⟩ (ask (.call messages tools model maxTokens timeout) >>= rest)
      Q :=
  fun answer => ⟨⟨left, some answer⟩, ⟨rfl, rfl⟩, further answer⟩

end Books

/-! ### The iterations of a state -/

section Iterations

variable {k : Budget}

theorem sortCalls_books (calls : List Dict) (sorted : SortedCalls) :
    Follows budgeting k (sortCalls loop calls sorted) fun k' _ => k' = k := by
  induction calls generalizing sorted with
  | nil => rfl
  | cons tc rest ih =>
    exact books_ask rfl fun token => books_ofExcept fun call _ => books_ofExcept fun destination _ =>
      ih _

theorem executeBackendBatch_books (calls : List ReadCall) (state : LoopState)
    (results : List Dict) :
    Follows budgeting k (executeBackendBatch loop calls state results) fun k' after =>
      k' = k ∧ after.2.loopIteration = state.loopIteration := by
  induction calls generalizing state results with
  | nil => exact ⟨rfl, rfl⟩
  | cons call rest ih =>
    unfold executeBackendBatch
    split
    · exact books_executeTool fun result => books_ask rfl fun duration => ih _ _
    · exact ih _ _

theorem executeInline_books (calls : List ReadCall) (state : LoopState) :
    Follows budgeting k (executeInline loop calls state) fun k' after =>
      k' = k ∧ after.loopIteration = state.loopIteration := by
  induction calls generalizing state with
  | nil => exact ⟨rfl, rfl⟩
  | cons call rest ih =>
    unfold executeInline
    split
    · exact books_executeTool fun result => books_ask rfl fun duration => ih _
    · exact ih _

theorem recordUsage_books (state : LoopState) (response : ProviderResponse)
    (usage : List UsageRecord) :
    Follows budgeting k (recordUsage loop state response usage) fun k' recorded =>
      k' = k ∧ recorded.1.loopIteration = state.loopIteration := by
  unfold recordUsage
  split
  · exact ⟨rfl, rfl⟩
  · exact books_ask rfl fun timestamp => ⟨rfl, rfl⟩

theorem buildContinuation_keeps {state : LoopState} {response : ProviderResponse}
    {continuation : LoopContinuation}
    (built : buildContinuation loop state response = .ok continuation) :
    continuation.loopIteration = state.loopIteration ∧
      continuation.usageTotals = state.usageTotals ∧ continuation.messages = state.messages := by
  unfold buildContinuation at built
  cases raw : response.toolCalls.mapM rawCall with
  | error error =>
    rw [raw] at built
    cases built
  | ok calls =>
    rw [raw] at built
    cases built
    exact ⟨rfl, rfl, rfl⟩

def Handled (iterations : Nat) : ToolLoopOutcome ⊕ LoopState → Prop
  | .inl outcome => ∃ continuation, outcome.continuation? = some continuation ∧
      continuation.loopIteration = iterations
  | .inr state => state.loopIteration = iterations

theorem handleToolCalls_books (state : LoopState) (response : ProviderResponse)
    (usage : List UsageRecord) :
    Follows budgeting k (handleToolCalls loop state response usage) fun k' handled =>
      k' = k ∧ Handled state.loopIteration handled := by
  refine Follows.bind ((sortCalls_books response.toolCalls {}).mono ?_)
  rintro k' sorted rfl
  dsimp only
  split
  · refine books_ofExcept fun continuation built => ?_
    have same := (buildContinuation_keeps built).1
    exact ⟨rfl, continuation, rfl, same⟩
  · split
    · refine Follows.bind ((executeBackendBatch_books sorted.backend _ []).mono ?_)
      rintro k' ⟨results, after⟩ ⟨rfl, same⟩
      exact books_ofExcept fun continuation built =>
        ⟨rfl, continuation, rfl, (buildContinuation_keeps built).1.trans same⟩
    · split
      · refine Follows.bind ((executeInline_books sorted.backend _).mono ?_)
        rintro k' after ⟨rfl, same⟩
        exact ⟨rfl, same⟩
      · exact ⟨rfl, rfl⟩

end Iterations

/-! ### The loop -/

theorem not_atLimit_cancelled {usage : List UsageRecord} {toolTrace : List ToolTraceEntry} :
    ¬ (ToolLoopOutcome.failed "cancelled" usage toolTrace).AtLimit := by
  rintro ⟨_, _, same⟩
  simp at same

theorem not_atLimit_timeout {usage : List UsageRecord} {toolTrace : List ToolTraceEntry} :
    ¬ (ToolLoopOutcome.failed "timeout" usage toolTrace).AtLimit := by
  rintro ⟨_, _, same⟩
  simp at same

theorem not_atLimit_error {exc : String} {usage : List UsageRecord}
    {toolTrace : List ToolTraceEntry} :
    ¬ (ToolLoopOutcome.failed ("provider_error: " ++ exc) usage toolTrace).AtLimit := by
  rintro ⟨_, _, same⟩
  injection same with text _ _
  have first := congrArg (fun text : String => text.toList.head?) text
  simp at first

theorem Accounts.of_unsuspended {k : Budget} {outcome : ToolLoopOutcome}
    (spent : k.left = 0 → outcome.AtLimit ∨ Decides k.last outcome)
    (below : ¬ outcome.AtLimit) (last : outcome.continuation? = none) : Accounts loop k outcome :=
  ⟨spent, fun limit => absurd limit below, fun continuation kept => by
    rw [last] at kept
    cases kept⟩

/-- **The loop keeps the books**, on any number of iterations. -/
theorem executeLoop_accounts (maxTokens : Int) (left : Nat) (state : LoopState)
    (usage : List UsageRecord) {last : Option (Except String ProviderResponse)}
    (whole : state.loopIteration + left = loop.config.maxIterations) :
    Follows budgeting ⟨left, last⟩ (executeLoop loop maxTokens left state usage)
      (Accounts loop) := by
  induction left generalizing state usage last with
  | zero => exact ⟨fun _ => Or.inl ⟨_, _, rfl⟩, fun _ => rfl, fun _ kept => nomatch kept⟩
  | succ left ih =>
    refine books_ask rfl fun aborted => ?_
    split
    · exact .of_unsuspended (fun none => nomatch none) not_atLimit_cancelled rfl
    refine books_ask rfl fun elapsed => ?_
    split
    · exact .of_unsuspended (fun none => nomatch none) not_atLimit_timeout rfl
    refine books_call fun answer => ?_
    cases answer with
    | error exc => exact .of_unsuspended (fun _ => Or.inr (.error exc _ _)) not_atLimit_error rfl
    | ok response =>
      refine Follows.bind ((recordUsage_books _ response usage).mono ?_)
      rintro k ⟨recorded, usage'⟩ ⟨rfl, same⟩
      dsimp only at same ⊢
      have further : recorded.loopIteration + left = loop.config.maxIterations := by omega
      split
      · rename_i final
        refine .of_unsuspended (fun _ => Or.inr (.completed response final _ _)) ?_ rfl
        rintro ⟨_, _, same⟩
        cases same
      · rename_i asks
        refine Follows.bind ((handleToolCalls_books recorded response usage').mono ?_)
        rintro k handled ⟨rfl, iterations⟩
        cases handled with
        | inl outcome =>
          obtain ⟨continuation, kept, same⟩ := iterations
          refine ⟨fun _ => Or.inr (.suspended response asks kept), ?_, fun other also => ?_⟩
          · rintro ⟨_, _, rfl⟩
            cases kept
          · cases kept.symm.trans also
            exact same ▸ further
        | inr next =>
          have onward : next.loopIteration + left = loop.config.maxIterations :=
            (congrArg (· + left) iterations).trans further
          exact ih next usage' onward

theorem run_accounts (messages tools : List Dict) (maxTokens : Int) :
    Follows budgeting ⟨loop.config.maxIterations, none⟩ (loop.run messages tools maxTokens)
      (Accounts loop) :=
  executeLoop_accounts maxTokens _ _ [] (Nat.zero_add _)

theorem resumedState_iterations {continuation : LoopContinuation} {toolResults : List Dict}
    {state : LoopState} (resumed : resumedState continuation toolResults = .ok state) :
    state.loopIteration = continuation.loopIteration := by
  unfold resumedState at resumed
  cases traced : continuation.toolTrace.mapM ToolTraceEntry.ofDict with
  | error error =>
    rw [traced] at resumed
    cases resumed
  | ok toolTrace =>
    rw [traced] at resumed
    rcases appendResults_alike toolResults with ⟨error, raised⟩ | ⟨added, joins⟩
    · cases (raised _).symm.trans resumed
    · obtain ⟨state', joined, _, untouched⟩ := joins _
      cases joined.symm.trans resumed
      rw [untouched.loopIteration]
      split <;> rfl

/-- **A resumption has what the continuation leaves.** -/
theorem resume_accounts {k : Budget} {continuation : LoopContinuation}
    (whole : continuation.loopIteration + k.left = loop.config.maxIterations)
    (toolResults : List Dict) (maxTokens : Int) :
    Follows budgeting k (loop.resume continuation toolResults maxTokens) (Accounts loop) := by
  refine books_ofExcept fun state resumed => ?_
  have same := resumedState_iterations resumed
  have left : loop.config.maxIterations - state.loopIteration = k.left := by omega
  unfold execute
  rw [left]
  exact executeLoop_accounts maxTokens k.left state [] (by omega)

theorem continueWith_accounts {k : Budget} {outcome : ToolLoopOutcome}
    (accounts : Accounts loop k outcome) (resumption : List Dict × Int) :
    Follows budgeting k (continueWith loop outcome resumption) (Accounts loop) := by
  unfold continueWith
  cases suspended : outcome.continuation? with
  | none => exact accounts
  | some continuation =>
    dsimp only
    rw [LoopContinuation.deserialize_serialize]
    exact resume_accounts (accounts.kept continuation suspended) _ _

theorem resumeEach_accounts (resumptions : List (List Dict × Int)) {k : Budget}
    {outcome : ToolLoopOutcome} (accounts : Accounts loop k outcome) :
    Follows budgeting k (resumeEach loop resumptions outcome) (Accounts loop) := by
  induction resumptions generalizing k outcome with
  | nil => exact accounts
  | cons resumption rest ih =>
    exact Follows.bind ((continueWith_accounts accounts resumption).mono fun _ _ => ih)

/-- **A chain keeps the books.** -/
theorem chain_accounts (messages tools : List Dict) (maxTokens : Int)
    (resumptions : List (List Dict × Int)) :
    Follows budgeting ⟨loop.config.maxIterations, none⟩
      (chain loop messages tools maxTokens resumptions) (Accounts loop) :=
  Follows.bind ((run_accounts messages tools maxTokens).mono fun _ _ => resumeEach_accounts resumptions)

/-! ### The journal of a chain -/

variable {answers : List (Event loopSignature) → (op : LoopOp) → op.Answer → Prop}
  {log log' : List (Event loopSignature)} {p : Loop ToolLoopOutcome}

/-- The books agree with a journal. -/
structure Booked (loop : ToolLoop) (log : List (Event loopSignature)) (k : Budget) : Prop where
  spent : calls log + k.left = loop.config.maxIterations
  last : lastAnswer log = k.last

theorem Booked.step {k k' : Budget} {op : LoopOp} {answer : op.Answer} (booked : Booked loop log k)
    (move : budgeting.Move k op answer k') : Booked loop (⟨op, answer⟩ :: log) k' := by
  have counted : calls (⟨op, answer⟩ :: log) = calls log + if op.isCall = true then 1 else 0 :=
    asked_cons _ _
  cases op with
  | call messages tools model maxTokens timeout =>
    obtain ⟨paid, last⟩ := move
    have whole : calls log + k.left = loop.config.maxIterations := booked.spent
    refine ⟨?_, last.symm⟩
    rw [counted, if_pos (by rfl)]
    omega
  | _ =>
    cases (show k' = k from move)
    exact ⟨booked.spent, booked.last⟩

theorem booked_of_follows {k : Budget} {q : Loop ToolLoopOutcome} (booked : Booked loop log k)
    (follows : Follows budgeting k q (Accounts loop)) (run : Exec (journal answers) log q log' p) :
    ∃ k', Follows budgeting k' p (Accounts loop) ∧ Booked loop log' k' :=
  Follows.exec_invariant (Booked loop) (fun _ _ _ _ _ before _ move => before.step move) run follows
    booked

theorem continueWith_spent {outcome : ToolLoopOutcome} {continuation : LoopContinuation}
    (suspended : outcome.continuation? = some continuation)
    (spent : continuation.loopIteration = loop.config.maxIterations)
    (resumption : List Dict × Int) :
    Outcome (journal answers) log (continueWith loop outcome resumption) fun log' p =>
      log' = log ∧ ∀ last, p = .done last → last.AtLimit := by
  unfold continueWith
  rw [suspended]
  dsimp only
  rw [LoopContinuation.deserialize_serialize]
  show Outcome _ _ (Program.ofExcept (resumedState continuation resumption.1) >>= _) _
  cases resumed : resumedState continuation resumption.1 with
  | error error => exact outcome_raise ⟨rfl, fun _ same => nomatch same⟩
  | ok state =>
    have same := resumedState_iterations resumed
    have none : loop.config.maxIterations - state.loopIteration = 0 := by omega
    show Outcome _ _ (execute loop state resumption.2) _
    unfold execute
    rw [none]
    refine outcome_done ⟨rfl, fun last same => ?_⟩
    cases same
    exact ⟨_, _, rfl⟩

/-- **The iteration budget spans suspensions.** A run and any number of resumptions, each from the text
of the last continuation, make `max_iterations` provider calls at most. When they have made as many,
the outcome is `loop_limit_exceeded` or decided by the last answer, and a further resumption calls no
provider and is `loop_limit_exceeded`; and it is `loop_limit_exceeded` only then. -/
theorem budget_spans {messages tools : List Dict} {maxTokens : Int}
    {resumptions : List (List Dict × Int)}
    (run : Exec (journal answers) [] (chain loop messages tools maxTokens resumptions) log p) :
    calls log ≤ loop.config.maxIterations ∧ ∀ outcome, p = .done outcome →
      (calls log = loop.config.maxIterations →
        (outcome.AtLimit ∨ Decides (lastAnswer log) outcome) ∧
        (outcome.continuation?.isSome = true → ∀ resumption,
          Outcome (journal answers) log (continueWith loop outcome resumption) fun log' p' =>
            log' = log ∧ ∀ last, p' = .done last → last.AtLimit)) ∧
      (outcome.AtLimit → calls log = loop.config.maxIterations) := by
  have begun : Booked loop [] ⟨loop.config.maxIterations, none⟩ := ⟨Nat.zero_add _, rfl⟩
  obtain ⟨k, follows, booked⟩ :=
    booked_of_follows begun (chain_accounts messages tools maxTokens resumptions) run
  have whole : calls log + k.left = loop.config.maxIterations := booked.spent
  refine ⟨by omega, ?_⟩
  rintro outcome rfl
  have accounts : Accounts loop k outcome := follows
  refine ⟨fun exhausted => ?_, fun limit => ?_⟩
  · have spent : k.left = 0 := by omega
    refine ⟨booked.last ▸ accounts.spent spent, fun suspended resumption => ?_⟩
    obtain ⟨continuation, kept⟩ := Option.isSome_iff_exists.mp suspended
    have books := accounts.kept continuation kept
    exact continueWith_spent kept (by omega) resumption
  · have spent := accounts.atLimit limit
    omega

def briefLoop : ToolLoop :=
  { executionLoop with config := { executionLoop.config with maxIterations := 1 } }

/-- A provider that asks for a file, however often it is called. -/
def readingScript : Script loopSignature :=
  scripted [{ toolCalls := [pathCall "c1" "file_read"] }]

def briefRun : Loop ToolLoopOutcome := chain briefLoop [] [] 2048 []

/-- The brief run is suspended, and its budget is spent. -/
theorem briefRun_spent : ∃ outcome,
    briefRun.resultOf readingScript [] = .ok outcome ∧ outcome.continuation?.isSome = true ∧
      ∀ resumption, Outcome (journal fun _ _ _ => True) (briefRun.journalOf readingScript [])
        (continueWith briefLoop outcome resumption) fun log' p =>
          log' = briefRun.journalOf readingScript [] ∧ ∀ last, p = .done last → last.AtLimit := by
  have run : Exec (journal fun _ _ _ => True) [] briefRun (briefRun.journalOf readingScript [])
      (ended (briefRun.resultOf readingScript [])) :=
    exec_journalOf (fun _ _ => trivial) briefRun []
  have spans := budget_spans run
  have spent : calls (briefRun.journalOf readingScript []) = 1 := by decide +kernel
  have suspended : (briefRun.resultOf readingScript []).toOption.any
      (fun outcome => outcome.continuation?.isSome) = true := by
    decide +kernel
  generalize briefRun.resultOf readingScript [] = result at spans suspended
  cases result with
  | error error => cases suspended
  | ok outcome => exact ⟨outcome, rfl, suspended, ((spans.2 outcome rfl).1 spent).2 suspended⟩

end Audisor.Tooling
