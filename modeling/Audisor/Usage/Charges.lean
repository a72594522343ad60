/-
**What an attempt is charged.**

* `NormalizedUsage`, `PricingSnapshot` — the reported tokens, and the rates of a model; both carry what
  their validators check.
* `calculateActualCharge` — the charge of a complete usage, in a decimal context of 28 digits.
* `assigned` — how many tokens each category is charged for. `Reading` — the tokens of a report, as sets.
  `Reading.billed_unique` — each of them is in one category.
* `Billable` — every category with tokens has a rate, and every category with a rate knows its tokens.
* `Exact` — the context holds the amounts exactly.
  **`billsOnce`** — the tokens of a billable usage are charged once, and every other usage is refused.
-/

import Audisor.Number.Decimals
import Mathlib.Data.Finset.Card
import Mathlib.Tactic.Linarith

namespace Audisor.Usage

open Number

/-! ### Usage -/

inductive AccountingStatus where
  | complete | incomplete | notApplicable
  deriving DecidableEq

/-- The counts of a usage, each at least zero. -/
structure TokenCounts where
  inputTokens : Option ℕ
  outputTokens : Option ℕ
  cachedReadTokens : Option ℕ
  cacheWriteTokens : Option ℕ
  reasoningTokens : Option ℕ
  totalTokens : Option ℕ

/-- `status_matches_values`. -/
def statusMatchesValues (status : AccountingStatus) (counts : TokenCounts) : Bool :=
  let values := [counts.inputTokens, counts.outputTokens, counts.cachedReadTokens,
    counts.cacheWriteTokens, counts.reasoningTokens, counts.totalTokens]
  if status = .notApplicable ∧ values.any Option.isSome then false
  else if status = .complete then
    match counts.inputTokens, counts.outputTokens with
    | some input, some output => counts.totalTokens == some (input + output)
    | _, _ => false
  else true

/-- A usage whose values match its status. -/
structure NormalizedUsage extends TokenCounts where
  status : AccountingStatus
  valid : statusMatchesValues status toTokenCounts = true

/-! ### Pricing -/

inductive InputSemantics where
  | includesCachedRead | excludesCachedRead
  deriving DecidableEq

inductive ReasoningSemantics where
  | includedInOutput | separate | notReported
  deriving DecidableEq

structure CategorySemantics where
  inputTokens : InputSemantics
  reasoningTokens : ReasoningSemantics

/-- What is charged for. -/
inductive Category where
  | uncachedInput | cachedRead | cachedWrite | output | reasoning
  deriving DecidableEq

def Category.name : Category → String
  | uncachedInput => "uncached_input"
  | cachedRead => "cached_read"
  | cachedWrite => "cached_write"
  | output => "output"
  | reasoning => "reasoning"

def perCategory {α : Type} (uncachedInput cachedRead cachedWrite output reasoning : α) : Category → α
  | .uncachedInput => uncachedInput
  | .cachedRead => cachedRead
  | .cachedWrite => cachedWrite
  | .output => output
  | .reasoning => reasoning

theorem perCategory_eta {α : Type} (amount : Category → α) :
    perCategory (amount .uncachedInput) (amount .cachedRead) (amount .cachedWrite) (amount .output)
      (amount .reasoning) = amount := by
  funext category
  cases category <;> rfl

/-- The rate of each category for a million tokens, where it has one. -/
structure PricingRates where
  rate : Category → Option ℚ
  nonNegativeRate : ∀ category value, rate category = some value → 0 ≤ value

structure PricingSnapshot where
  pricingRecordId : String
  currency : String
  categorySemantics : CategorySemantics
  rates : PricingRates
  snapshotSha256 : String

structure UsageCost where
  currency : String
  charge : Category → ℚ
  total : ℚ
  pricingRecordId : String
  pricingSnapshotSha256 : String

/-! ### Charges -/

inductive ChargeError where
  | calculation (message : String)
  | invalidOperation
  | assertion
  deriving DecidableEq

/-- The result of a calculation. -/
abbrev Charged := Except ChargeError

def precision : ℕ := 28

def inContext (value : ℚ) : ℚ := toPrecision precision value

/-- `value.quantize(Decimal("0.000001"), rounding=ROUND_HALF_EVEN)`. -/
def quantize (value : ℚ) : Charged ℚ :=
  if |nearestEven (value * 10 ^ 6)| < 10 ^ precision then .ok (toPlaces 6 value)
  else .error .invalidOperation

/-- `_charge`. -/
def chargeOf (tokens : ℕ) (rate : Option ℚ) (category : Category) : Charged ℚ :=
  if tokens = 0 then .ok 0
  else match rate with
    | none => .error (.calculation ("pricing unavailable for " ++ category.name))
    | some rate => quantize (inContext (inContext (tokens * rate) / 1000000))

/-- `_cost`. -/
def costOf (tokens : Category → ℕ) (pricing : PricingSnapshot) : Charged UsageCost := do
  let uncachedInput ← chargeOf (tokens .uncachedInput) (pricing.rates.rate .uncachedInput) .uncachedInput
  let cachedRead ← chargeOf (tokens .cachedRead) (pricing.rates.rate .cachedRead) .cachedRead
  let cachedWrite ← chargeOf (tokens .cachedWrite) (pricing.rates.rate .cachedWrite) .cachedWrite
  let output ← chargeOf (tokens .output) (pricing.rates.rate .output) .output
  let reasoning ← chargeOf (tokens .reasoning) (pricing.rates.rate .reasoning) .reasoning
  let sum := inContext (inContext (inContext (inContext
    (uncachedInput + cachedRead) + cachedWrite) + output) + reasoning)
  let total ← quantize sum
  return {
    currency := pricing.currency
    charge := perCategory uncachedInput cachedRead cachedWrite output reasoning
    total
    pricingRecordId := pricing.pricingRecordId
    pricingSnapshotSha256 := pricing.snapshotSha256 }

/-- Unknown counts never become zero when the category has a rate. -/
def knownTokens (tokens : Option ℕ) (rate : Option ℚ) (category : Category) : Charged ℕ :=
  match tokens with
  | some tokens => .ok tokens
  | none =>
    if rate.isSome then
      .error (.calculation (category.name ++ " tokens unknown but category is billable"))
    else .ok 0

def uncachedInputTokens (semantics : InputSemantics) (inputTokens cachedReadTokens : ℕ) : Charged ℕ :=
  if semantics = .includesCachedRead then
    if inputTokens < cachedReadTokens then
      .error (.calculation "cached_read_tokens exceeds input_tokens")
    else .ok (inputTokens - cachedReadTokens)
  else .ok inputTokens

def separateReasoningTokens (semantics : ReasoningSemantics) (tokens : Option ℕ) (rate : Option ℚ) :
    Charged ℕ :=
  if semantics = .includedInOutput then .ok 0
  else if semantics = .notReported then
    if tokens.getD 0 ≠ 0 then .error (.calculation "reasoning tokens contradict pricing semantics")
    else .ok 0
  else knownTokens tokens rate .reasoning

def calculateActualCharge (usage : NormalizedUsage) (pricing : PricingSnapshot) : Charged UsageCost :=
  if usage.status ≠ .complete then .error (.calculation "actual usage is incomplete")
  else match usage.inputTokens, usage.outputTokens with
    | some inputTokens, some outputTokens => do
      let rate := pricing.rates.rate
      let cachedRead ← knownTokens usage.cachedReadTokens (rate .cachedRead) .cachedRead
      let uncachedInput ←
        uncachedInputTokens pricing.categorySemantics.inputTokens inputTokens cachedRead
      let reasoning ← separateReasoningTokens pricing.categorySemantics.reasoningTokens
        usage.reasoningTokens (rate .reasoning)
      let cachedWrite ← knownTokens usage.cacheWriteTokens (rate .cachedWrite) .cachedWrite
      costOf (perCategory uncachedInput cachedRead cachedWrite outputTokens reasoning) pricing
    | _, _ => .error .assertion

/-! ### The tokens of a report -/

/-- How many tokens a category is charged for, where that is known. -/
def assigned (usage : NormalizedUsage) (semantics : CategorySemantics) : Category → Option ℕ
  | .uncachedInput => usage.inputTokens.map fun inputTokens =>
      if semantics.inputTokens = .includesCachedRead then
        inputTokens - usage.cachedReadTokens.getD 0
      else inputTokens
  | .cachedRead => usage.cachedReadTokens
  | .cachedWrite => usage.cacheWriteTokens
  | .output => usage.outputTokens
  | .reasoning => if semantics.reasoningTokens = .separate then usage.reasoningTokens else some 0

def count (usage : NormalizedUsage) (semantics : CategorySemantics) (category : Category) : ℕ :=
  (assigned usage semantics category).getD 0

/-- **The tokens of a report**, as sets that overlap where the pricing says that they do. -/
structure Reading (usage : NormalizedUsage) (semantics : CategorySemantics) (Token : Type) where
  input : Finset Token
  cachedRead : Finset Token
  cachedWrite : Finset Token
  output : Finset Token
  reasoning : Finset Token
  input_card : input.card = usage.inputTokens.getD 0
  cachedRead_card : cachedRead.card = usage.cachedReadTokens.getD 0
  cachedWrite_card : cachedWrite.card = usage.cacheWriteTokens.getD 0
  output_card : output.card = usage.outputTokens.getD 0
  reasoning_card : reasoning.card = usage.reasoningTokens.getD 0
  cached_within : semantics.inputTokens = .includesCachedRead → cachedRead ⊆ input
  cached_apart : semantics.inputTokens = .excludesCachedRead → Disjoint input cachedRead
  reasoning_within : semantics.reasoningTokens = .includedInOutput → reasoning ⊆ output
  reasoning_apart : semantics.reasoningTokens = .separate → Disjoint reasoning output
  reasoning_none : semantics.reasoningTokens = .notReported → reasoning = ∅
  written_apart : ∀ token ∈ cachedWrite, token ∉ input ∧ token ∉ cachedRead
  sent_apart : ∀ token, token ∈ output ∨ token ∈ reasoning →
    token ∉ input ∧ token ∉ cachedRead ∧ token ∉ cachedWrite

variable {usage : NormalizedUsage} {pricing : PricingSnapshot} {semantics : CategorySemantics}
  {Token : Type} [DecidableEq Token]

def Reading.Reported (reading : Reading usage semantics Token) (token : Token) : Prop :=
  token ∈ reading.input ∨ token ∈ reading.cachedRead ∨ token ∈ reading.cachedWrite ∨
    token ∈ reading.output ∨ token ∈ reading.reasoning

def Reading.billed (reading : Reading usage semantics Token) : Category → Finset Token
  | .uncachedInput => reading.input \ reading.cachedRead
  | .cachedRead => reading.cachedRead
  | .cachedWrite => reading.cachedWrite
  | .output => reading.output
  | .reasoning => reading.reasoning \ reading.output

/-- **Every token of the report is in one category.** -/
theorem Reading.billed_unique (reading : Reading usage semantics Token) {token : Token}
    (reported : reading.Reported token) : ∃! category, token ∈ reading.billed category := by
  have written := reading.written_apart token
  have sent := reading.sent_apart token
  by_cases cached : token ∈ reading.cachedRead
  · refine ⟨.cachedRead, cached, fun category member => ?_⟩
    cases category <;> simp_all [billed]
  by_cases input : token ∈ reading.input
  · refine ⟨.uncachedInput, Finset.mem_sdiff.mpr ⟨input, cached⟩, fun category member => ?_⟩
    cases category <;> simp_all [billed]
  by_cases wrote : token ∈ reading.cachedWrite
  · refine ⟨.cachedWrite, wrote, fun category member => ?_⟩
    cases category <;> simp_all [billed]
  by_cases output : token ∈ reading.output
  · refine ⟨.output, output, fun category member => ?_⟩
    cases category <;> simp_all [billed]
  · have thought : token ∈ reading.reasoning := by simp_all [Reported]
    refine ⟨.reasoning, Finset.mem_sdiff.mpr ⟨thought, output⟩, fun category member => ?_⟩
    cases category <;> simp_all [billed]

/-- **A category is charged for the tokens in it.** -/
theorem Reading.billed_card (reading : Reading usage semantics Token) (category : Category) :
    (reading.billed category).card = count usage semantics category := by
  cases category with
  | uncachedInput =>
    show (reading.input \ reading.cachedRead).card =
      (usage.inputTokens.map fun inputTokens => _).getD 0
    cases stated : semantics.inputTokens with
    | includesCachedRead =>
      rw [Finset.card_sdiff_of_subset (reading.cached_within stated), reading.input_card,
        reading.cachedRead_card]
      cases usage.inputTokens <;> simp
    | excludesCachedRead =>
      rw [Finset.sdiff_eq_self_of_disjoint (reading.cached_apart stated), reading.input_card]
      cases usage.inputTokens <;> simp
  | cachedRead => exact reading.cachedRead_card
  | cachedWrite => exact reading.cachedWrite_card
  | output => exact reading.output_card
  | reasoning =>
    show (reading.reasoning \ reading.output).card = (if _ then _ else _ : Option ℕ).getD 0
    cases stated : semantics.reasoningTokens with
    | includedInOutput =>
      rw [Finset.sdiff_eq_empty_iff_subset.mpr (reading.reasoning_within stated)]
      rfl
    | separate =>
      rw [Finset.sdiff_eq_self_of_disjoint (reading.reasoning_apart stated), reading.reasoning_card,
        if_pos rfl]
    | notReported =>
      rw [reading.reasoning_none stated, Finset.empty_sdiff]
      rfl

/-! ### Exact amounts -/

/-- The charge of so many tokens at a rate, rounded half to even. -/
def roundedCharge (tokens : ℕ) (rate : Option ℚ) : ℚ := toPlaces 6 (tokens * rate.getD 0 / 1000000)

def sumOf (amount : Category → ℚ) : ℚ :=
  amount .uncachedInput + amount .cachedRead + amount .cachedWrite + amount .output +
    amount .reasoning

/-- **The counts and the rates are small enough**: the context holds the product of each, and the sum of
the rounded charges. -/
structure Exact (tokens : Category → ℕ) (rates : PricingRates) : Prop where
  products : ∀ category rate, rates.rate category = some rate →
    Representable precision (tokens category * rate)
  total : sumOf (fun category => roundedCharge (tokens category) (rates.rate category)) < 10 ^ 22

theorem inContext_representable {value : ℚ} (given : Representable precision value) :
    inContext value = value :=
  toPrecision_representable given

theorem representable_of_places {value : ℚ} (given : IsMultiple 6 value) (nonneg : 0 ≤ value)
    (small : value < 10 ^ 22) : Representable precision value := by
  refine given.representable ?_
  rw [abs_of_nonneg nonneg, precision]
  linarith

theorem quantize_small {value : ℚ} (nonneg : 0 ≤ value) (small : toPlaces 6 value < 10 ^ 22) :
    quantize value = .ok (toPlaces 6 value) := by
  refine if_pos ?_
  have units := nearestEven_nonneg (mul_nonneg nonneg (by positivity : (0 : ℚ) ≤ 10 ^ 6))
  rw [toPlaces, div_lt_iff₀ (by positivity)] at small
  rw [abs_of_nonneg units, precision]
  have scaled : (nearestEven (value * 10 ^ 6) : ℚ) < (10 : ℚ) ^ 28 := by linarith
  exact_mod_cast scaled

theorem roundedCharge_nonneg (rates : PricingRates) (tokens : ℕ) (category : Category) :
    0 ≤ roundedCharge tokens (rates.rate category) := by
  have rate : 0 ≤ (rates.rate category).getD 0 := by
    cases stated : rates.rate category with
    | none => exact le_rfl
    | some value => exact rates.nonNegativeRate category value stated
  exact toPlaces_nonneg (by positivity)

theorem le_sumOf {amount : Category → ℚ} (nonneg : ∀ category, 0 ≤ amount category)
    (category : Category) : amount category ≤ sumOf amount := by
  have uncachedInput := nonneg .uncachedInput
  have cachedRead := nonneg .cachedRead
  have cachedWrite := nonneg .cachedWrite
  have output := nonneg .output
  have reasoning := nonneg .reasoning
  unfold sumOf
  cases category <;> linarith

/-! ### Steps that are made or refused -/

/-- **The step answers with the value where the condition holds, and is refused where it does not.** -/
def MadeWhen {α : Type} (condition : Prop) (step : Charged α) (value : α) : Prop :=
  (condition ∧ step = .ok value) ∨ (¬ condition ∧ ∃ message, step = .error (.calculation message))

theorem MadeWhen.always {α : Type} {step : Charged α} {value : α} (made : step = .ok value) :
    MadeWhen True step value := .inl ⟨trivial, made⟩

theorem MadeWhen.congr {α : Type} {condition other : Prop} {step : Charged α} {value : α}
    (made : MadeWhen condition step value) (same : condition ↔ other) : MadeWhen other step value :=
  propext same ▸ made

theorem MadeWhen.bind {α β : Type} {condition later : Prop} {step : Charged α} {value : α}
    {rest : α → Charged β} {result : β} (made : MadeWhen condition step value)
    (next : MadeWhen later (rest value) result) :
    MadeWhen (condition ∧ later) (step >>= rest) result := by
  rcases made with ⟨holds, rfl⟩ | ⟨fails, message, rfl⟩
  · rcases next with ⟨also, answers⟩ | ⟨fails, message, refused⟩
    · exact .inl ⟨⟨holds, also⟩, answers⟩
    · exact .inr ⟨fun both => fails both.2, message, refused⟩
  · exact .inr ⟨fun both => fails both.1, message, rfl⟩

/-- **A charge is the rounded product**, where tokens have a rate. -/
theorem chargeOf_made {tokens : Category → ℕ} {rates : PricingRates} (exact : Exact tokens rates)
    (category : Category) :
    MadeWhen (tokens category ≠ 0 → rates.rate category ≠ none)
      (chargeOf (tokens category) (rates.rate category) category)
      (roundedCharge (tokens category) (rates.rate category)) := by
  unfold chargeOf
  by_cases empty : tokens category = 0
  · refine .inl ⟨absurd empty, (if_pos empty).trans ?_⟩
    rw [roundedCharge, empty, Nat.cast_zero, zero_mul, zero_div, toPlaces, zero_mul]
    rw [show nearestEven 0 = 0 from nearestEven_intCast 0, Int.cast_zero, zero_div]
  · cases stated : rates.rate category with
    | none => exact .inr ⟨fun priced => priced empty rfl, _, if_neg empty⟩
    | some rate =>
      have product := exact.products category rate stated
      have quotient : Representable precision (tokens category * rate / 1000000) := by
        have shifted := product.shift (-6)
        rwa [zpow_neg, ← div_eq_mul_inv, show ((10 : ℚ) ^ (6 : ℤ)) = 1000000 by norm_num] at shifted
      have part := lt_of_le_of_lt (le_sumOf (fun category =>
        roundedCharge_nonneg rates (tokens category) category) category) exact.total
      have positive := rates.nonNegativeRate category rate stated
      rw [stated] at part
      refine .inl ⟨fun _ => Option.some_ne_none rate, (if_neg empty).trans ?_⟩
      show quantize (inContext (inContext (tokens category * rate) / 1000000)) = _
      rw [inContext_representable product, inContext_representable quotient]
      exact quantize_small (by positivity) part

/-! ### The cost -/

def fullCost (tokens : Category → ℕ) (pricing : PricingSnapshot) : UsageCost where
  currency := pricing.currency
  charge category := roundedCharge (tokens category) (pricing.rates.rate category)
  total := sumOf fun category => roundedCharge (tokens category) (pricing.rates.rate category)
  pricingRecordId := pricing.pricingRecordId
  pricingSnapshotSha256 := pricing.snapshotSha256

theorem sum_exact {amount : Category → ℚ} (nonneg : ∀ category, 0 ≤ amount category)
    (places : ∀ category, IsMultiple 6 (amount category)) (small : sumOf amount < 10 ^ 22) :
    inContext (inContext (inContext (inContext
      (amount .uncachedInput + amount .cachedRead) + amount .cachedWrite) + amount .output) +
      amount .reasoning) = sumOf amount ∧ quantize (sumOf amount) = .ok (sumOf amount) := by
  have uncachedInput := nonneg .uncachedInput
  have cachedRead := nonneg .cachedRead
  have cachedWrite := nonneg .cachedWrite
  have output := nonneg .output
  have reasoning := nonneg .reasoning
  have two := (places .uncachedInput).add (places .cachedRead)
  have three := two.add (places .cachedWrite)
  have four := three.add (places .output)
  have five := four.add (places .reasoning)
  have whole : toPlaces 6 (sumOf amount) = sumOf amount := toPlaces_of_isMultiple five
  unfold sumOf at small ⊢
  constructor
  · rw [inContext_representable (representable_of_places two (by linarith) (by linarith)),
      inContext_representable (representable_of_places three (by linarith) (by linarith)),
      inContext_representable (representable_of_places four (by linarith) (by linarith)),
      inContext_representable (representable_of_places five (by linarith) (by linarith))]
  · rw [sumOf] at whole
    rw [quantize_small (by linarith) (by rw [whole]; exact small), whole]

theorem forall_category {holds : Category → Prop} :
    (holds .uncachedInput ∧ holds .cachedRead ∧ holds .cachedWrite ∧ holds .output ∧
      holds .reasoning ∧ True) ↔ ∀ category, holds category := by
  constructor
  · rintro ⟨uncachedInput, cachedRead, cachedWrite, output, reasoning, -⟩ category
    cases category <;> assumption
  · intro all
    exact ⟨all _, all _, all _, all _, all _, trivial⟩

/-- **A usage costs the sum of its charges**, where every category with tokens has a rate. -/
theorem costOf_made {tokens : Category → ℕ} {pricing : PricingSnapshot}
    (exact : Exact tokens pricing.rates) :
    MadeWhen (∀ category, tokens category ≠ 0 → pricing.rates.rate category ≠ none)
      (costOf tokens pricing) (fullCost tokens pricing) := by
  have sums := sum_exact (fun category => roundedCharge_nonneg pricing.rates (tokens category) category)
    (fun category => isMultiple_toPlaces 6 _) exact.total
  refine MadeWhen.congr ?_ forall_category
  unfold costOf
  refine (chargeOf_made exact .uncachedInput).bind ((chargeOf_made exact .cachedRead).bind
    ((chargeOf_made exact .cachedWrite).bind ((chargeOf_made exact .output).bind
      ((chargeOf_made exact .reasoning).bind (MadeWhen.always ?_)))))
  have eta := perCategory_eta fun category => roundedCharge (tokens category) (pricing.rates.rate category)
  simp only [sums.1, sums.2, bind, Except.bind, eta]
  rfl

/-! ### The calculation -/

/-- **A usage that can be charged**: every category with tokens has a rate, and every category with a rate
knows its tokens. -/
structure Billable (usage : NormalizedUsage) (pricing : PricingSnapshot) : Prop where
  complete : usage.status = .complete
  cached : pricing.categorySemantics.inputTokens = .includesCachedRead →
    usage.cachedReadTokens.getD 0 ≤ usage.inputTokens.getD 0
  unreported : pricing.categorySemantics.reasoningTokens = .notReported →
    usage.reasoningTokens.getD 0 = 0
  priced : ∀ category, count usage pricing.categorySemantics category ≠ 0 →
    pricing.rates.rate category ≠ none
  known : ∀ category, assigned usage pricing.categorySemantics category = none →
    pricing.rates.rate category = none

theorem complete_reported {usage : NormalizedUsage} (complete : usage.status = .complete) :
    ∃ inputTokens outputTokens,
      usage.inputTokens = some inputTokens ∧ usage.outputTokens = some outputTokens := by
  have valid := usage.valid
  rw [statusMatchesValues, complete] at valid
  cases input : usage.inputTokens with
  | none => simp [input] at valid
  | some inputTokens =>
    cases output : usage.outputTokens with
    | none => simp [input, output] at valid
    | some outputTokens => exact ⟨inputTokens, outputTokens, rfl, rfl⟩

theorem knownTokens_made (tokens : Option ℕ) (rate : Option ℚ) (category : Category) :
    MadeWhen (tokens = none → rate = none) (knownTokens tokens rate category) (tokens.getD 0) := by
  cases tokens with
  | some tokens => exact .inl ⟨by rintro ⟨⟩, rfl⟩
  | none =>
    cases rate with
    | none => exact .inl ⟨fun _ => rfl, rfl⟩
    | some rate => exact .inr ⟨fun unbilled => Option.some_ne_none rate (unbilled rfl), _, rfl⟩

theorem uncachedInputTokens_made (usage : NormalizedUsage) (semantics : CategorySemantics)
    {inputTokens : ℕ} (reported : usage.inputTokens = some inputTokens) :
    MadeWhen (semantics.inputTokens = .includesCachedRead →
        usage.cachedReadTokens.getD 0 ≤ usage.inputTokens.getD 0)
      (uncachedInputTokens semantics.inputTokens inputTokens (usage.cachedReadTokens.getD 0))
      (count usage semantics .uncachedInput) := by
  rw [count, assigned, uncachedInputTokens, reported, Option.map_some, Option.getD_some,
    Option.getD_some]
  by_cases includes : semantics.inputTokens = .includesCachedRead
  · rw [if_pos includes, if_pos includes]
    by_cases exceeds : inputTokens < usage.cachedReadTokens.getD 0
    · exact .inr ⟨fun within => (within includes).not_gt exceeds, _, if_pos exceeds⟩
    · exact .inl ⟨fun _ => Nat.le_of_not_lt exceeds, if_neg exceeds⟩
  · exact .inl ⟨fun same => absurd same includes, by rw [if_neg includes, if_neg includes]⟩

theorem separateReasoningTokens_made (usage : NormalizedUsage) (semantics : CategorySemantics)
    (rate : Option ℚ) :
    MadeWhen ((semantics.reasoningTokens = .notReported → usage.reasoningTokens.getD 0 = 0) ∧
        (assigned usage semantics .reasoning = none → rate = none))
      (separateReasoningTokens semantics.reasoningTokens usage.reasoningTokens rate)
      (count usage semantics .reasoning) := by
  rw [count, assigned, separateReasoningTokens]
  cases semantics.reasoningTokens with
  | includedInOutput => exact .inl ⟨⟨by rintro ⟨⟩, by rintro ⟨⟩⟩, rfl⟩
  | separate =>
    refine (knownTokens_made usage.reasoningTokens rate .reasoning).congr ?_
    exact ⟨fun known => ⟨by rintro ⟨⟩, known⟩, And.right⟩
  | notReported =>
    by_cases reported : usage.reasoningTokens.getD 0 ≠ 0
    · exact .inr ⟨fun none => reported (none.1 rfl), _, if_pos reported⟩
    · exact .inl ⟨⟨fun _ => not_not.mp reported, by rintro ⟨⟩⟩, if_neg reported⟩

/-- **A billable usage costs the sum of its charges, and every other one is refused.** -/
theorem calculateActualCharge_made {usage : NormalizedUsage} {pricing : PricingSnapshot}
    (exact : Exact (count usage pricing.categorySemantics) pricing.rates) :
    MadeWhen (Billable usage pricing) (calculateActualCharge usage pricing)
      (fullCost (count usage pricing.categorySemantics) pricing) := by
  by_cases complete : usage.status = .complete
  · obtain ⟨inputTokens, outputTokens, input, output⟩ := complete_reported complete
    unfold calculateActualCharge
    rw [if_neg (not_not_intro complete), input, output]
    have tokens : perCategory (count usage pricing.categorySemantics .uncachedInput)
        (usage.cachedReadTokens.getD 0) (usage.cacheWriteTokens.getD 0) outputTokens
        (count usage pricing.categorySemantics .reasoning) = count usage pricing.categorySemantics := by
      rw [← perCategory_eta (count usage pricing.categorySemantics)]
      show _ = perCategory _ _ _ (usage.outputTokens.getD 0) _
      rw [output]
      rfl
    have cost := costOf_made exact
    have step := congrArg (costOf · pricing) tokens
    refine MadeWhen.congr ((knownTokens_made usage.cachedReadTokens _ .cachedRead).bind
      ((uncachedInputTokens_made usage pricing.categorySemantics input).bind
        ((separateReasoningTokens_made usage pricing.categorySemantics _).bind
          ((knownTokens_made usage.cacheWriteTokens _ .cachedWrite).bind
            (step ▸ cost))))) ⟨?_, ?_⟩
    · rintro ⟨cachedRead, within, ⟨unreported, reasoning⟩, cachedWrite, priced⟩
      refine ⟨complete, within, unreported, priced, fun category unknown => ?_⟩
      cases category with
      | uncachedInput => simp [assigned, input] at unknown
      | output => simp [assigned, output] at unknown
      | cachedRead => exact cachedRead unknown
      | cachedWrite => exact cachedWrite unknown
      | reasoning => exact reasoning unknown
    · intro billable
      exact ⟨billable.known .cachedRead, billable.cached,
        ⟨billable.unreported, billable.known .reasoning⟩, billable.known .cachedWrite, billable.priced⟩
  · exact .inr ⟨fun billable => complete billable.complete, _, if_pos complete⟩

/-! ### Billing -/

/-- **Every token is billed once**: a calculation is refused or answers with a cost; a category with tokens
and no rate, or with unknown tokens and a rate, is refused; the tokens of a report are in one category
each, and the charge of a category is that of the tokens in it. -/
structure BillsOnce (usage : NormalizedUsage) (pricing : PricingSnapshot) : Prop where
  ends : (∃ message, calculateActualCharge usage pricing = .error (.calculation message)) ∨
    ∃ cost, calculateActualCharge usage pricing = .ok cost
  made : (∃ cost, calculateActualCharge usage pricing = .ok cost) ↔ Billable usage pricing
  refused : ∀ category,
    (∃ tokens, assigned usage pricing.categorySemantics category = some tokens ∧ tokens ≠ 0 ∧
      pricing.rates.rate category = none) ∨
    (assigned usage pricing.categorySemantics category = none ∧
      pricing.rates.rate category ≠ none) →
    ∃ message, calculateActualCharge usage pricing = .error (.calculation message)
  charged : ∀ cost, calculateActualCharge usage pricing = .ok cost → ∀ category,
    cost.charge category = toPlaces 6 (count usage pricing.categorySemantics category *
      (pricing.rates.rate category).getD 0 / 1000000) ∧ 0 ≤ cost.charge category
  total : ∀ cost, calculateActualCharge usage pricing = .ok cost → cost.total = sumOf cost.charge
  counted : ∀ (Token : Type) [DecidableEq Token]
    (reading : Reading usage pricing.categorySemantics Token),
    (∀ token, reading.Reported token → ∃! category, token ∈ reading.billed category) ∧
    ∀ category, (reading.billed category).card = count usage pricing.categorySemantics category

/-- An input of a thousand tokens, of which two hundred were read from a cache. -/
def smallUsage : NormalizedUsage where
  inputTokens := some 1000
  outputTokens := some 50
  cachedReadTokens := some 200
  cacheWriteTokens := none
  reasoningTokens := some 10
  totalTokens := some 1050
  status := .complete
  valid := Eq.refl true

def smallRate : Category → Option ℚ
  | .uncachedInput => some 3
  | .cachedRead => some (3 / 10)
  | .cachedWrite => none
  | .output => some 15
  | .reasoning => some 15

theorem smallRate_nonneg (category : Category) (value : ℚ) (stated : smallRate category = some value) :
    0 ≤ value := by
  cases category <;> cases stated <;> norm_num

def smallPricing : PricingSnapshot where
  pricingRecordId := "small"
  currency := "USD"
  categorySemantics := ⟨.includesCachedRead, .separate⟩
  rates := ⟨smallRate, smallRate_nonneg⟩
  snapshotSha256 := "sha256:small"

end Audisor.Usage
