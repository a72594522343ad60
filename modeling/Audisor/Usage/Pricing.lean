/-
**The pricing registry.**

* `DateTime`, `utc` — times with or without a zone; `PricingRecord` — the rates of a model for a window of
  time, which is not empty.
* `PricingRegistry` — records whose identities are distinct and whose windows open at a time with a zone.
* `resolve` — the record in force, which raises where two are.
* `Apart` — two records of one model have windows that do not overlap.
* **`resolve_unambiguous`** — resolving never raises exactly when all records are apart, and then answers
  with the one record that is in force.
-/

import Audisor.Interaction.Checked
import Mathlib.Data.List.Pairwise
import Mathlib.Tactic.Linarith

namespace Audisor.Usage

open Checked

/-! ### Times -/

/-- `datetime`: microseconds on the wall, and how far that wall is ahead of UTC where a zone says so. -/
structure DateTime where
  wall : ℤ
  offset : Option ℤ
  deriving DecidableEq

def DateTime.instant (time : DateTime) : ℤ := time.wall - time.offset.getD 0

/-- `PricingRegistryError`. -/
structure PricingRegistryError where
  message : String
  deriving DecidableEq

/-- `_utc`. -/
def utc (time : DateTime) : Except PricingRegistryError ℤ := do
  refuse (time.offset = none) ⟨"pricing timestamps must include a timezone"⟩
  return time.instant

/-! ### Records -/

/-- A window of time that `valid_window` accepts. Times with and without a zone do not compare. -/
def ValidWindow (effectiveFrom : DateTime) (effectiveUntil : Option DateTime) : Prop :=
  ∀ last ∈ effectiveUntil,
    last.offset.isSome = effectiveFrom.offset.isSome ∧ effectiveFrom.instant < last.instant

/-- The rates of a model for a window of time. The registry copies the other terms. -/
structure PricingRecord (Terms : Type) where
  provider : String
  model : String
  effectiveFrom : DateTime
  effectiveUntil : Option DateTime
  terms : Terms
  validWindow : ValidWindow effectiveFrom effectiveUntil

variable {Terms : Type}

/-- A record that was in force, with the hash of its canonical text. -/
structure RecordSnapshot (Terms : Type) where
  record : PricingRecord Terms
  snapshotSha256 : String

/-- The loop of `__init__`, with the identities seen so far. -/
def checkIdentities (seen : List (String × String × ℤ)) :
    List (PricingRecord Terms) → Except PricingRegistryError Unit
  | [] => .ok ()
  | record :: rest => do
    let opens ← utc record.effectiveFrom
    refuse ((record.provider, record.model, opens) ∈ seen) ⟨"duplicate pricing record identity"⟩
    checkIdentities ((record.provider, record.model, opens) :: seen) rest

/-- `PricingRegistry`: records that its constructor lets through. -/
structure PricingRegistry (Terms : Type) where
  records : List (PricingRecord Terms)
  accepted : checkIdentities [] records = .ok ()

/-! ### Resolving -/

/-- The condition of the comprehension of `resolve`. -/
def inForce (provider model : String) (instant : ℤ) (record : PricingRecord Terms) :
    Except PricingRegistryError Bool :=
  if record.provider = provider ∧ record.model = model then do
    let opens ← utc record.effectiveFrom
    if opens ≤ instant then
      match record.effectiveUntil with
      | none => return true
      | some last => return decide (instant < (← utc last))
    else return false
  else return false

def matching (provider model : String) (instant : ℤ) :
    List (PricingRecord Terms) → Except PricingRegistryError (List (PricingRecord Terms))
  | [] => .ok []
  | record :: rest => do
    let held ← inForce provider model instant record
    let others ← matching provider model instant rest
    return if held then record :: others else others

/-- The snapshot of the one match, where `digest` is the hash of a record's canonical text. -/
def snapshotOf (digest : PricingRecord Terms → String) :
    List (PricingRecord Terms) → Except PricingRegistryError (Option (RecordSnapshot Terms))
  | [] => .ok none
  | [record] => .ok (some ⟨record, digest record⟩)
  | _ => .error ⟨"overlapping pricing records"⟩

/-- `resolve`. -/
def PricingRegistry.resolve (registry : PricingRegistry Terms) (digest : PricingRecord Terms → String)
    (provider model : String) (time : DateTime) :
    Except PricingRegistryError (Option (RecordSnapshot Terms)) := do
  let instant ← utc time
  snapshotOf digest (← matching provider model instant registry.records)

/-! ### Windows -/

/-- A record is in force for a model at an instant. -/
def InForce (provider model : String) (instant : ℤ) (record : PricingRecord Terms) : Prop :=
  record.provider = provider ∧ record.model = model ∧ record.effectiveFrom.instant ≤ instant ∧
    ∀ last ∈ record.effectiveUntil, instant < last.instant

instance (provider model : String) (instant : ℤ) :
    DecidablePred (@InForce Terms provider model instant) := fun _ =>
  inferInstanceAs (Decidable (_ ∧ _ ∧ _ ∧ ∀ last ∈ _, _))

/-- The records that are in force, in their order. -/
def heldOf (provider model : String) (instant : ℤ) (records : List (PricingRecord Terms)) :
    List (PricingRecord Terms) :=
  records.filter fun record => InForce provider model instant record

/-- **Two records are apart**: of different models, or one window closes before the other opens. -/
def Apart (first second : PricingRecord Terms) : Prop :=
  first.provider = second.provider → first.model = second.model →
    (∃ last ∈ first.effectiveUntil, last.instant ≤ second.effectiveFrom.instant) ∨
      ∃ last ∈ second.effectiveUntil, last.instant ≤ first.effectiveFrom.instant

theorem utc_eq_ok {time : DateTime} {instant : ℤ} :
    utc time = .ok instant ↔ time.offset.isSome = true ∧ time.instant = instant := by
  rw [utc, then_eq_ok, refuse_eq_ok, pure_eq_ok, Option.isSome_iff_ne_none]

theorem zoned_of_accepted {records : List (PricingRecord Terms)} {seen : List (String × String × ℤ)}
    (accepted : checkIdentities seen records = .ok ()) :
    ∀ record ∈ records, record.effectiveFrom.offset.isSome = true := by
  induction records generalizing seen with
  | nil => exact List.forall_mem_nil _
  | cons record rest ih =>
    rw [checkIdentities] at accepted
    obtain ⟨opens, read, accepted⟩ := bind_eq_ok.mp accepted
    exact List.forall_mem_cons.mpr ⟨(utc_eq_ok.mp read).1, ih (then_eq_ok.mp accepted).2⟩

variable {provider model : String} {instant : ℤ}

/-- A record whose window opens at a time with a zone is read without an error. -/
theorem inForce_zoned {record : PricingRecord Terms}
    (zoned : record.effectiveFrom.offset.isSome = true) :
    ∃ held, inForce provider model instant record = .ok held ∧
      (held = true ↔ InForce provider model instant record) := by
  have opens : utc record.effectiveFrom = .ok record.effectiveFrom.instant := utc_eq_ok.mpr ⟨zoned, rfl⟩
  unfold inForce InForce
  by_cases named : record.provider = provider ∧ record.model = model
  · rw [if_pos named, opens]
    by_cases begun : record.effectiveFrom.instant ≤ instant
    · simp only [bind, Except.bind, if_pos begun]
      cases closes : record.effectiveUntil with
      | none => exact ⟨true, rfl, iff_of_true rfl ⟨named.1, named.2, begun, nofun⟩⟩
      | some last =>
        have valid := record.validWindow last closes
        have read : utc last = .ok last.instant := utc_eq_ok.mpr ⟨valid.1.trans zoned, rfl⟩
        refine ⟨decide (instant < last.instant), ?_, ?_⟩
        · simp only [read]
          rfl
        · rw [decide_eq_true_iff]
          constructor
          · exact fun before => ⟨named.1, named.2, begun, fun _ same => Option.some.inj same ▸ before⟩
          · exact fun held => held.2.2.2 last rfl
    · simp only [bind, Except.bind, if_neg begun]
      exact ⟨false, rfl, iff_of_false Bool.noConfusion fun held => begun held.2.2.1⟩
  · rw [if_neg named]
    exact ⟨false, rfl, iff_of_false Bool.noConfusion fun held => named ⟨held.1, held.2.1⟩⟩

theorem mem_heldOf {records : List (PricingRecord Terms)} {record : PricingRecord Terms} :
    record ∈ heldOf provider model instant records ↔
      record ∈ records ∧ InForce provider model instant record := by
  rw [heldOf, List.mem_filter, decide_eq_true_iff]

theorem heldOf_cons (record : PricingRecord Terms) (rest : List (PricingRecord Terms)) :
    heldOf provider model instant (record :: rest) =
      if InForce provider model instant record then record :: heldOf provider model instant rest
      else heldOf provider model instant rest := by
  simp only [heldOf, List.filter_cons, decide_eq_true_eq]

/-- The comprehension finds the records that are in force. -/
theorem matching_zoned {records : List (PricingRecord Terms)}
    (zoned : ∀ record ∈ records, record.effectiveFrom.offset.isSome = true) :
    matching provider model instant records = .ok (heldOf provider model instant records) := by
  induction records with
  | nil => rfl
  | cons record rest ih =>
    obtain ⟨first, others⟩ := List.forall_mem_cons.mp zoned
    obtain ⟨held, read, holds⟩ := @inForce_zoned Terms provider model instant record first
    rw [matching, read, ih others]
    rw [heldOf_cons]
    cases held with
    | true => rw [if_pos (holds.mp rfl)]; rfl
    | false => rw [if_neg fun inside => by cases holds.mpr inside]; rfl

/-- Two records that are in force at once are not apart. -/
theorem not_apart_of_inForce {first second : PricingRecord Terms}
    (one : InForce provider model instant first) (other : InForce provider model instant second) :
    ¬ Apart first second := by
  intro apart
  rcases apart (one.1.trans other.1.symm) (one.2.1.trans other.2.1.symm) with
    ⟨last, closes, before⟩ | ⟨last, closes, before⟩
  · have open' := one.2.2.2 last closes
    linarith [other.2.2.1]
  · have open' := other.2.2.2 last closes
    linarith [one.2.2.1]

/-- Two records that are not apart are in force at once: when the later window opens. -/
theorem inForce_of_not_apart {first second : PricingRecord Terms} (overlap : ¬ Apart first second) :
    ∃ instant, InForce first.provider first.model instant first ∧
      InForce first.provider first.model instant second := by
  rw [Apart] at overlap
  push Not at overlap
  obtain ⟨provider, model, later, earlier⟩ := overlap
  rcases le_total first.effectiveFrom.instant second.effectiveFrom.instant with before | after
  · exact ⟨_, ⟨rfl, rfl, before, later⟩, provider.symm, model.symm, le_rfl,
      fun last closes => (second.validWindow last closes).2⟩
  · exact ⟨_, ⟨rfl, rfl, le_rfl, fun last closes => (first.validWindow last closes).2⟩,
      provider.symm, model.symm, after, earlier⟩

/-! ### The registry -/

variable (registry : PricingRegistry Terms) (digest : PricingRecord Terms → String)

theorem resolve_eq {time : DateTime} (zoned : time.offset.isSome = true) :
    registry.resolve digest provider model time =
      snapshotOf digest (heldOf provider model time.instant registry.records) := by
  have read : utc time = .ok time.instant := utc_eq_ok.mpr ⟨zoned, rfl⟩
  rw [PricingRegistry.resolve, read]
  simp only [bind, Except.bind, matching_zoned (zoned_of_accepted registry.accepted)]

/-- Of records that are apart, one at most is in force. -/
theorem heldOf_apart {records : List (PricingRecord Terms)} (apart : records.Pairwise Apart) :
    heldOf provider model instant records = [] ∨
      ∃ record, heldOf provider model instant records = [record] := by
  have alone : (heldOf provider model instant records).Pairwise fun _ _ => False :=
    List.Pairwise.imp_of_mem (fun one other apart =>
      not_apart_of_inForce (mem_heldOf.mp one).2 (mem_heldOf.mp other).2 apart) (apart.filter _)
  cases found : heldOf provider model instant records with
  | nil => exact .inl rfl
  | cons record rest =>
    cases rest with
    | nil => exact .inr ⟨record, rfl⟩
    | cons other rest =>
      rw [found] at alone
      exact (List.rel_of_pairwise_cons alone List.mem_cons_self).elim

/-- Two records that are in force at once make resolving raise. -/
theorem snapshotOf_heldOf {records : List (PricingRecord Terms)} {first second : PricingRecord Terms}
    (listed : [first, second].Sublist records) (one : InForce provider model instant first)
    (other : InForce provider model instant second) :
    snapshotOf digest (heldOf provider model instant records) =
      .error ⟨"overlapping pricing records"⟩ := by
  have both : [first, second].Sublist (heldOf provider model instant records) := by
    have kept : (heldOf provider model instant [first, second]).Sublist
        (heldOf provider model instant records) := listed.filter _
    rwa [heldOf_cons, if_pos one, heldOf_cons, if_pos other] at kept
  cases held : heldOf provider model instant records with
  | nil =>
    rw [held] at both
    cases both
  | cons record rest =>
    cases rest with
    | nil =>
      rw [held] at both
      exact absurd both.length_le (Nat.not_succ_le_self 1)
    | cons more rest => rfl

/-- **Resolving is unambiguous**: it answers for every model and every time with a zone exactly when no two
windows of one model overlap, and then with the record that is in force, if there is one. -/
theorem resolve_unambiguous :
    ((∀ provider model time, time.offset.isSome = true →
        ∃ found, registry.resolve digest provider model time = .ok found) ↔
      registry.records.Pairwise Apart) ∧
    (registry.records.Pairwise Apart → ∀ provider model time, time.offset.isSome = true →
      ∀ snapshot, registry.resolve digest provider model time = .ok (some snapshot) ↔
        snapshot.record ∈ registry.records ∧ InForce provider model time.instant snapshot.record ∧
          snapshot.snapshotSha256 = digest snapshot.record) := by
  refine ⟨⟨fun answers => ?_, fun apart provider model time zoned => ?_⟩,
    fun apart provider model time zoned snapshot => ?_⟩
  · rw [List.pairwise_iff_forall_sublist]
    intro first second listed
    by_contra overlap
    obtain ⟨instant, one, other⟩ := inForce_of_not_apart overlap
    obtain ⟨found, answered⟩ := answers first.provider first.model ⟨instant, some 0⟩ rfl
    have same : DateTime.instant ⟨instant, some 0⟩ = instant := sub_zero instant
    rw [resolve_eq registry digest rfl, same, snapshotOf_heldOf digest listed one other] at answered
    cases answered
  · rw [resolve_eq registry digest zoned]
    rcases @heldOf_apart Terms provider model time.instant _ apart with none | ⟨record, one⟩
    · rw [none]
      exact ⟨_, rfl⟩
    · rw [one]
      exact ⟨_, rfl⟩
  · obtain ⟨record, sha256⟩ := snapshot
    have listed := @mem_heldOf Terms provider model time.instant registry.records
    rw [resolve_eq registry digest zoned]
    rcases @heldOf_apart Terms provider model time.instant _ apart with none | ⟨only, one⟩
    · rw [none] at listed ⊢
      refine iff_of_false (fun absent => by cases absent) fun held => ?_
      exact List.not_mem_nil (listed.mpr ⟨held.1, held.2.1⟩)
    · rw [one] at listed ⊢
      constructor
      · intro answered
        cases answered
        obtain ⟨own, held⟩ := listed.mp List.mem_cons_self
        exact ⟨own, held, rfl⟩
      · rintro ⟨own, held, hashed⟩
        obtain rfl : record = only := List.mem_singleton.mp (listed.mpr ⟨own, held⟩)
        obtain rfl : sha256 = digest record := hashed
        rfl

end Audisor.Usage
