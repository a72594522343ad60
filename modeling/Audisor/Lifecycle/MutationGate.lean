/-
**An allowed mutation and the lock behind it.**

* `Permits` — a lock and a contract that verify, bound and ready, whose authority and plan have every
  target.
* `verified_of_allowed` — what the check of the lock finds good, is permitted.
* **`allow_permitted_iff`** — an allowed mutation is permitted unless the slices of the state stand in
  for the lock.
* `unverified_slice_allowed` — a state with one slice and no lock.
-/

import Audisor.Lifecycle.Hook

namespace Audisor.Lifecycle

open Checked Json Text
open Audisor.Aflow (Sha256 sha256)
open Audisor.Fix (Disk PathPermitted checkPathsAllowed_none)

section

variable (sha : Sha256) (host : HookHost)

/-- A contract that is ready for its execution. -/
structure ContractReady (contract : Dict) : Prop where
  states : ∃ readiness, get? contract "readiness" = some (.obj readiness) ∧
    holdsText readiness "aflow_decision" "no_material_gap" = true ∧
    holdsText readiness "contract_decision" "no_material_gap" = true ∧
    getD readiness "unresolved_items" .null = .arr [] ∧
    ∃ gates, getD readiness "execution_permitted_when" .null = .obj gates ∧
      ∀ gate ∈ entries gates, gate.2 = .bool true

def text? : Json → Option String
  | .str text => some text
  | _ => none

def pathTexts (value : Json) : List String :=
  match iterate value with
  | .ok items => items.filterMap text?
  | .error _ => []

/-- **A state that permits its targets.** -/
structure Permits (state lock contract : Dict) (targets : List String) : Prop where
  locked : get? state "primary_lock" = some (.obj lock)
  contracted : get? state "execution_contract" = some (.obj contract)
  lockVerifies : verifyLock sha lock = .ok true
  contractVerifies : verifyContract sha contract = true
  bound : ∃ digest, field? lock "canonical_payload" "execution_contract_sha256" = some (.str digest) ∧
    field? contract "lock_payload" "sha256" = some (.str digest)
  ready : ContractReady contract
  undrifted : holdsText state "drift_state" "valid" = true
  authorized : ∀ target ∈ targets, PathPermitted host.disk host.disk.workingDirectory
    (pathTexts (authorityList contract "allowed_paths"))
    (pathTexts (authorityList contract "prohibited_paths")) target
  planned : ∃ planned, plannedPaths contract = .ok planned ∧
    ∀ target ∈ targets, ∃ path ∈ planned, isInside target path = true

/-! ### The check of the lock -/

variable {sha host}

theorem contractReady_of {contract : Dict} (ready : readyContract sha contract = true) :
    ContractReady contract := by
  unfold readyContract at ready
  split at ready
  · rename_i readiness stated
    rw [Bool.and_eq_true, Bool.and_eq_true, Bool.and_eq_true, Bool.and_eq_true,
      decide_eq_true_eq] at ready
    obtain ⟨⟨⟨⟨_, aflow⟩, mapped⟩, resolved⟩, gated⟩ := ready
    split at gated
    · rename_i gates listed
      refine ⟨readiness, stated, aflow, mapped, resolved, gates, listed, fun gate member => ?_⟩
      exact of_decide_eq_true (List.all_eq_true.mp gated gate member)
    · cases gated
  · cases ready

theorem verifyContract_digest {contract : Dict} (verifies : verifyContract sha contract = true) :
    ∃ digest, field? contract "lock_payload" "sha256" = some (.str digest) := by
  unfold verifyContract at verifies
  split at verifies
  · rename_i body lock _ stated
    rw [Bool.and_eq_true] at verifies
    have sealed := verifies.2
    unfold isSealed at sealed
    split at sealed
    · cases sealed
    · rw [Bool.and_eq_true, Bool.and_eq_true] at sealed
      have holds := sealed.1.2
      unfold holdsText at holds
      split at holds
      · rename_i digest found
        exact ⟨digest, by rw [field?, stated]; exact found⟩
      · cases holds
  · cases verifies

theorem eq_str {value : Json} {text : String} (same : Json.eq value (.str text) = true) :
    value = .str text := by
  cases value with
  | str other => rw [Json.eq, beq_iff_eq] at same; rw [same]
  | null => cases same
  | bool other => simp [Json.eq, eqNumber, number?] at same
  | int other => simp [Json.eq, eqNumber, number?] at same
  | float other => simp [Json.eq, eqNumber, number?] at same
  | arr items => cases same
  | obj fields => cases same

/-- **What `verify_active_state` accepts.** -/
theorem verifyActiveState_verified {state contract : Dict} {verified : Bool} {reason : String}
    (accepted : verifyActiveState sha state = .ok (verified, reason, some contract)) :
    ∃ lock, get? state "primary_lock" = some (.obj lock) ∧
      get? state "execution_contract" = some (.obj contract) ∧
      verifyLock sha lock = .ok true ∧ verifyContract sha contract = true ∧
      (∃ digest, field? lock "canonical_payload" "execution_contract_sha256" = some (.str digest) ∧
        field? contract "lock_payload" "sha256" = some (.str digest)) ∧
      ContractReady contract ∧ holdsText state "drift_state" "valid" = true := by
  unfold verifyActiveState at accepted
  split at accepted
  · rename_i lock stated locked listed
    obtain ⟨lockVerifies, read, accepted⟩ := bind_eq_ok.mp accepted
    by_cases good : lockVerifies = false
    · rw [if_pos good] at accepted
      cases accepted
    rw [if_neg good] at accepted
    by_cases unready : verifyContract sha stated = false ∨ readyContract sha stated = false
    · rw [if_pos unready] at accepted
      cases accepted
    rw [if_neg unready] at accepted
    by_cases apart : Json.eq
        ((field? lock "canonical_payload" "execution_contract_sha256").getD .null)
        ((field? stated "lock_payload" "sha256").getD .null) = false
    · simp only [if_pos apart] at accepted
      cases accepted
    simp only [if_neg apart] at accepted
    by_cases drifted : holdsText state "drift_state" "valid" = false
    · rw [if_pos drifted] at accepted
      cases accepted
    rw [if_neg drifted] at accepted
    cases accepted
    rw [not_or, Bool.not_eq_false, Bool.not_eq_false] at unready
    obtain ⟨digest, sealed⟩ := verifyContract_digest unready.1
    rw [sealed, Option.getD_some, Bool.not_eq_false] at apart
    refine ⟨lock, locked, listed, ?_, unready.1, ⟨digest, ?_, sealed⟩,
      contractReady_of unready.2, Bool.eq_true_of_not_eq_false drifted⟩
    · rw [read, Bool.eq_true_of_not_eq_false good]
    · have same := eq_str apart
      cases found : field? lock "canonical_payload" "execution_contract_sha256" with
      | none => rw [found] at same; cases same
      | some value => rw [found, Option.getD_some] at same; rw [same]
  · cases accepted

theorem pathsIn_eq {value : Json} {paths : List String} (read : pathsIn value = .ok paths) :
    pathTexts value = paths := by
  obtain ⟨items, iterated, each⟩ := bind_eq_ok.mp read
  rw [pathTexts, iterated]
  rw [mapM_eq_ok] at each
  clear iterated read
  dsimp only
  induction each with
  | nil => rfl
  | @cons item path items paths first _ ih =>
    cases item with
    | str text =>
      dsimp only at first
      split at first
      · cases first
        rw [List.filterMap_cons, ih]
        rfl
      · cases first
    | _ => cases first

/-- **What `_targets_authorized` accepts.** -/
theorem targetsAuthorized_permitted {targets : List String} {contract : Dict} {reason : String}
    (authorized : targetsAuthorized host targets contract = .ok (true, reason)) :
    (∀ target ∈ targets, PathPermitted host.disk host.disk.workingDirectory
      (pathTexts (authorityList contract "allowed_paths"))
      (pathTexts (authorityList contract "prohibited_paths")) target) ∧
    ∃ planned, plannedPaths contract = .ok planned ∧
      ∀ target ∈ targets, ∃ path ∈ planned, isInside target path = true := by
  obtain ⟨planned, plan, authorized⟩ := bind_eq_ok.mp authorized
  obtain ⟨allowed, allows, authorized⟩ := bind_eq_ok.mp authorized
  obtain ⟨prohibited, prohibits, authorized⟩ := bind_eq_ok.mp authorized
  rw [pathsIn_eq allows, pathsIn_eq prohibits]
  split at authorized
  · cases authorized
  · cases authorized
  · rename_i clear
    split at authorized
    · cases authorized
    · rename_i unplanned
      refine ⟨checkPathsAllowed_none clear, planned, plan, fun target member => ?_⟩
      have listed := List.find?_eq_none.mp unplanned target member
      rw [Bool.not_eq_true, Bool.not_eq_false', List.any_eq_true] at listed
      exact listed

/-- **What the lock allows, the state permits.** -/
theorem permits_of_authorized {state contract : Dict} {targets : List String} {verified : Bool}
    {reason other : String}
    (accepted : verifyActiveState sha state = .ok (verified, reason, some contract))
    (authorized : targetsAuthorized host targets contract = .ok (true, other)) :
    ∃ lock, Permits sha host state lock contract targets := by
  obtain ⟨lock, locked, listed, lockVerifies, contractVerifies, bound, ready, undrifted⟩ :=
    verifyActiveState_verified accepted
  obtain ⟨permitted, planned⟩ := targetsAuthorized_permitted authorized
  exact ⟨lock, locked, listed, lockVerifies, contractVerifies, bound, ready, undrifted, permitted,
    planned⟩

theorem error_ne_allow : "error" ≠ "allow" := by decide

theorem deny_ne_allow : "deny" ≠ "allow" := by decide

theorem checkSliceAuthority_own {state : Dict} {targets : List String} {reason : String}
    (sliced : checkSliceAuthority host state targets = .ok (true, reason))
    (own : reason ∉ ["legacy_global_check", "no_slices_global_check"]) :
    checkSliceAuthority host state targets = .ok (true, "slice_authority_verified") := by
  rw [sliced]
  unfold checkSliceAuthority at sliced
  split at sliced
  · cases sliced
  · cases sliced
    exact absurd List.mem_cons_self own
  · split at sliced
    · cases sliced
      exact absurd (List.mem_cons_of_mem _ List.mem_cons_self) own
    · obtain ⟨objection, _, sliced⟩ := bind_eq_ok.mp sliced
      cases objection <;> cases sliced
      rfl
    · cases sliced
      exact absurd (List.mem_cons_of_mem _ List.mem_cons_self) own

/-- **A finding that allows** rests on the slices or on the lock. -/
theorem findingOn_allow {state : Dict} {found : Finding}
    (allowed : (findingOn sha host state found).decision = "allow") :
    checkSliceAuthority host state found.targets = .ok (true, "slice_authority_verified") ∨
      ∃ lock contract, Permits sha host state lock contract found.targets := by
  unfold findingOn at allowed
  split at allowed
  · exact absurd allowed error_ne_allow
  · rename_i sliceOk sliceReason sliced
    split at allowed
    · rename_i own
      cases sliceOk with
      | false => exact absurd allowed deny_ne_allow
      | true => exact .inl (checkSliceAuthority_own sliced own)
    · split at allowed
      · exact absurd allowed error_ne_allow
      · exact absurd allowed deny_ne_allow
      · rename_i verified reason contract accepted
        split at allowed
        · exact absurd allowed error_ne_allow
        · rename_i authorized other checked
          cases authorized with
          | false => exact absurd allowed deny_ne_allow
          | true =>
            obtain ⟨lock, permits⟩ := permits_of_authorized accepted checked
            exact .inr ⟨lock, contract, permits⟩

theorem findingOf_allow {payload : Dict} {file : StateFile}
    (mutation : isMutationAttempt host payload = true)
    (allowed : (findingOf sha host payload file).decision = "allow") :
    ∃ targets state, requestedTargets host payload = some targets ∧ targets ≠ [] ∧
      loadActiveState file = .ok (some state) ∧
      (findingOn sha host state { decision := "allow", reason := "read-only operation", targets
                                  lockPresent := true }).decision = "allow" := by
  rw [findingOf, if_pos mutation] at allowed
  cases loaded : loadActiveState file with
  | error error =>
    rw [loaded] at allowed
    exact absurd allowed error_ne_allow
  | ok state =>
    simp only [loaded] at allowed
    by_cases listed : (requestedTargets host payload).getD [] = []
    · rw [if_pos listed] at allowed
      exact absurd allowed deny_ne_allow
    · rw [if_neg listed] at allowed
      cases state with
      | none => exact absurd allowed deny_ne_allow
      | some state =>
        cases named : requestedTargets host payload with
        | none => exact absurd (by rw [named]; rfl) listed
        | some targets =>
          rw [named] at listed allowed
          exact ⟨targets, state, rfl, listed, rfl, allowed⟩

theorem evaluateHookPayload_decision {audit : Dict → Except Raised String} {payload : Dict}
    {file : StateFile} {evaluation : Evaluation}
    (evaluated : evaluateHookPayload sha host audit payload file = .ok evaluation) :
    evaluation.decision = (findingOf sha host payload file).decision := by
  unfold evaluateHookPayload at evaluated
  generalize findingOf sha host payload file = found at evaluated ⊢
  obtain ⟨path, _, returned⟩ := bind_eq_ok.mp evaluated
  exact congrArg Evaluation.decision (pure_eq_ok.mp returned).symm

end

/-! ### The decision -/

section

variable (sha : Sha256) (host : HookHost)

/-- An allowed mutation whose targets a verified lock and contract permit. -/
def Justified (payload : Dict) (file : StateFile) : Prop :=
  ∃ targets state lock contract, requestedTargets host payload = some targets ∧
    loadActiveState file = .ok (some state) ∧ Permits sha host state lock contract targets

/-- Whether the slices of the state have every target of a mutation. -/
def SlicesAuthorize (payload : Dict) (file : StateFile) : Prop :=
  isMutationAttempt host payload = true ∧ ∃ targets state,
    requestedTargets host payload = some targets ∧ targets ≠ [] ∧
    loadActiveState file = .ok (some state) ∧
    checkSliceAuthority host state targets = .ok (true, "slice_authority_verified")

theorem SlicesAuthorize.allowed {payload : Dict} {file : StateFile}
    (sliced : SlicesAuthorize host payload file) :
    (findingOf sha host payload file).decision = "allow" := by
  obtain ⟨mutation, targets, state, named, listed, loaded, authorized⟩ := sliced
  rw [findingOf, if_pos mutation, loaded]
  simp only [named, Option.getD_some, if_neg listed]
  rw [findingOn]
  simp only [authorized]
  rfl

theorem SlicesAuthorize.decided {payload : Dict} {file : StateFile}
    (sliced : SlicesAuthorize host payload file) (path : String) :
    ∃ evaluation, evaluateHookPayload sha host (fun _ => .ok path) payload file = .ok evaluation ∧
      evaluation.decision = "allow" :=
  ⟨_, rfl, sliced.allowed sha host⟩

/-- **An allowed mutation is justified, unless slices that no lock covers have its targets.** -/
theorem allow_permitted_iff (payload : Dict) (file : StateFile) :
    (∀ audit evaluation, isMutationAttempt host payload = true →
      evaluateHookPayload sha host audit payload file = .ok evaluation →
      evaluation.decision = "allow" → Justified sha host payload file) ↔
    (SlicesAuthorize host payload file → Justified sha host payload file) := by
  constructor
  · intro permitted sliced
    obtain ⟨evaluation, evaluated, allowed⟩ := sliced.decided sha host ""
    exact permitted _ evaluation sliced.1 evaluated allowed
  · intro covered audit evaluation mutation evaluated allowed
    rw [evaluateHookPayload_decision evaluated] at allowed
    obtain ⟨targets, state, named, listed, loaded, decided⟩ := findingOf_allow mutation allowed
    rcases findingOn_allow decided with sliced | ⟨lock, contract, permits⟩
    · exact covered ⟨mutation, targets, state, named, listed, loaded, sliced⟩
    · exact ⟨targets, state, lock, contract, named, loaded, permits⟩

end

/-! ### A slice without a lock -/

def plainHost : HookHost where
  repr := plainRepr
  isWord c := c.isAlphanum || c == '_'
  repoRoot := ["repo"]
  resolve text := some (Path.joined ["repo"] text)
  disk := { resolve := id, isThere := fun _ => true, isDir := fun _ => false
            workingDirectory := ["repo"] }
  now := "2026-01-01T00:00:00+00:00"

def editPayload : Dict :=
  [("tool_name", .str "edit"), ("requested_targets", .arr [.str "src/app.py"])]

def slicedState : Dict :=
  [("schema_version", .int 2), ("slices", .obj [("s", .obj
    [("status", .str "locked"), ("allowed_paths", .arr [.str "src"])])])]

def slicedFile : StateFile := .written
  "\x7b\"schema_version\":2,\"slices\":\x7b\"s\":\x7b\"status\":\"locked\",\"allowed_paths\":[\"src\"]\x7d\x7d\x7d"

theorem slicedFile_loads : loadActiveState slicedFile = .ok (some slicedState) := by
  have read : loads "\x7b\"schema_version\":2,\"slices\":\x7b\"s\":\x7b\"status\":\"locked\",\"allowed_paths\":[\"src\"]\x7d\x7d\x7d" =
      some (.obj slicedState) := by decide +kernel
  rw [slicedFile, loadActiveState, read]
  rfl

theorem slicedFile_authorizes : SlicesAuthorize plainHost editPayload slicedFile :=
  ⟨by decide +kernel, ["src/app.py"], slicedState, by decide +kernel, List.cons_ne_nil _ _,
    slicedFile_loads, rfl⟩

/-- **The slice stands in for a lock that is not there.** -/
theorem unverified_slice_allowed :
    isMutationAttempt plainHost editPayload = true ∧
    (∃ evaluation, evaluateHookPayload sha256 plainHost (fun _ => .ok "audit.json") editPayload
      slicedFile = .ok evaluation ∧ evaluation.decision = "allow") ∧
    ¬ Justified sha256 plainHost editPayload slicedFile := by
  refine ⟨slicedFile_authorizes.1, slicedFile_authorizes.decided sha256 plainHost _, ?_⟩
  rintro ⟨targets, state, lock, contract, _, loaded, permits⟩
  have read := Option.some.inj (Except.ok.inj (slicedFile_loads.symm.trans loaded))
  have absent : get? slicedState "primary_lock" = none := rfl
  have locked := permits.locked
  rw [← read, absent] at locked
  cases locked

end Audisor.Lifecycle
