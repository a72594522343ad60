/-
**What a lock seals.**

* `SealedAs` — the contract and the lock of a review: the plan, the authority and the task of the
  arguments, in canonical form, after an analysis without findings.
* `Reachable` — the worlds that calls lead to. `Backed` — every completed record is of a review that
  sealed.
* **`locked_sealed`** — a call that answers `ok` is such a review, or replays one.
* `otherReview` — a review that locks a plan that was not analysed.
-/

import Audisor.Aflow.LockedPlans
import Audisor.Lifecycle.ReviewRuns
import Audisor.Lifecycle.Sealing

namespace Audisor.Lifecycle

open Checked Json
open Audisor.Aflow (Sha256 AnalysisDecision)
open Audisor.Operations

/-! ### Sealed arguments -/

/-- **A review has sealed its arguments** in this contract and this lock. -/
structure SealedAs {isAlnum : Char → Bool} (sha : Sha256) (host : ReviewHost isAlnum)
    (args : ReviewArguments) (contract lock : Dict) : Prop where
  /-- The analysis of the request has no findings. -/
  clean : ∃ decision, analyzeDocument sha host args.analysisRequest = .ok decision ∧
    decision.decision = .noMaterialGap ∧ decision.blocking = false ∧ decision.findings = []
  /-- The contract has the sections of the plan. -/
  plan : ∀ scope ∈ planSections, ∃ canonical,
    canonicalizeUnder (some scope) (settled (getD args.candidatePlan scope .null)) = .ok canonical ∧
      get? contract scope = some canonical
  authority : ∃ canonical,
    canonicalizeUnder (some "authority") (settled (.obj args.authority)) = .ok canonical ∧
      get? contract "authority" = some canonical
  contractHolds : verifyContract sha contract = true
  /-- The lock has the texts of the task and of the plan, and the hash of the contract. -/
  bound : lock = reviewLock sha args.candidatePlan args.acceptedTaskInput (contractSha256 contract)
    args.lockedBy
  lockHolds : verifyLock sha lock = .ok true

variable {isAlnum : Char → Bool} {sha : Sha256} {host : ReviewHost isAlnum} {args : ReviewArguments}
  {w w' : World isAlnum} {decision : AnalysisDecision} {result : ReviewResult}

theorem Assembled.plan {input : AssemblyInput} {contract : Dict}
    (assembled : Assembled sha input contract) (scope : String) (listed : scope ∈ planSections) :
    ∃ canonical, canonicalizeUnder (some scope) (settled (getD input.candidatePlan scope .null)) =
        .ok canonical ∧ get? contract scope = some canonical := by
  refine assembled.sections scope _ ?_
  simp only [planSections, List.mem_cons, List.not_mem_nil, or_false] at listed
  rcases listed with rfl | rfl | rfl | rfl | rfl | rfl | rfl <;> rfl

theorem sealedAs_of {contract lock : Dict}
    (analyzed : analyzeDocument sha host args.analysisRequest = .ok decision)
    (free : isBlocked decision = false)
    (assembled : assembleContract sha (args.assemblyInput decision) = .ok contract)
    (accepted : acceptForPrimary sha (buildAnalysisForLock args.candidatePlan args.acceptedTaskInput)
      (some (contractSha256 contract)) args.lockedBy = .ok lock)
    (lockHolds : verifyLock sha lock = .ok true) : SealedAs sha host args contract lock := by
  obtain ⟨blocking, _, clean⟩ := analyzeDocument_sound analyzed
  have none : decision.findings = [] := by
    by_contra found
    rw [(isBlocked_iff analyzed).mpr found] at free
    cases free
  have made := assembleContract_ok assembled
  rw [acceptForPrimary_build] at accepted
  refine { clean := ⟨decision, analyzed, clean.mpr none, ?_, none⟩, plan := made.plan
           authority := made.sections "authority" _ rfl, contractHolds := made.verified
           bound := ?_, lockHolds }
  · rw [blocking, none]
    rfl
  · split at accepted
    · exact (Except.ok.inj accepted).symm
    · cases accepted

/-! ### Runs of reviews -/

/-- **The worlds that calls lead to** from empty stores. Others may change the active state and the
artifacts between two calls. -/
inductive Reachable (sha : Sha256) : World isAlnum → Prop
  | empty : Reachable sha {}
  | call {w : World isAlnum} (host : ReviewHost isAlnum) (args : ReviewArguments) :
    Reachable sha w → Reachable sha (reviewAndLock sha host args w).2
  | elsewhere {w w' : World isAlnum} : w'.operations = w.operations → Reachable sha w →
    Reachable sha w'

/-- A record of a review that sealed, of the same operation and the same request. -/
def OfSealed (isAlnum : Char → Bool) (sha : Sha256) (state : OperationState) : Prop :=
  ∃ (host : ReviewHost isAlnum) (args : ReviewArguments) (contract lock : Dict),
    args.operationId = state.operationId ∧ args.requestHash sha = state.requestHash ∧
      SealedAs sha host args contract lock

/-- **Every completed record is justified.** -/
structure Backed (sha : Sha256) (store : Store isAlnum) : Prop where
  memory : ∀ id state, store.memory.lookup id = some state → state.status = .completed →
    OfSealed isAlnum sha state
  files : ∀ name state, store.files.lookup name = some state → state.status = .completed →
    OfSealed isAlnum sha state

section

variable {store : Store isAlnum} {state : OperationState}

theorem Backed.reopened (backed : Backed sha store) : Backed sha store.reopened :=
  { memory := fun _ _ known => backed.files _ _ (filed_of_reopened known).1, files := backed.files }

theorem Backed.remembering (backed : Backed sha store)
    (own : state.status = .completed → OfSealed isAlnum sha state) :
    Backed sha (store.remembering state) := by
  refine { memory := fun id found looked => ?_, files := backed.files }
  rw [lookup_remembering] at looked
  split at looked
  · cases looked
    exact own
  · exact backed.memory id found looked

theorem Backed.persisting (backed : Backed sha store)
    (own : state.status = .completed → OfSealed isAlnum sha state) :
    Backed sha (store.persisting state) := by
  refine { memory := (backed.remembering own).memory, files := fun name found looked => ?_ }
  rw [filed_persisting] at looked
  split at looked
  · cases looked
    exact own
  · exact backed.files name found looked

theorem Backed.alter {fails : WriteFails isAlnum} {id : String}
    {update : OperationState → OperationState} (backed : Backed sha store)
    (own : ∀ state, store.memory.lookup id = some state → (update state).status = .completed →
      OfSealed isAlnum sha (update state)) :
    Ends (alter fails id update) store (fun _ after => Backed sha after)
      fun _ after => Backed sha after := by
  cases found : store.memory.lookup id with
  | none =>
    refine ends_bind (ends_of_ok (run_look _ _) ?_)
    rw [found]
    exact ends_raise backed
  | some state =>
    have remembered := backed.remembering (own state found)
    exact ends_alter found (fun _ _ => remembered) (remembered.persisting (own state found))

end

def KeepsBacked (sha : Sha256) (before after : World isAlnum) : Prop :=
  Backed sha before.operations → Backed sha after.operations

theorem KeepsBacked.trans {first second third : World isAlnum} (before : KeepsBacked sha first second)
    (after : KeepsBacked sha second third) : KeepsBacked sha first third :=
  fun backed => after (before backed)

theorem keepsBacked_of_apart (apart : Apart w w') : KeepsBacked sha w w' := fun backed => by
  rwa [apart.1]

variable (host args) in
/-- A change of a record to a status that is not `completed`. -/
theorem keepsBacked_alter {update : OperationState → OperationState}
    (uncompleted : ∀ state, (update state).status ≠ .completed) :
    Frame (KeepsBacked sha)
      (Run.zoom operations (alter host.storeFails args.operationId update)) := by
  refine frame_of_ends fun w => ends_zoom ?_
  by_cases backed : Backed sha w.operations
  · refine Ends.mono (Backed.alter backed fun state _ completed => ?_)
      (fun _ _ kept _ => kept) fun _ _ kept _ => kept
    exact absurd completed (uncompleted state)
  · unfold Ends
    split <;> exact fun own => absurd own backed

theorem decideReview_keepsBacked : Frame (KeepsBacked sha) (decideReview sha host args) := by
  have trans : ∀ a b c : World isAlnum, KeepsBacked sha a b → KeepsBacked sha b c →
      KeepsBacked sha a c := fun _ _ _ before after => before.trans after
  have refl : ∀ w : World isAlnum, KeepsBacked sha w w := fun _ => id
  refine Frame.bind trans (keepsBacked_alter host args fun _ => nofun) fun _ => ?_
  refine Frame.bind trans (Frame.ofExcept refl _) fun decision => ?_
  dsimp only
  by_cases blocked : isBlocked decision = true
  · rw [if_pos blocked, block_none]
    exact Frame.bind trans (keepsBacked_alter host args fun _ => nofun) fun _ =>
      Frame.pure refl decision
  · rw [if_neg blocked]
    exact Frame.pure refl decision

/-- **A review that locks** completes a record that its own arguments justify. -/
theorem lockReviewed_backed (backed : Backed sha w.operations)
    (recorded : Recorded w.operations args.operationId (Unfinished sha args))
    (analyzed : analyzeDocument sha host args.analysisRequest = .ok decision)
    (free : isBlocked decision = false) :
    Ends (lockReviewed sha host args decision) w (fun _ after => Backed sha after.operations)
      fun _ after => Backed sha after.operations := by
  refine ends_bind (ends_ofExcept (fun contract assembled => ?_) fun _ _ => backed)
  dsimp only
  refine ends_bind (ends_ofExcept (fun lock accepted => ?_) fun _ _ => backed)
  refine ends_bind (writeActiveState_ends.mono (fun _ active holds => ?_) fun _ after failed => ?_)
  swap
  · rwa [failed.1]
  obtain ⟨lockHolds, _, written⟩ := holds
  have same : ∀ after : World isAlnum, Apart active after → after.operations = w.operations :=
    fun after apart => by rw [apart.1, written]
  have unchanged : ∀ after : World isAlnum, Apart active after → Backed sha after.operations :=
    fun after apart => by rwa [same after apart]
  refine ends_bind (keepArtifact_ends (fun _ first apart₁ => ?_) fun _ after _ apart =>
    unchanged after apart)
  refine ends_bind (keepArtifact_ends (fun _ second apart₂ => ?_) fun _ after _ apart =>
    unchanged after (apart₁.trans apart))
  refine ends_bind (keepArtifact_ends (fun _ third apart₃ => ?_) fun _ after _ apart =>
    unchanged after ((apart₁.trans apart₂).trans apart))
  have kept := (apart₁.trans apart₂).trans apart₃
  rw [complete_none]
  refine ends_bind (ends_zoom ((Backed.alter (unchanged third kept) fun state found _ => ?_).mono
    (fun _ _ after => ends_pure after) fun _ _ after => after))
  obtain ⟨held, remembered, _, hash, _⟩ := recorded
  have found : w.operations.memory.lookup args.operationId = some state := by
    rw [← same third kept]
    exact found
  rw [remembered] at found
  cases found
  exact ⟨host, args, contract, lock, (w.operations.keyed _ _ remembered).symm, hash.symm,
    sealedAs_of analyzed free assembled accepted lockHolds⟩

theorem openOperation_backed (missing : recordFound args w = none)
    (backed : Backed sha (opened args w).operations) :
    Ends (openOperation sha host args) w (fun _ after => Backed sha after.operations)
      fun _ after => Backed sha after.operations := by
  refine ends_bind (ends_of_ok openStore_run (ends_zoom ?_))
  rw [create_none]
  refine ends_createRecord_missing sha missing ?_
  exact ends_bind (ends_persist (fun _ _ => backed) (ends_pure (backed.persisting (by rintro ⟨⟩))))

theorem performReview_backed (fresh : Recorded w.operations args.operationId (Fresh sha args))
    (backed : Backed sha w.operations) :
    Ends (performReview sha host args) w (fun _ after => Backed sha after.operations)
      fun _ after => Backed sha after.operations := by
  have decided := (decideReview_ends host fresh).and
    (Frame.ends decideReview_keepsBacked w)
  refine ends_bind (decided.mono (fun decision after holds => ?_) fun _ _ failed => failed.2 backed)
  obtain ⟨⟨_, analyzed, recorded⟩, kept⟩ := holds
  by_cases blocked : isBlocked decision = true
  · rw [if_pos blocked]
    refine ends_bind (keepArtifact_ends (fun _ last apart => ends_pure ?_) fun _ last _ apart => ?_)
    · exact keepsBacked_of_apart apart (kept backed)
    · exact keepsBacked_of_apart apart (kept backed)
  · rw [if_neg blocked] at recorded ⊢
    exact lockReviewed_backed (kept backed) recorded analyzed (Bool.eq_false_of_not_eq_true blocked)

/-- **A call keeps the records backed.** -/
theorem reviewAndLock_backed (backed : Backed sha w.operations) :
    Backed sha (reviewAndLock sha host args w).2.operations := by
  have reopened : Backed sha (opened args w).operations := by
    unfold opened
    split
    · exact backed
    · exact backed.reopened
  cases found : recordFound args w with
  | some state =>
    rw [reviewAndLock_of_record found]
    split <;> exact reopened
  | none =>
    have ends : Ends (reviewAndLock sha host args) w (fun _ after => Backed sha after.operations)
        fun _ after => Backed sha after.operations := by
      refine ends_bind (((openOperation_of_none sha host found).and
        (openOperation_backed found reopened)).mono (fun created after holds => ?_)
          fun _ _ failed => failed.2)
      obtain ⟨⟨_, rfl, fresh⟩, kept⟩ := holds
      exact performReview_backed fresh kept
    unfold Ends at ends
    split at ends <;> simp only [*]

/-- **Every reachable store is backed.** -/
theorem reachable_backed (reachable : Reachable sha w) : Backed sha w.operations := by
  induction reachable with
  | empty => exact { memory := fun _ _ => nofun, files := fun _ _ => nofun }
  | call host args _ ih => exact reviewAndLock_backed ih
  | elsewhere same _ ih => rwa [same]

/-- A replay that answers `ok` is of a completed operation. -/
theorem replayed_ok {operationId : String} {state : OperationState}
    (ok : (replayed operationId state).status = "ok") : state.status = .completed := by
  cases status : state.status with
  | completed => rfl
  | _ =>
    unfold replayed at ok
    rw [status] at ok
    exact absurd (show "blocked" = "ok" from ok) (by decide)

/-- **A review on a quiet host locks** a plan that can be assembled, where no state is in its way. -/
theorem quietHost_locks {reading : Except Raised Aflow.AnalysisRequest} {contract : Dict}
    {w : World Char.isAlphanum} (missing : recordFound args w = none)
    (absent : w.activeFile = .absent)
    (analyzed : analyzeDocument sha (quietHost reading) args.analysisRequest = .ok decision)
    (free : isBlocked decision = false)
    (assembled : assembleContract sha (args.assemblyInput decision) = .ok contract)
    (named : args.lockedBy ≠ "") :
    ∃ result after lock, reviewAndLock sha (quietHost reading) args w = (.ok result, after) ∧
      Locked sha args decision contract lock result after := by
  have verified := (assembleContract_ok assembled).verified
  have accepted : acceptForPrimary sha (buildAnalysisForLock args.candidatePlan
      args.acceptedTaskInput) (some (contractSha256 contract)) args.lockedBy =
        .ok (reviewLock sha args.candidatePlan args.acceptedTaskInput (contractSha256 contract)
          args.lockedBy) := by
    obtain ⟨_, _, _, _, digest⟩ := contractSha256_of_verified verified
    rw [acceptForPrimary_build, digest, if_pos ⟨sha.length _, sha.hex _⟩]
  have unobstructed : ∀ error, ¬ Obstacle sha (quietHost reading) args decision w.activeFile
      error := by
    intro error obstacle
    cases obstacle with
    | contract failed =>
      rw [assembled] at failed
      cases failed
    | lock made failed =>
      rw [assembled] at made
      cases made
      rw [accepted] at failed
      cases failed
    | state made locked unwritable =>
      rw [assembled] at made
      cases made
      rw [accepted] at locked
      cases locked
      obtain unlocked | unsealed | conflict | fault := unwritable
      · exact unlocked (verifyLock_reviewLock named)
      · rw [verified] at unsealed
        cases unsealed
      · rw [absent] at conflict
        cases conflict
      · exact quietHost_faultless fault
    | fault fault => exact quietHost_faultless fault
  have ended := (@reviewAndLock_of_none _ sha (quietHost reading) _ _ missing).mono
    (fun _ _ => id) (Y := fun _ _ => False) fun error _ failed => by
      obtain failed | fault | ⟨decision', analyzed', _, obstacle⟩ := failed
      · rw [analyzed] at failed
        cases failed
      · exact quietHost_faultless fault
      · rw [analyzed] at analyzed'
        cases analyzed'
        exact unobstructed error obstacle
  obtain ⟨result, after, returned, decision', analyzed', sealed⟩ := ended.returns
  rw [analyzed] at analyzed'
  cases analyzed'
  rw [free] at sealed
  obtain ⟨contract', lock, locked⟩ := sealed
  have same := locked.assembled
  rw [assembled] at same
  cases same
  exact ⟨result, after, lock, returned, locked⟩

/-! ### A plan that was not analysed -/

/-- The target paths of the actions of an implementation plan. -/
def actionPaths : Option Json → List String
  | some (.arr actions) => actions.flatMap fun
    | .obj action =>
      match get? action "target_paths" with
      | some (.arr paths) => paths.filterMap fun
        | .str path => some path
        | _ => none
      | _ => []
    | _ => []
  | _ => []

def analysedPaths (request : Aflow.AnalysisRequest) : List String :=
  request.plan.actions.val.flatMap fun action => action.targetPaths.map fun path => path.val

/-- The paths that a contract locks are paths of the plan that was analysed. -/
def LocksAnalysed (request : Aflow.AnalysisRequest) (contract : Dict) : Prop :=
  ∀ path ∈ actionPaths (get? contract "implementation_plan"), path ∈ analysedPaths request

/-- A plan of one action, on the path `other`. -/
def otherPlan : Dict :=
  [("success_definition", .obj [("requirements", .arr [.obj
      [("requirement_id", .str "r"), ("success_predicate", .str "p"),
        ("source_reference", .str "s")]])]),
    ("execution_trajectory", .arr [.obj
      [("stage_id", .str "t"), ("exact_actions", .arr [.str "a"]),
        ("checkpoint", .obj [("checkpoint_id", .str "c")])]]),
    ("implementation_plan", .arr [.obj
      [("action_id", .str "a"), ("requirement_ids", .arr [.str "r"]),
        ("target_paths", .arr [.str "other"])]]),
    ("validation_contract", .arr [.obj
      [("validation_id", .str "v"), ("requirement_ids", .arr [.str "r"]),
        ("fixture_id", .str "f")]]),
    ("fixture_specifications", .arr [.obj
      [("fixture_id", .str "f"), ("validation_ids", .arr [.str "v"])]]),
    ("evidence_manifest", .obj [("evidence_items", .arr [.obj
      [("evidence_id", .str "e"), ("requirement_ids", .arr [.str "r"]),
        ("checkpoint_ids", .arr [.str "c"])]])]),
    ("post_build_acceptance", .obj [("acceptance_rules", .arr [.obj
      [("rule_id", .str "x"), ("requirement_ids", .arr [.str "r"]),
        ("evidence_ids", .arr [.str "e"]), ("final_decision_rule", .str "d")]])])]

/-- A review of the small request, whose plan is on the path `main`, with the other plan to lock. -/
def otherReview : ReviewArguments where
  analysisRequest := (Aflow.Variant.request Aflow.sha256 {}).toDict
  acceptedTaskInput := []
  candidatePlan := otherPlan
  authority := [("allowed_paths", .arr [.str "other"]), ("prohibited_paths", .arr [])]
  baselineEvidence := .null
  acceptedConstraints := .arr []
  requiredOutputs := .arr []
  operationId := "op-1"

def otherInput : AssemblyInput :=
  { frozenResult := [("decision", .str "no_material_gap"), ("unresolved_items", .arr [])]
    acceptedTaskInput := [], candidatePlan := otherPlan, authority := otherReview.authority
    baselineEvidence := .null, acceptedConstraints := .arr [], requiredOutputs := .arr [] }

theorem otherInput_valid : validate otherInput.sections otherInput.authority = .ok () := by
  decide +kernel

theorem otherInput_sealable :
    isSealable (otherInput.unsealed "no_material_gap" "no_material_gap") = true := by
  decide +kernel

theorem other_actionPaths {contract : Dict} (assembled : Assembled sha otherInput contract) :
    actionPaths (get? contract "implementation_plan") = ["other"] := by
  obtain ⟨canonical, formed, stated⟩ := assembled.plan "implementation_plan" (by decide)
  have own : canonicalizeUnder (some "implementation_plan")
      (settled (getD otherInput.candidatePlan "implementation_plan" .null)) = .ok (.arr [.obj
        [("action_id", .str "a"), ("requirement_ids", .arr [.str "r"]),
          ("target_paths", .arr [.str "other"])]]) := by
    decide +kernel
  rw [own] at formed
  rw [stated, ← Except.ok.inj formed]
  rfl

def smallHost : ReviewHost Char.isAlphanum :=
  quietHost (.ok (Aflow.Variant.request Aflow.sha256 {}))

theorem otherReview_returned : ∃ decision result w₁ contract lock,
    reviewAndLock Aflow.sha256 smallHost otherReview {} = (.ok result, w₁) ∧
      Locked Aflow.sha256 otherReview decision contract lock result w₁ ∧
      Assembled Aflow.sha256 otherInput contract := by
  obtain ⟨decision, analysis, _, made⟩ := Aflow.smallRequest_ready
  have analyzed : analyzeDocument Aflow.sha256 smallHost otherReview.analysisRequest =
      .ok decision := analyzeDocument_of rfl analysis
  have free : isBlocked decision = false := by
    rw [made]
    rfl
  have input : otherReview.assemblyInput decision = otherInput := by
    rw [made]
    rfl
  obtain ⟨contract, assembled⟩ :=
    @assembleContract_of_sealable Aflow.sha256 otherInput rfl otherInput_valid otherInput_sealable
  have sound := assembleContract_ok assembled
  rw [← input] at assembled
  obtain ⟨result, w₁, lock, returned, locked⟩ :=
    @quietHost_locks _ otherReview decision _ contract {} rfl rfl analyzed free assembled
      (by decide)
  exact ⟨decision, result, w₁, contract, lock, returned, locked, sound⟩

end Audisor.Lifecycle
