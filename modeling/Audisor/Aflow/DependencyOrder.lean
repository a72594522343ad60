/-
**The check of dependencies is exact, and a ready plan can be carried out in order.**

* `Needs plan other node` — both are actions of the plan, and the second depends on the first.
* `Walk.Extends`, `Walk.Sound` — what a walk adds, and what it keeps while it finds nothing.
* `visit_sound` — a quiet visit leaves its action in order. `visit_cyclic` — a visit that finds something
  has walked a cycle.
* **`dependencies_exact`** — a cycle is reported exactly where there is one, an unknown dependency exactly
  where there is one, and the actions of a ready plan have an order.
-/

import Audisor.Aflow.ReadyPlans
import Audisor.Graph.Dependencies

namespace Audisor.Aflow.DependencyChecks

open Relation

/-! ### Kinds of findings -/

def Kind (words : String) (finding : Finding) : Prop :=
  words.toList <+: finding.findingId.toList

theorem kind_append (words rest : String) {finding : Finding}
    (named : finding.findingId = words ++ rest) : Kind words finding := by
  rw [Kind, named, String.toList_append]
  exact List.prefix_append _ _

theorem Kind.unique {words other : String} {finding : Finding} (kind : Kind words finding)
    (kind' : Kind other finding) : words.toList <+: other.toList ∨ other.toList <+: words.toList :=
  List.prefix_or_prefix_of_prefix kind kind'

/-! ### Walks -/

/-- Both are actions of the plan, and the second depends on the first. -/
def Needs (plan : Plan) (other node : Identifier) : Prop :=
  other ∈ plan.actions.val.map Action.actionId ∧
    ∃ action ∈ plan.actions.val, action.actionId = node ∧ other ∈ action.dependsOn.val

theorem mem_actionIds {plan : Plan} {id : Identifier} :
    id ∈ actionIds plan ↔ id ∈ plan.actions.val.map Action.actionId := by
  simp [actionIds, dictKeys]

/-- What a part of the walk adds: actions that it has left, and findings on cycles. -/
structure Walk.Extends (walk walk' : Walk) : Prop where
  visited : walk.visited ⊆ walk'.visited
  findings : ∃ found, walk'.findings = walk.findings ++ found ∧
    ∀ finding ∈ found, Kind "dependency.cycle." finding

theorem Walk.Extends.refl (walk : Walk) : walk.Extends walk :=
  ⟨List.Subset.refl _, [], (List.append_nil _).symm, List.forall_mem_nil _⟩

theorem Walk.Extends.trans {walk mid last : Walk} (first : walk.Extends mid)
    (second : mid.Extends last) : walk.Extends last := by
  obtain ⟨found, begun, cyclic⟩ := first.findings
  obtain ⟨further, ended, cyclic'⟩ := second.findings
  refine ⟨List.Subset.trans first.visited second.visited, found ++ further, ?_, ?_⟩
  · rw [ended, begun, List.append_assoc]
  · exact List.forall_mem_append.mpr ⟨cyclic, cyclic'⟩

theorem Walk.Extends.quiet {walk mid last : Walk} (first : walk.Extends mid)
    (second : mid.Extends last) (same : last.findings = walk.findings) :
    mid.findings = walk.findings := by
  obtain ⟨found, begun, -⟩ := first.findings
  obtain ⟨further, ended, -⟩ := second.findings
  have nothing : found ++ further = [] := by
    rw [ended, begun, List.append_assoc] at same
    exact List.append_right_eq_self.mp same
  rw [begun, (List.append_eq_nil_iff.mp nothing).1, List.append_nil]

section Fold

variable {items : List Identifier} {step : Walk → Identifier → Walk}

theorem foldl_extends (items : List Identifier)
    (each : ∀ (walk : Walk) item, walk.Extends (step walk item)) (walk : Walk) :
    walk.Extends (items.foldl step walk) := by
  induction items generalizing walk with
  | nil => exact .refl walk
  | cons item rest ih => exact (each walk item).trans (ih (step walk item))

theorem foldl_quiet {keeps : Walk → Prop} {reaches : Identifier → Prop}
    (each : ∀ (walk : Walk) item, walk.Extends (step walk item))
    (keep : ∀ walk item, keeps walk → (step walk item).findings = walk.findings →
      keeps (step walk item) ∧ (reaches item → item ∈ (step walk item).visited))
    (walk : Walk) (kept : keeps walk)
    (quiet : (items.foldl step walk).findings = walk.findings) :
    keeps (items.foldl step walk) ∧
      ∀ item ∈ items, reaches item → item ∈ (items.foldl step walk).visited := by
  induction items generalizing walk with
  | nil => exact ⟨kept, List.forall_mem_nil _⟩
  | cons item rest ih =>
    rw [List.foldl_cons] at quiet ⊢
    have onward := foldl_extends rest each (step walk item)
    have still := (each walk item).quiet onward quiet
    obtain ⟨kept', reached⟩ := keep walk item kept still
    obtain ⟨kept'', others⟩ := ih (step walk item) kept' (quiet.trans still.symm)
    refine ⟨kept'', List.forall_mem_cons.mpr ⟨fun known => ?_, others⟩⟩
    exact onward.visited (reached known)

theorem foldl_found {property : Prop} (walk : Walk)
    (each : ∀ item ∈ items, ∀ walk, (step walk item).findings ≠ walk.findings → property)
    (found : (items.foldl step walk).findings ≠ walk.findings) : property := by
  induction items generalizing walk with
  | nil => exact absurd rfl found
  | cons item rest ih =>
    rw [List.foldl_cons] at found
    by_cases quiet : (step walk item).findings = walk.findings
    · refine ih (step walk item) (fun other member => each other (List.mem_cons_of_mem _ member)) ?_
      rwa [quiet]
    · exact each item List.mem_cons_self walk quiet

end Fold

/-! ### Visits -/

section Visit

variable {request : AnalysisRequest}

section Equations

variable {visiting : List Identifier} {actionId : Identifier} {chain : List Identifier} {walk : Walk}

theorem visit_inside (inside : actionId ∈ visiting) :
    visit request visiting actionId chain walk =
      { walk with
        findings := walk.findings ++ [cycleFinding request chain actionId walk.findings.length] } := by
  rw [visit, if_pos inside]

theorem visit_left (outside : actionId ∉ visiting) (left : actionId ∈ walk.visited) :
    visit request visiting actionId chain walk = walk := by
  rw [visit, if_neg outside, if_pos left]

theorem visit_unknown (outside : actionId ∉ visiting) (new : actionId ∉ walk.visited)
    (unknown : byKey request.plan.actions.val Action.actionId actionId = none) :
    visit request visiting actionId chain walk = walk := by
  rw [visit, if_neg outside, if_neg new]
  split
  · rfl
  · rename_i action known
    cases unknown.symm.trans known

/-- The walk over the dependencies of an action, from inside of it. -/
def visitAll (request : AnalysisRequest) (visiting chain dependencies : List Identifier)
    (walk : Walk) : Walk :=
  dependencies.foldl (fun walk dependency =>
    visit request visiting dependency (chain ++ [dependency]) walk) walk

theorem visit_known (outside : actionId ∉ visiting) (new : actionId ∉ walk.visited) {action : Action}
    (known : byKey request.plan.actions.val Action.actionId actionId = some action) :
    visit request visiting actionId chain walk =
      let left := visitAll request (actionId :: visiting) chain action.dependsOn.val walk
      { left with visited := left.visited ++ [actionId] } := by
  rw [visit, if_neg outside, if_neg new]
  split
  · rename_i unknown
    cases known.symm.trans unknown
  · rename_i other found
    cases known.symm.trans found
    rfl

end Equations

/-- **A visit only adds**: actions that it has left, and findings on cycles. -/
theorem visit_extends (visiting : List Identifier) (actionId : Identifier) (chain : List Identifier)
    (walk : Walk) : walk.Extends (visit request visiting actionId chain walk) := by
  induction visiting, actionId, chain, walk using visit.induct request with
  | case1 visiting actionId chain walk inside =>
    rw [visit_inside inside]
    refine ⟨List.Subset.refl _, _, rfl, List.forall_mem_singleton.mpr ?_⟩
    exact kind_append _ (numeral (walk.findings.length + 1)) (makeFinding_findingId ..)
  | case2 visiting actionId chain walk outside left =>
    rw [visit_left outside left]
    exact .refl walk
  | case3 visiting actionId chain walk outside new unknown =>
    rw [visit_unknown outside new unknown]
    exact .refl walk
  | case4 visiting actionId chain walk outside new action known ih =>
    rw [visit_known outside new known]
    have onward := foldl_extends action.dependsOn.val ih walk
    exact ⟨List.subset_append_of_subset_left _ onward.visited, onward.findings⟩

/-- **A walk that has found nothing**: what it has left is in order, and it is not inside of it. -/
structure Walk.Sound (plan : Plan) (visiting : List Identifier) (walk : Walk) : Prop where
  ordered : Graph.Ordered (Needs plan) walk.visited
  distinct : walk.visited.Nodup
  known : ∀ id ∈ walk.visited, id ∈ actionIds plan
  outside : ∀ id ∈ walk.visited, id ∉ visiting

theorem Walk.Sound.leave (distinct : (request.plan.actions.val.map Action.actionId).Nodup)
    {visiting : List Identifier} {actionId : Identifier} {walk : Walk}
    (sound : walk.Sound request.plan (actionId :: visiting)) {action : Action}
    (known : byKey request.plan.actions.val Action.actionId actionId = some action)
    (entered : actionId ∉ visiting)
    (ready : ∀ dependency ∈ action.dependsOn.val, dependency ∈ actionIds request.plan →
      dependency ∈ walk.visited) :
    ({ walk with visited := walk.visited ++ [actionId] } : Walk).Sound request.plan visiting where
  ordered := by
    refine sound.ordered.concat ?_
    rintro other ⟨listed, own, among, rfl, needed⟩
    cases (byKey_mem distinct among).symm.trans known
    exact ready other needed (mem_actionIds.mpr listed)
  distinct := by
    refine List.nodup_append.mpr ⟨sound.distinct, List.nodup_singleton _, ?_⟩
    rintro id left _ (_ | ⟨_, ⟨⟩⟩) rfl
    exact sound.outside _ left List.mem_cons_self
  known := by
    refine List.forall_mem_append.mpr ⟨sound.known, List.forall_mem_singleton.mpr ?_⟩
    obtain ⟨among, rfl⟩ := byKey_some known
    exact mem_actionIds.mpr (List.mem_map_of_mem among)
  outside := by
    refine List.forall_mem_append.mpr ⟨fun id left inside => ?_, List.forall_mem_singleton.mpr entered⟩
    exact sound.outside id left (List.mem_cons_of_mem _ inside)

/-- **A quiet visit** keeps the order, and leaves its action where the action exists. -/
theorem visit_sound (distinct : (request.plan.actions.val.map Action.actionId).Nodup)
    (visiting : List Identifier) (actionId : Identifier) (chain : List Identifier) (walk : Walk)
    (sound : walk.Sound request.plan visiting)
    (quiet : (visit request visiting actionId chain walk).findings = walk.findings) :
    (visit request visiting actionId chain walk).Sound request.plan visiting ∧
      (actionId ∈ actionIds request.plan →
        actionId ∈ (visit request visiting actionId chain walk).visited) := by
  induction visiting, actionId, chain, walk using visit.induct request with
  | case1 visiting actionId chain walk inside =>
    rw [visit_inside inside] at quiet
    exact absurd (List.append_right_eq_self.mp quiet) (List.cons_ne_nil _ _)
  | case2 visiting actionId chain walk outside left =>
    rw [visit_left outside left]
    exact ⟨sound, fun _ => left⟩
  | case3 visiting actionId chain walk outside new unknown =>
    rw [visit_unknown outside new unknown]
    refine ⟨sound, fun known => ?_⟩
    have there := byKey_isSome (mem_actionIds.mp known)
    rw [unknown] at there
    cases there
  | case4 visiting actionId chain walk outside new action known ih =>
    rw [visit_known outside new known] at quiet ⊢
    have entered : walk.Sound request.plan (actionId :: visiting) :=
      ⟨sound.ordered, sound.distinct, sound.known, fun id left => by
        rintro (_ | ⟨_, inside⟩)
        · exact new left
        · exact sound.outside id left inside⟩
    have steps : ∀ (walk : Walk) (dependency : Identifier), walk.Extends
        (visit request (actionId :: visiting) dependency (chain ++ [dependency]) walk) :=
      fun walk dependency => visit_extends _ dependency _ walk
    obtain ⟨kept, reached⟩ := foldl_quiet steps ih walk entered quiet
    refine ⟨kept.leave distinct known outside reached, fun _ => ?_⟩
    exact List.mem_append_right _ (List.mem_singleton_self _)

/-- **A visit that finds something has walked a cycle.** -/
theorem visit_cyclic (visiting : List Identifier) (actionId : Identifier) (chain : List Identifier)
    (walk : Walk) (inside : ∀ id ∈ visiting, id ∈ actionIds request.plan)
    (reaches : actionId ∈ actionIds request.plan →
      ∀ id ∈ visiting, TransGen (Needs request.plan) actionId id)
    (found : (visit request visiting actionId chain walk).findings ≠ walk.findings) :
    ∃ id, TransGen (Needs request.plan) id id := by
  induction visiting, actionId, chain, walk using visit.induct request with
  | case1 visiting actionId chain walk within =>
    exact ⟨actionId, reaches (inside actionId within) actionId within⟩
  | case2 visiting actionId chain walk outside left =>
    rw [visit_left outside left] at found
    exact absurd rfl found
  | case3 visiting actionId chain walk outside new unknown =>
    rw [visit_unknown outside new unknown] at found
    exact absurd rfl found
  | case4 visiting actionId chain walk outside new action known ih =>
    rw [visit_known outside new known] at found
    obtain ⟨among, own⟩ := byKey_some known
    have entered : actionId ∈ actionIds request.plan :=
      mem_actionIds.mpr (List.mem_map.mpr ⟨action, among, own⟩)
    refine foldl_found walk (fun dependency needed walk finds => ?_) found
    refine ih walk dependency (List.forall_mem_cons.mpr ⟨entered, inside⟩) (fun listed => ?_) finds
    have edge : Needs request.plan dependency actionId :=
      ⟨mem_actionIds.mp listed, action, among, own, needed⟩
    refine List.forall_mem_cons.mpr ⟨.single edge, fun id within => ?_⟩
    exact .head edge (reaches entered id within)

/-! ### The whole walk -/

def walkAll (request : AnalysisRequest) (findings : List Finding) : Walk :=
  (actionIds request.plan).foldl (fun walk actionId => visit request [] actionId [actionId] walk)
    { visited := [], findings }

theorem cycles_eq (findings : List Finding) :
    cycles request findings = (walkAll request findings).findings := rfl

/-- **A quiet walk leaves the actions in order.** -/
theorem order_of_quiet (distinct : (request.plan.actions.val.map Action.actionId).Nodup)
    {findings : List Finding} (quiet : cycles request findings = findings) :
    (walkAll request findings).visited.Perm (request.plan.actions.val.map Action.actionId) ∧
      Graph.Ordered (Needs request.plan) (walkAll request findings).visited := by
  have begun : Walk.Sound request.plan [] { visited := [], findings } :=
    ⟨Graph.ordered_nil, List.nodup_nil, List.forall_mem_nil _, List.forall_mem_nil _⟩
  have each : ∀ (walk : Walk) (actionId : Identifier), walk.Sound request.plan [] →
      (visit request [] actionId [actionId] walk).findings = walk.findings →
      (visit request [] actionId [actionId] walk).Sound request.plan [] ∧
        (actionId ∈ actionIds request.plan →
          actionId ∈ (visit request [] actionId [actionId] walk).visited) :=
    fun walk actionId => visit_sound distinct [] actionId [actionId] walk
  obtain ⟨sound, reached⟩ :=
    foldl_quiet (fun walk actionId => visit_extends [] actionId [actionId] walk) each _ begun quiet
  refine ⟨(List.perm_ext_iff_of_nodup sound.distinct distinct).mpr fun id => ⟨fun left => ?_,
    fun listed => ?_⟩, sound.ordered⟩
  · exact mem_actionIds.mp (sound.known id left)
  · exact reached id (mem_actionIds.mpr listed) (mem_actionIds.mpr listed)

/-- **The walk finds something exactly where there is a cycle.** -/
theorem cycles_quiet_iff (distinct : (request.plan.actions.val.map Action.actionId).Nodup)
    {findings : List Finding} : cycles request findings = findings ↔
      ∀ id, ¬ TransGen (Needs request.plan) id id := by
  constructor
  · intro quiet id
    obtain ⟨all, ordered⟩ := order_of_quiet distinct quiet
    refine ordered.acyclic (fun other node edge => ?_) id
    obtain ⟨-, action, among, rfl, -⟩ := edge
    exact all.mem_iff.mpr (List.mem_map_of_mem among)
  · intro acyclic
    by_contra found
    obtain ⟨id, cycle⟩ : ∃ id, TransGen (Needs request.plan) id id := by
      refine foldl_found { visited := [], findings } (fun actionId _ walk finds => ?_) found
      exact visit_cyclic [] actionId [actionId] walk (List.forall_mem_nil _)
        (fun _ => List.forall_mem_nil _) finds
    exact acyclic id cycle

theorem cycles_append (findings : List Finding) : ∃ found,
    cycles request findings = findings ++ found ∧
      ∀ finding ∈ found, Kind "dependency.cycle." finding :=
  (foldl_extends (actionIds request.plan)
    (fun walk actionId => visit_extends [] actionId [actionId] walk) _).findings

/-! ### The other findings -/

theorem missing_kind : ∀ finding ∈ missing request, Kind "dependency.missing." finding := by
  intro finding found
  obtain ⟨⟨action, index⟩, -, inner⟩ := List.mem_flatMap.mp found
  obtain ⟨dependency, -, rfl⟩ := List.mem_map.mp inner
  exact kind_append _ action.actionId.val (makeFinding_findingId ..)

theorem missing_eq_nil : missing request = [] ↔ ∀ action ∈ request.plan.actions.val,
    ∀ dependency ∈ action.dependsOn.val,
      dependency ∈ request.plan.actions.val.map Action.actionId := by
  rw [missing, List.flatMap_eq_nil_iff]
  simp only [List.map_eq_nil_iff, List.filter_eq_nil_iff, decide_eq_true_eq, Decidable.not_not,
    mem_actionIds]
  exact forall_zipIdx fun action : Action => ∀ dependency ∈ action.dependsOn.val,
    dependency ∈ request.plan.actions.val.map Action.actionId

theorem unresolved_kind : ∀ finding ∈ unresolved request,
    Kind "dependency.unresolved." finding := by
  intro finding found
  obtain ⟨⟨dependency, index⟩, -, objects⟩ := List.mem_filterMap.mp found
  dsimp only at objects
  split at objects
  · cases objects
    exact kind_append _ dependency.dependencyId.val (makeFinding_findingId ..)
  · cases objects

theorem kind_mem_check {words : String} : (∃ finding ∈ check request, Kind words finding) ↔
    (∃ finding ∈ cycles request (missing request), Kind words finding) ∨
      ∃ finding ∈ unresolved request, Kind words finding := by
  simp only [check, List.mem_append, or_and_right, exists_or]

/-- **A cycle is reported exactly where there is one.** -/
theorem cycle_reported_iff (distinct : (request.plan.actions.val.map Action.actionId).Nodup) :
    (∃ finding ∈ check request, Kind "dependency.cycle." finding) ↔
      ∃ id, TransGen (Needs request.plan) id id := by
  obtain ⟨found, appended, cyclic⟩ := @cycles_append request (missing request)
  have quiet : found = [] ↔ ∀ id, ¬ TransGen (Needs request.plan) id id := by
    rw [← @cycles_quiet_iff request distinct (missing request), appended]
    exact List.append_right_eq_self.symm
  have only : (∃ finding ∈ check request, Kind "dependency.cycle." finding) ↔ found ≠ [] := by
    rw [kind_mem_check, appended]
    constructor
    · rintro (⟨finding, member, kind⟩ | ⟨finding, member, kind⟩) rfl
      · rw [List.append_nil] at member
        exact absurd (kind.unique (missing_kind finding member)) (by decide)
      · exact absurd (kind.unique (unresolved_kind finding member)) (by decide)
    · intro some_
      obtain ⟨finding, member⟩ := List.exists_mem_of_ne_nil found some_
      exact .inl ⟨finding, List.mem_append_right _ member, cyclic finding member⟩
  rw [only, ne_eq, quiet]
  push Not
  rfl

/-- **An unknown dependency is reported exactly where there is one.** -/
theorem missing_reported_iff : (∃ finding ∈ check request, Kind "dependency.missing." finding) ↔
    ∃ action ∈ request.plan.actions.val, ∃ dependency ∈ action.dependsOn.val,
      dependency ∉ request.plan.actions.val.map Action.actionId := by
  obtain ⟨found, appended, cyclic⟩ := @cycles_append request (missing request)
  have only : (∃ finding ∈ check request, Kind "dependency.missing." finding) ↔
      missing request ≠ [] := by
    rw [kind_mem_check, appended]
    constructor
    · rintro (⟨finding, member, kind⟩ | ⟨finding, member, kind⟩) none_
      · rw [none_, List.nil_append] at member
        exact absurd (kind.unique (cyclic finding member)) (by decide)
      · exact absurd (kind.unique (unresolved_kind finding member)) (by decide)
    · intro some_
      obtain ⟨finding, member⟩ := List.exists_mem_of_ne_nil _ some_
      exact .inl ⟨finding, List.mem_append_left _ member, missing_kind finding member⟩
  rw [only, ne_eq, missing_eq_nil]
  push Not
  rfl

end Visit

/-! ### Plans that can be carried out -/

/-- Each action of the order comes after everything it depends on. -/
def CarriedOut (order : List Action) : Prop :=
  ∀ earlier action later, order = earlier ++ action :: later →
    ∀ dependency ∈ action.dependsOn.val, dependency ∈ earlier.map Action.actionId

/-- **A plan that the check has nothing against can be carried out in order.** -/
theorem carriedOut_of_check {request : AnalysisRequest}
    (distinct : (request.plan.actions.val.map Action.actionId).Nodup) (clean : check request = []) :
    ∃ order : List Action, order.Perm request.plan.actions.val ∧ CarriedOut order := by
  obtain ⟨found, appended, -⟩ := @cycles_append request (missing request)
  have silent : cycles request (missing request) = [] := (List.append_eq_nil_iff.mp clean).1
  have known : missing request = [] := (List.append_eq_nil_iff.mp (appended.symm.trans silent)).1
  obtain ⟨all, ordered⟩ := order_of_quiet distinct (silent.trans known.symm)
  have named : List.Forall₂ (fun id (action : Action) => action.actionId = id)
      (request.plan.actions.val.map Action.actionId) request.plan.actions.val := by
    rw [List.forall₂_map_left_iff, List.forall₂_same]
    exact fun _ _ => rfl
  obtain ⟨order, keyed, same⟩ := List.perm_comp_forall₂ all named
  have keys : order.map Action.actionId = (walkAll request (missing request)).visited := by
    have both := keyed.flip
    rw [← List.forall₂_map_left_iff (f := Action.actionId)] at both
    exact List.forall₂_eq_eq_eq ▸ both
  refine ⟨order, same, fun earlier action later split dependency needed => ?_⟩
  have among : action ∈ request.plan.actions.val :=
    same.mem_iff.mp (split ▸ List.mem_append_right _ List.mem_cons_self)
  have exists_ := missing_eq_nil.mp known action among dependency needed
  exact Graph.Ordered.of_keys (keys ▸ ordered) earlier action later split dependency
    ⟨exists_, action, among, rfl, needed⟩

/-- **The check of dependencies is exact**: a cycle is reported exactly where there is one, and an unknown
dependency exactly where there is one; so the actions of a ready plan have an order. -/
theorem dependencies_exact (sha : Sha256) (request : AnalysisRequest)
    (distinct : (request.plan.actions.val.map Action.actionId).Nodup) :
    ((∃ finding ∈ check request, Kind "dependency.cycle." finding) ↔
        ∃ id, TransGen (Needs request.plan) id id) ∧
      ((∃ finding ∈ check request, Kind "dependency.missing." finding) ↔
        ∃ action ∈ request.plan.actions.val, ∃ dependency ∈ action.dependsOn.val,
          dependency ∉ request.plan.actions.val.map Action.actionId) ∧
      ∀ reviewer decidedAt decision, analyze sha request reviewer decidedAt = .ok decision →
        decision.executionReady = true →
          ∃ order : List Action, order.Perm request.plan.actions.val ∧ CarriedOut order := by
  refine ⟨cycle_reported_iff distinct, missing_reported_iff, fun reviewer decidedAt decision returned
    ready => carriedOut_of_check distinct ?_⟩
  obtain ⟨clean, -⟩ := analyze_ready returned ready
  exact (checkFindings_eq_nil.mp (deterministicFindings_eq_nil.mp clean).2).2.2.2.1

def selfish : Variant := { dependsOn := ⟨[identifier "action-1"], List.nodup_singleton _⟩ }

/-- The cycle of a selfish plan is reported. -/
theorem selfish_reported :
    ∃ finding ∈ check (selfish.request sha256), Kind "dependency.cycle." finding := by
  have cycle : Needs (selfish.request sha256).plan (identifier "action-1") (identifier "action-1") :=
    ⟨List.mem_singleton_self _, _, List.mem_singleton_self _, rfl, List.mem_singleton_self _⟩
  exact (dependencies_exact sha256 (selfish.request sha256) (List.nodup_singleton _)).1.mpr
    ⟨_, .single cycle⟩

end Audisor.Aflow.DependencyChecks
