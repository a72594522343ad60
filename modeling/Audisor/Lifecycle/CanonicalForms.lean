/-
**What the canonical form of a contract forgets.**

* `Same` — two values that differ in the order of keys, and of the rows of the sets.
* `arranged` — the rows of a set in the order that the canonical form gives them.
  `tieFree` — rows of a set that tie are the same row.
* `canonicalizeUnder_same`, `Same.join` — values with one canonical form are the same.
* **`canonical_unique`**, **`canonical_tied`** — the same values have one canonical form where no different
  rows tie, and only there.
* **`canonicalizeUnder_idem`** — a canonical form is its own.
-/

import Audisor.Json.Comparison
import Audisor.Lifecycle.Sealing
import Audisor.Lists.Sorting

namespace Audisor.Lifecycle

open Checked Json

/-! ### Sets of rows -/

def isSet (parentKey : Option String) : Bool := parentKey.any unorderedIdCollections.contains

/-- **Equal up to the order of keys, and of the rows of sets.** -/
inductive Same : Option String → Json → Json → Prop
  | null {parentKey : Option String} : Same parentKey .null .null
  | bool {parentKey : Option String} (value : Bool) : Same parentKey (.bool value) (.bool value)
  | int {parentKey : Option String} (value : Int) : Same parentKey (.int value) (.int value)
  | float {parentKey : Option String} (literal : FloatLit) :
      Same parentKey (.float literal) (.float literal)
  | str {parentKey : Option String} (text : String) : Same parentKey (.str text) (.str text)
  | list {parentKey : Option String} {items others : List Json} (ordered : isSet parentKey = false)
      (each : List.Forall₂ (Same none) items others) : Same parentKey (.arr items) (.arr others)
  | rows {parentKey : Option String} {items middle others : List Json} (set : isSet parentKey = true)
      (each : List.Forall₂ (Same none) items middle) (perm : middle.Perm others) :
      Same parentKey (.arr items) (.arr others)
  | obj {parentKey : Option String} {fields others : Dict}
      (keys : ∀ key, hasKey fields key = hasKey others key)
      (each : ∀ key value other, get? fields key = some value → get? others key = some other →
        Same (some key) value other) : Same parentKey (.obj fields) (.obj others)

def chosenKey (rows : List Json) : Option String :=
  idKeys.find? fun key => (idsOf rows key).isSome

def rowId (key : Option String) (row : Json) : Json :=
  match key, row with
  | some key, .obj fields => getD fields key .null
  | _, _ => .null

def Below (key : Option String) (row other : Json) : Prop :=
  less (rowId key row) (rowId key other) = some true

instance (key : Option String) : DecidableRel (Below key) := fun _ _ =>
  inferInstanceAs (Decidable (_ = some true))

def arranged (rows : List Json) : List Json :=
  rows.insertionSort fun row other => ¬ Below (chosenKey rows) other row

def Sortable (rows : List Json) : Prop :=
  chosenKey rows = none ∨ rows.length ≤ 1 ∨ comparable (rows.map (rowId (chosenKey rows))) = true

def Untied (rows : List Json) : Prop :=
  ∀ row ∈ rows, ∀ other ∈ rows,
    row = other ∨ Below (chosenKey rows) row other ∨ Below (chosenKey rows) other row

instance : DecidablePred Untied := fun _ => inferInstanceAs (Decidable (∀ _ ∈ _, _))

mutual

def tieFree (parentKey : Option String) : Json → Bool
  | .arr items =>
    tieFreeItems items &&
      (!isSet parentKey ||
        match canonicalizeItems items with
        | .ok rows => decide (Untied rows)
        | .error _ => true)
  | .obj fields => tieFreeFields fields
  | _ => true

def tieFreeItems : List Json → Bool
  | [] => true
  | item :: rest => tieFree none item && tieFreeItems rest

def tieFreeFields : Dict → Bool
  | [] => true
  | (key, value) :: rest => tieFree (some key) value && tieFreeFields rest

end

/-! ### The order of the rows -/

def idOf? (key : String) : Json → Option Json
  | .obj fields => get? fields key
  | _ => none

theorem rowId_some (key : String) (row : Json) : rowId (some key) row = (idOf? key row).getD .null := by
  cases row <;> rfl

theorem idsOf_eq_some {rows ids : List Json} {key : String} :
    idsOf rows key = some ids ↔ rows.map (idOf? key) = ids.map some := by
  have loop : idsOf rows key = rows.mapM (idOf? key) := by
    unfold idsOf
    congr 1
  rw [loop, mapM_eq_some]

theorem idsOf_isSome {rows : List Json} {key : String} :
    (idsOf rows key).isSome ↔ ∀ row ∈ rows, (idOf? key row).isSome := by
  rw [Option.isSome_iff_exists]
  simp only [idsOf_eq_some]
  constructor
  · rintro ⟨ids, found⟩ row member
    have listed : idOf? key row ∈ ids.map some := found ▸ List.mem_map_of_mem member
    obtain ⟨id, -, same⟩ := List.mem_map.mp listed
    rw [← same]
    rfl
  · intro all
    refine ⟨rows.filterMap (idOf? key), ?_⟩
    rw [List.map_filterMap_some_eq_filter_map_isSome, List.filter_eq_self.mpr]
    intro id member
    obtain ⟨row, own, rfl⟩ := List.mem_map.mp member
    exact all row own

theorem chosenKey_perm {rows others : List Json} (perm : rows.Perm others) :
    chosenKey rows = chosenKey others := by
  unfold chosenKey
  congr 1
  funext key
  rw [Bool.eq_iff_iff, idsOf_isSome, idsOf_isSome]
  exact forall_congr' fun row => by rw [perm.mem_iff]

theorem findSome?_eq_bind {α β : Type} (read : α → Option β) (items : List α) :
    items.findSome? read = (items.find? fun item => (read item).isSome).bind read := by
  induction items with
  | nil => rfl
  | cons item rest ih =>
    rw [List.findSome?_cons, List.find?_cons]
    cases found : read item with
    | none => exact ih
    | some value => exact found.symm

theorem chosenKey_ids (rows : List Json) : idKeys.findSome? (idsOf rows) =
    (chosenKey rows).map fun key => rows.map (rowId (some key)) := by
  rw [findSome?_eq_bind]
  show (chosenKey rows).bind (idsOf rows) = _
  cases chosen : chosenKey rows with
  | none => rfl
  | some key =>
    have has : (idsOf rows key).isSome = true :=
      @List.find?_some _ (fun key => (idsOf rows key).isSome) key idKeys chosen
    obtain ⟨ids, found⟩ := Option.isSome_iff_exists.mp has
    have read := idsOf_eq_some.mp found
    have values : rows.map (rowId (some key)) = ids := by
      have parts := congrArg (List.map fun id : Option Json => id.getD .null) read
      rw [List.map_map, List.map_map] at parts
      refine (List.map_congr_left fun row _ => rowId_some key row).trans (parts.trans ?_)
      exact List.map_id ids
    rw [Option.bind_some, found, Option.map_some, values]

theorem not_below_none (row other : Json) : ¬ Below none row other := by
  rintro ⟨⟩

theorem arranged_unkeyed {rows : List Json} (unkeyed : chosenKey rows = none) : arranged rows = rows := by
  unfold arranged
  rw [unkeyed]
  exact List.Pairwise.insertionSort_eq
    (List.pairwise_of_forall_mem_list fun _ _ _ _ => not_below_none _ _)

/-- **The rows of a set are arranged by their ids**, where these compare. -/
theorem sortRows_eq_ok {rows sorted : List Json} :
    sortRows rows = .ok sorted ↔ Sortable rows ∧ sorted = arranged rows := by
  unfold sortRows
  rw [chosenKey_ids]
  cases chosen : chosenKey rows with
  | none =>
    rw [arranged_unkeyed chosen]
    exact ⟨fun done => ⟨.inl chosen, (Except.ok.inj done).symm⟩, fun done => by rw [done.2]; rfl⟩
  | some key =>
    have keyed : (rows.map (rowId (some key))).zip rows =
        rows.map fun row => (rowId (some key) row, row) := List.map_prod_right_eq_zip.symm
    have sorts : (rows.map fun row => (rowId (some key) row, row)).insertionSort
        (fun a b => less b.1 a.1 ≠ some true) =
        (arranged rows).map fun row => (rowId (some key) row, row) := by
      unfold arranged
      rw [chosen]
      exact (List.map_insertionSort (fun row other => ¬ Below (some key) other row) _ _ rows
        fun _ _ _ _ => Iff.rfl).symm
    have unkeyed : ((arranged rows).map fun row => (rowId (some key) row, row)).map Prod.snd =
        arranged rows := by
      rw [List.map_map]
      exact List.map_id _
    have made : sortedOn ((rows.map (rowId (some key))).zip rows) =
        if rows.length ≤ 1 ∨ comparable (rows.map (rowId (some key))) = true then some (arranged rows)
        else none := by
      rw [keyed, sortedOn, sorts, unkeyed, List.length_map, List.map_map]
      rfl
    rw [Option.map_some]
    dsimp only
    rw [made]
    unfold Sortable
    rw [chosen]
    by_cases compared : rows.length ≤ 1 ∨ comparable (rows.map (rowId (some key))) = true
    · rw [if_pos compared]
      exact ⟨fun done => ⟨.inr compared, (Except.ok.inj done).symm⟩, fun done => by rw [done.2]⟩
    · rw [if_neg compared]
      refine iff_of_false (by rintro ⟨⟩) ?_
      rintro ⟨unkeyed | given, -⟩
      · cases unkeyed
      · exact compared given

variable {rows others : List Json}

theorem arranged_perm (rows : List Json) : (arranged rows).Perm rows := List.perm_insertionSort _ rows

theorem Sortable.perm (sortable : Sortable rows) (perm : rows.Perm others) : Sortable others := by
  unfold Sortable at sortable ⊢
  rw [← chosenKey_perm perm, ← perm.length_eq]
  refine sortable.imp_right (Or.imp_right fun compared => ?_)
  have ids := perm.map (rowId (chosenKey rows))
  unfold comparable at compared ⊢
  simp only [List.all_eq_true] at compared ⊢
  exact fun a own b own' => compared a (ids.mem_iff.mpr own) b (ids.mem_iff.mpr own')

theorem notBelow_total (key : Option String) (row other : Json) :
    ¬ Below key other row ∨ ¬ Below key row other := notLess_total _ _

theorem Sortable.transitive (sortable : Sortable rows) : ∀ a ∈ rows, ∀ b ∈ rows, ∀ c ∈ rows,
    ¬ Below (chosenKey rows) b a → ¬ Below (chosenKey rows) c b → ¬ Below (chosenKey rows) c a := by
  intro a own b own' c own'' first second
  rcases sortable with unkeyed | few | compared
  · rw [unkeyed]
    exact not_below_none c a
  · cases rows with
    | nil => cases own
    | cons row rest =>
      cases rest with
      | nil =>
        have same : a = b := (List.mem_singleton.mp own).trans (List.mem_singleton.mp own').symm
        rw [same]
        exact second
      | cons other rest => simp at few
  · have pair := List.all_eq_true.mp (List.all_eq_true.mp compared _ (List.mem_map_of_mem own'))
      _ (List.mem_map_of_mem own)
    exact notLess_trans pair first second

theorem Sortable.pairwise (sortable : Sortable rows) :
    (arranged rows).Pairwise fun row other => ¬ Below (chosenKey rows) other row :=
  Lists.pairwise_insertionSort (fun a _ b _ => notBelow_total _ a b) sortable.transitive

/-- **What is arranged stays as it is.** -/
theorem Sortable.arranged_idem (sortable : Sortable rows) :
    arranged (arranged rows) = arranged rows := by
  have ordered := sortable.pairwise
  rw [← chosenKey_perm (arranged_perm rows)] at ordered
  exact List.Pairwise.insertionSort_eq ordered

/-- **Rows that do not tie are arranged in one way.** -/
theorem Sortable.arranged_eq (sortable : Sortable rows) (untied : Untied rows)
    (perm : rows.Perm others) : arranged rows = arranged others := by
  unfold arranged
  rw [← chosenKey_perm perm]
  refine Lists.insertionSort_perm_eq (fun a _ b _ => notBelow_total _ a b) sortable.transitive ?_ perm
  intro a own b own' first second
  exact (untied a own b own').resolve_right fun below => below.elim second first

/-- **Rows that tie are arranged as they stand.** -/
theorem exists_arranged_ne (tied : ¬ Untied rows) :
    ∃ others : List Json, others.Perm rows ∧ arranged others ≠ arranged rows := by
  unfold Untied at tied
  push Not at tied
  obtain ⟨a, own, b, own', apart, above, below⟩ := tied
  have self (row : Json) : ¬ Below (chosenKey rows) row row := fun less => (notBelow_total _ row row).elim
    (fun never => never less) fun never => never less
  obtain ⟨others, perm, differs⟩ := Lists.exists_insertionSort_ne
    (r := fun row other => ¬ Below (chosenKey rows) other row) own own' apart (by
      simp only [List.mem_cons, List.not_mem_nil, or_false]
      rintro c (rfl | rfl) d (rfl | rfl)
      · exact self _
      · exact below
      · exact above
      · exact self _)
  refine ⟨others, perm, ?_⟩
  unfold arranged
  rw [chosenKey_perm perm]
  exact differs

/-! ### Parts of a canonical form -/

theorem canonicalizeItems_eq_ok {items canonical : List Json} :
    canonicalizeItems items = .ok canonical ↔
      List.Forall₂ (fun item own => canonicalizeUnder none item = .ok own) items canonical := by
  induction items generalizing canonical with
  | nil =>
    rw [List.forall₂_nil_left_iff]
    exact ⟨fun done => (Except.ok.inj done).symm, fun empty => by rw [empty]; rfl⟩
  | cons item rest ih =>
    simp only [canonicalizeItems, bind_eq_ok, pure_eq_ok, ih]
    constructor
    · rintro ⟨own, held, others, each, rfl⟩
      exact .cons held each
    · intro each
      cases each with
      | cons held later => exact ⟨_, held, _, later, rfl⟩

theorem canonicalizeFields_eq_ok {fields canonical : Dict} :
    canonicalizeFields fields = .ok canonical ↔ List.Forall₂ (fun field own => own.1 = field.1 ∧
      canonicalizeUnder (some field.1) field.2 = .ok own.2) fields canonical := by
  induction fields generalizing canonical with
  | nil =>
    rw [List.forall₂_nil_left_iff]
    exact ⟨fun done => (Except.ok.inj done).symm, fun empty => by rw [empty]; rfl⟩
  | cons field rest ih =>
    obtain ⟨key, value⟩ := field
    simp only [canonicalizeFields, bind_eq_ok, pure_eq_ok, ih]
    constructor
    · rintro ⟨own, held, others, each, rfl⟩
      exact .cons ⟨rfl, held⟩ each
    · intro each
      cases each with
      | @cons _ own _ _ held later =>
        obtain ⟨own, value⟩ := own
        obtain ⟨rfl, held⟩ := held
        exact ⟨_, held, _, later, rfl⟩

/-- **The canonical form of a list**: the forms of its items, arranged where they are the rows of a set. -/
theorem canonicalizeUnder_arr {parentKey : Option String} {items : List Json} {canonical : Json} :
    canonicalizeUnder parentKey (.arr items) = .ok canonical ↔
      ∃ forms, List.Forall₂ (fun item own => canonicalizeUnder none item = .ok own) items forms ∧
        if isSet parentKey = true then Sortable forms ∧ canonical = .arr (arranged forms)
        else canonical = .arr forms := by
  rw [canonicalizeUnder, bind_eq_ok]
  refine exists_congr fun forms => ?_
  rw [canonicalizeItems_eq_ok]
  refine and_congr_right fun _ => ?_
  show (if isSet parentKey = true then _ else _) = _ ↔ _
  by_cases set : isSet parentKey = true
  · rw [if_pos set, if_pos set, bind_eq_ok]
    simp only [sortRows_eq_ok, pure_eq_ok]
    constructor
    · rintro ⟨sorted, ⟨sortable, rfl⟩, rfl⟩
      exact ⟨sortable, rfl⟩
    · rintro ⟨sortable, rfl⟩
      exact ⟨_, ⟨sortable, rfl⟩, rfl⟩
  · rw [if_neg set, if_neg set, pure_eq_ok]
    exact eq_comm

/-- **The canonical form of an object**: the forms of its values, in the order of the keys. -/
theorem canonicalizeUnder_obj {parentKey : Option String} {fields : Dict} {canonical : Json} :
    canonicalizeUnder parentKey (.obj fields) = .ok canonical ↔
      ∃ forms, canonicalizeFields fields = .ok forms ∧ canonical = .obj (sortFields forms) := by
  rw [canonicalizeUnder, bind_eq_ok]
  exact exists_congr fun forms => and_congr_right fun _ => pure_eq_ok.trans eq_comm

/-! ### Values with one canonical form -/

theorem Same.refl (value : Json) : ∀ parentKey, Same parentKey value value := by
  induction value using tree_induction with
  | null => exact fun _ => .null
  | bool value => exact fun _ => .bool value
  | int value => exact fun _ => .int value
  | float literal => exact fun _ => .float literal
  | str text => exact fun _ => .str text
  | arr items ih =>
    intro parentKey
    have each : List.Forall₂ (Same none) items items :=
      List.forall₂_same.mpr fun item member => ih item member none
    cases set : isSet parentKey with
    | false => exact .list set each
    | true => exact .rows set each (List.Perm.refl items)
  | obj fields ih =>
    intro parentKey
    refine .obj (fun _ => rfl) fun key value other stated stated' => ?_
    rw [← Option.some.inj (stated.symm.trans stated')]
    exact ih (key, value) (mem_of_get? stated) (some key)

theorem hasKey_iff_mem {fields : Dict} {key : String} :
    hasKey fields key = true ↔ key ∈ fields.map Prod.fst := by
  rw [hasKey, ← not_iff_not, Option.not_isSome_iff_eq_none, get?_eq_none_iff, List.mem_map]
  push Not
  rfl

section Lists

variable {α β γ : Type} {first : α → β → Prop} {second : β → γ → Prop} {items : List α} {results : List β}

theorem forall₂_imp_mem {other : α → β → Prop} (each : List.Forall₂ first items results)
    (implies : ∀ item ∈ items, ∀ result ∈ results, first item result → other item result) :
    List.Forall₂ other items results := by
  induction each with
  | nil => exact .nil
  | cons here _ ih =>
    refine .cons (implies _ List.mem_cons_self _ List.mem_cons_self here) (ih ?_)
    exact fun item member result member' =>
      implies item (List.mem_cons_of_mem _ member) result (List.mem_cons_of_mem _ member')

theorem exists_forall₂ (each : ∀ item ∈ items, ∃ result, first item result) :
    ∃ results, List.Forall₂ first items results := by
  induction items with
  | nil => exact ⟨[], .nil⟩
  | cons item rest ih =>
    obtain ⟨result, here⟩ := each item List.mem_cons_self
    obtain ⟨results, later⟩ := ih fun item member => each item (List.mem_cons_of_mem _ member)
    exact ⟨result :: results, .cons here later⟩

theorem forall₂_split {front back : List α} {part : α}
    (each : List.Forall₂ first (front ++ part :: back) results) :
    ∃ before result after, results = before ++ result :: after ∧ List.Forall₂ first front before ∧
      first part result ∧ List.Forall₂ first back after := by
  induction front generalizing results with
  | nil =>
    cases each with
    | cons here later => exact ⟨[], _, _, rfl, .nil, here, later⟩
  | cons item rest ih =>
    cases each with
    | cons here later =>
      obtain ⟨before, result, after, rfl, held, own, held'⟩ := ih later
      exact ⟨_ :: before, result, after, rfl, .cons here held, own, held'⟩

theorem forall₂_comp_mem {whole : α → γ → Prop} {ends : List γ}
    (each : List.Forall₂ first items results) (later : List.Forall₂ second results ends)
    (compose : ∀ item ∈ items, ∀ result ∈ results, ∀ done ∈ ends,
      first item result → second result done → whole item done) :
    List.Forall₂ whole items ends := by
  induction each generalizing ends with
  | nil =>
    cases later
    exact .nil
  | cons here _ ih =>
    cases later with
    | cons there rest =>
      refine .cons (compose _ List.mem_cons_self _ List.mem_cons_self _ List.mem_cons_self here there)
        (ih rest ?_)
      exact fun item member result member' done member'' =>
        compose item (List.mem_cons_of_mem _ member) result (List.mem_cons_of_mem _ member') done
          (List.mem_cons_of_mem _ member'')

end Lists

/-- **A value differs from its canonical form in the order of keys and of rows only.** -/
theorem canonicalizeUnder_same (value : Json) : distinctKeys value = true →
    ∀ parentKey canonical, canonicalizeUnder parentKey value = .ok canonical →
      Same parentKey value canonical ∧ distinctKeys canonical = true := by
  induction value using tree_induction with
  | null | bool | int | float | str =>
    intro _ parentKey canonical done
    rw [← Except.ok.inj done]
    exact ⟨Same.refl _ parentKey, rfl⟩
  | arr items ih =>
    intro distinct parentKey canonical done
    have own := distinctKeys_arr.mp distinct
    obtain ⟨forms, each, ends⟩ := canonicalizeUnder_arr.mp done
    have alike : List.Forall₂ (Same none) items forms :=
      forall₂_imp_mem each fun item member form _ held => (ih item member (own item member) none form held).1
    have plain : ∀ form ∈ forms, distinctKeys form = true := by
      intro form member
      obtain ⟨item, among, held⟩ := exists_mem_of_forall₂ each member
      exact (ih item among (own item among) none form held).2
    cases set : isSet parentKey with
    | false =>
      rw [set, if_neg (by rintro ⟨⟩)] at ends
      rw [ends]
      exact ⟨.list set alike, distinctKeys_arr.mpr plain⟩
    | true =>
      rw [set, if_pos rfl] at ends
      rw [ends.2]
      refine ⟨.rows set alike (arranged_perm forms).symm, distinctKeys_arr.mpr fun form member => ?_⟩
      exact plain form ((arranged_perm forms).mem_iff.mp member)
  | obj fields ih =>
    intro distinct parentKey canonical done
    have own := distinctKeys_obj.mp distinct
    obtain ⟨forms, each, rfl⟩ := canonicalizeUnder_obj.mp done
    have keys : forms.map Prod.fst = fields.map Prod.fst := canonicalizeFields_keys each
    have apart : (forms.map Prod.fst).Nodup := keys ▸ own.1
    have sorted : (sortFields forms).Perm forms := List.perm_insertionSort _ _
    constructor
    · refine .obj (fun key => ?_) fun key value other stated stated' => ?_
      · rw [Bool.eq_iff_iff, hasKey_iff_mem, hasKey_iff_mem, (sorted.map Prod.fst).mem_iff, keys]
      · obtain ⟨form, held, found⟩ := get?_canonicalizeFields each stated
        rw [get?_sortFields apart, found] at stated'
        have member := mem_of_get? stated
        rw [← Option.some.inj stated']
        exact (ih (key, value) member (own.2 _ member) (some key) form held).1
    · refine distinctKeys_obj.mpr ⟨(sorted.map Prod.fst).nodup_iff.mpr apart, fun form member => ?_⟩
      obtain ⟨field, among, -, held⟩ :=
        exists_mem_of_forall₂ (canonicalizeFields_eq_ok.mp each) (sorted.mem_iff.mp member)
      exact (ih field among (own.2 field among) (some field.1) form.2 held).2

/-- **Values that differ from one value in the order of keys and of rows are the same.** -/
theorem Same.join (value : Json) : ∀ parentKey other canonical, Same parentKey value canonical →
    Same parentKey other canonical → Same parentKey value other := by
  induction value using tree_induction with
  | null | bool | int | float | str =>
    intro parentKey other canonical first second
    cases first
    cases second
    exact Same.refl _ parentKey
  | arr items ih =>
    intro parentKey other canonical first second
    cases first with
    | list ordered each =>
      cases second with
      | list _ each' =>
        refine .list ordered (forall₂_comp_mem each each'.flip fun item member form _ done _ => ?_)
        exact ih item member none done form
      | rows set => rw [ordered] at set; cases set
    | rows set each perm =>
      cases second with
      | list ordered => rw [ordered] at set; cases set
      | rows _ each' perm' =>
        -- The rows of the other set, in the order in which the first one lists them.
        obtain ⟨middle, listed, arranges⟩ :=
          List.perm_comp_forall₂ (perm.trans perm'.symm) each'.flip
        refine .rows set (forall₂_comp_mem each listed fun item member form _ done _ => ?_) arranges
        exact ih item member none done form
  | obj fields ih =>
    intro parentKey other canonical first second
    cases first with
    | obj keys each =>
      cases second with
      | obj keys' each' =>
        refine .obj (fun key => (keys key).trans (keys' key).symm) fun key value third stated found => ?_
        have there := keys key
        rw [hasKey, stated] at there
        obtain ⟨form, held⟩ := Option.isSome_iff_exists.mp there.symm
        exact ih (key, value) (mem_of_get? stated) (some key) third form
          (each key value form stated held) (each' key third form found held)

/-! ### Ties -/

theorem get?_canonicalizeFields_none {fields canonical : Dict} {key : String}
    (done : canonicalizeFields fields = .ok canonical) (absent : get? fields key = none) :
    get? canonical key = none := by
  rw [← Option.not_isSome_iff_eq_none] at absent ⊢
  rwa [← hasKey, hasKey_iff_mem, canonicalizeFields_keys done, ← hasKey_iff_mem]

theorem tieFreeItems_iff {items : List Json} :
    tieFreeItems items = true ↔ ∀ item ∈ items, tieFree none item = true := by
  induction items with
  | nil => simp [tieFreeItems]
  | cons item rest ih => simp [tieFreeItems, ih]

theorem tieFreeFields_iff {fields : Dict} :
    tieFreeFields fields = true ↔ ∀ field ∈ fields, tieFree (some field.1) field.2 = true := by
  induction fields with
  | nil => simp [tieFreeFields]
  | cons field rest ih => simp [tieFreeFields, ih]

theorem tieFree_arr {parentKey : Option String} {items forms : List Json}
    (each : List.Forall₂ (fun item own => canonicalizeUnder none item = .ok own) items forms) :
    tieFree parentKey (.arr items) = true ↔
      (∀ item ∈ items, tieFree none item = true) ∧ (isSet parentKey = true → Untied forms) := by
  rw [tieFree, Bool.and_eq_true, tieFreeItems_iff, canonicalizeItems_eq_ok.mpr each]
  refine and_congr_right fun _ => ?_
  cases isSet parentKey <;> simp

/-- **The same values have one canonical form, where no different rows tie.** -/
theorem canonical_unique (value : Json) : distinctKeys value = true →
    ∀ parentKey other canonical, distinctKeys other = true → Same parentKey value other →
      canonicalizeUnder parentKey value = .ok canonical → tieFree parentKey value = true →
      canonicalizeUnder parentKey other = .ok canonical := by
  induction value using tree_induction with
  | null | bool | int | float | str =>
    intro _ parentKey other canonical _ same done _
    cases same
    exact done
  | arr items ih =>
    intro distinct parentKey other canonical distinct' same done free
    have own := distinctKeys_arr.mp distinct
    obtain ⟨forms, each, ends⟩ := canonicalizeUnder_arr.mp done
    have parts := (tieFree_arr each).mp free
    -- The same items, one by one, have the same forms.
    have agree {middle : List Json} (plain : ∀ item ∈ middle, distinctKeys item = true)
        (alike : List.Forall₂ (Same none) items middle) :
        List.Forall₂ (fun item own => canonicalizeUnder none item = .ok own) middle forms := by
      refine forall₂_comp_mem alike.flip each fun other among item member form _ same held => ?_
      exact ih item member (own item member) none other form (plain other among) same held
        (parts.1 item member)
    cases same with
    | list ordered alike =>
      exact canonicalizeUnder_arr.mpr ⟨forms, agree (distinctKeys_arr.mp distinct') alike, ends⟩
    | rows set alike perm =>
      rw [set, if_pos rfl] at ends
      obtain ⟨sortable, rfl⟩ := ends
      have plain := distinctKeys_arr.mp distinct'
      obtain ⟨forms', each', arranges⟩ := List.perm_comp_forall₂ perm.symm
        (agree (fun item member => plain item (perm.mem_iff.mp member)) alike)
      refine canonicalizeUnder_arr.mpr ⟨forms', each', ?_⟩
      rw [set, if_pos rfl, sortable.arranged_eq (parts.2 set) arranges.symm]
      exact ⟨sortable.perm arranges.symm, rfl⟩
  | obj fields ih =>
    intro distinct parentKey other canonical distinct' same done free
    have own := distinctKeys_obj.mp distinct
    rw [tieFree, tieFreeFields_iff] at free
    obtain ⟨forms, each, rfl⟩ := canonicalizeUnder_obj.mp done
    cases same with
    | @obj _ _ others keys alike =>
      have own' := distinctKeys_obj.mp distinct'
      -- The value under a key has the same form on both sides.
      have shared (key : String) (other : Json) (stated' : get? others key = some other) :
          ∃ form, get? forms key = some form ∧ canonicalizeUnder (some key) other = .ok form := by
        have there := keys key
        rw [hasKey, hasKey, stated'] at there
        obtain ⟨value, stated⟩ := Option.isSome_iff_exists.mp there
        obtain ⟨form, held, found⟩ := get?_canonicalizeFields each stated
        have member := mem_of_get? stated
        exact ⟨form, found, ih (key, value) member (own.2 _ member) (some key) other form
          (own'.2 _ (mem_of_get? stated')) (alike key value other stated stated') held (free _ member)⟩
      have returns (field : String × Json) (member : field ∈ others) : ∃ own : String × Json,
          own.1 = field.1 ∧ canonicalizeUnder (some field.1) field.2 = .ok own.2 := by
        obtain ⟨form, _, held⟩ := shared field.1 field.2 ((get?_iff_mem own'.1).mpr member)
        exact ⟨(field.1, form), rfl, held⟩
      obtain ⟨forms', each'⟩ := exists_forall₂ returns
      have each' := canonicalizeFields_eq_ok.mpr each'
      have apart : (forms.map Prod.fst).Nodup := by
        rw [canonicalizeFields_keys each]
        exact own.1
      have apart' : (forms'.map Prod.fst).Nodup := by
        rw [canonicalizeFields_keys each']
        exact own'.1
      refine canonicalizeUnder_obj.mpr ⟨forms', each', ?_⟩
      rw [Json.obj.injEq, sortFields_eq_iff apart]
      refine perm_of_get? apart apart' fun key => ?_
      cases stated' : get? others key with
      | none =>
        have there := keys key
        rw [hasKey, hasKey, stated'] at there
        rw [get?_canonicalizeFields_none each' stated', get?_canonicalizeFields_none each
          (Option.isNone_iff_eq_none.mp (Option.isSome_eq_false_iff.mp there))]
      | some other =>
        obtain ⟨form, found, held⟩ := shared key other stated'
        obtain ⟨form', held', found'⟩ := get?_canonicalizeFields each' stated'
        rw [found, found', Except.ok.inj (held.symm.trans held')]

theorem forms_eq {items forms forms' : List Json}
    (each : List.Forall₂ (fun item own => canonicalizeUnder none item = .ok own) items forms)
    (each' : List.Forall₂ (fun item own => canonicalizeUnder none item = .ok own) items forms') :
    forms = forms' :=
  Except.ok.inj ((canonicalizeItems_eq_ok.mpr each).symm.trans (canonicalizeItems_eq_ok.mpr each'))

theorem eq_of_perm_replaced {front back : List Json} {part other : Json}
    (perm : (front ++ part :: back).Perm (front ++ other :: back)) : part = other := by
  have heads := (List.perm_middle.symm.trans perm).trans List.perm_middle
  rw [← Multiset.coe_eq_coe, ← Multiset.cons_coe, ← Multiset.cons_coe, Multiset.cons_inj_left] at heads
  exact heads

/-- **Where different rows tie, the same values have different canonical forms.** -/
theorem canonical_tied (value : Json) : distinctKeys value = true →
    ∀ parentKey canonical, canonicalizeUnder parentKey value = .ok canonical →
      tieFree parentKey value = false →
      ∃ other, distinctKeys other = true ∧ Same parentKey value other ∧
        canonicalizeUnder parentKey other ≠ .ok canonical := by
  induction value using tree_induction with
  | null | bool | int | float | str =>
    intro _ parentKey canonical _ tied
    cases tied
  | arr items ih =>
    intro distinct parentKey canonical done tied
    have own := distinctKeys_arr.mp distinct
    obtain ⟨forms, each, ends⟩ := canonicalizeUnder_arr.mp done
    rw [← Bool.not_eq_true, tieFree_arr each, not_and_or] at tied
    rcases tied with inner | rows
    · push Not at inner
      obtain ⟨item, member, tied⟩ := inner
      obtain ⟨front, back, rfl⟩ := List.append_of_mem member
      obtain ⟨before, form, after, rfl, held, here, held'⟩ := forall₂_split each
      obtain ⟨other, plain, same, differs⟩ :=
        ih item member (own item member) none form here (Bool.not_eq_true _ ▸ tied)
      have alike : List.Forall₂ (Same none) (front ++ item :: back) (front ++ other :: back) :=
        List.rel_append (List.forall₂_same.mpr fun part _ => Same.refl part none)
          (.cons same (List.forall₂_same.mpr fun part _ => Same.refl part none))
      refine ⟨.arr (front ++ other :: back), distinctKeys_arr.mpr ?_, ?_, fun done' => ?_⟩
      · intro part among
        rcases List.mem_append.mp among with first | rest
        · exact own part (List.mem_append_left _ first)
        · rcases List.mem_cons.mp rest with rfl | last
          · exact plain
          · exact own part (List.mem_append_right _ (List.mem_cons_of_mem _ last))
      · cases set : isSet parentKey with
        | false => exact .list set alike
        | true => exact .rows set alike (List.Perm.refl _)
      · obtain ⟨forms', each', ends'⟩ := canonicalizeUnder_arr.mp done'
        obtain ⟨before', form', after', rfl, heldOther, there, heldOther'⟩ := forall₂_split each'
        rw [forms_eq heldOther held, forms_eq heldOther' held'] at ends'
        have perm : (before ++ form' :: after).Perm (before ++ form :: after) := by
          cases set : isSet parentKey with
          | false =>
            rw [set, if_neg (by rintro ⟨⟩)] at ends ends'
            rw [Json.arr.inj (ends'.symm.trans ends)]
          | true =>
            rw [set, if_pos rfl] at ends ends'
            have sorted := Json.arr.inj (ends'.2.symm.trans ends.2)
            exact (arranged_perm _).symm.trans (sorted ▸ arranged_perm _)
        rw [eq_of_perm_replaced perm] at there
        exact differs there
    · push Not at rows
      obtain ⟨set, tied⟩ := rows
      rw [set, if_pos rfl] at ends
      obtain ⟨forms', perm, differs⟩ := exists_arranged_ne tied
      obtain ⟨items', each', arranges⟩ := List.perm_comp_forall₂ perm each.flip
      refine ⟨.arr items', distinctKeys_arr.mpr fun item member => ?_, ?_, fun done' => ?_⟩
      · exact own item (arranges.mem_iff.mp member)
      · exact .rows set (List.forall₂_same.mpr fun part _ => Same.refl part none) arranges.symm
      · obtain ⟨forms'', each'', ends'⟩ := canonicalizeUnder_arr.mp done'
        rw [set, if_pos rfl, forms_eq each'' each'.flip] at ends'
        exact differs (Json.arr.inj (ends'.2.symm.trans ends.2))
  | obj fields ih =>
    intro distinct parentKey canonical done tied
    have own := distinctKeys_obj.mp distinct
    obtain ⟨forms, each, rfl⟩ := canonicalizeUnder_obj.mp done
    rw [tieFree, ← Bool.not_eq_true, tieFreeFields_iff] at tied
    push Not at tied
    obtain ⟨⟨key, value⟩, member, tied⟩ := tied
    have stated := (get?_iff_mem own.1).mpr member
    obtain ⟨form, here, found⟩ := get?_canonicalizeFields each stated
    obtain ⟨other, plain, same, differs⟩ :=
      ih (key, value) member (own.2 _ member) (some key) form here (Bool.not_eq_true _ ▸ tied)
    obtain ⟨front, back, rfl⟩ := List.append_of_mem member
    have keys : (front ++ (key, other) :: back).map Prod.fst =
        (front ++ (key, value) :: back).map Prod.fst := by simp
    have apart : ((front ++ (key, other) :: back).map Prod.fst).Nodup := keys ▸ own.1
    have stated' : get? (front ++ (key, other) :: back) key = some other :=
      (get?_iff_mem apart).mpr (List.mem_append_right _ List.mem_cons_self)
    refine ⟨.obj (front ++ (key, other) :: back), distinctKeys_obj.mpr ⟨apart, ?_⟩, ?_, fun done' => ?_⟩
    · intro field among
      rcases List.mem_append.mp among with first | rest
      · exact own.2 field (List.mem_append_left _ first)
      · rcases List.mem_cons.mp rest with rfl | last
        · exact plain
        · exact own.2 field (List.mem_append_right _ (List.mem_cons_of_mem _ last))
    · refine .obj (fun name => ?_) fun name first second found found' => ?_
      · rw [Bool.eq_iff_iff, hasKey_iff_mem, hasKey_iff_mem, keys]
      · by_cases changed : name = key
        · subst changed
          rw [← Option.some.inj (stated.symm.trans found), ← Option.some.inj (stated'.symm.trans found')]
          exact same
        · have kept : (name, second) ∈ front ++ (key, value) :: back := by
            rcases List.mem_append.mp ((get?_iff_mem apart).mp found') with first | rest
            · exact List.mem_append_left _ first
            · rcases List.mem_cons.mp rest with renamed | last
              · exact absurd (congrArg Prod.fst renamed) changed
              · exact List.mem_append_right _ (List.mem_cons_of_mem _ last)
          rw [Option.some.inj (found.symm.trans ((get?_iff_mem own.1).mpr kept))]
          exact Same.refl second (some name)
    · obtain ⟨forms', each', ends'⟩ := canonicalizeUnder_obj.mp done'
      obtain ⟨form', there, found'⟩ := get?_canonicalizeFields each' stated'
      have distinctForms : (forms.map Prod.fst).Nodup := by
        rw [canonicalizeFields_keys each]
        exact own.1
      have perm := (sortFields_eq_iff distinctForms).mp (Json.obj.inj ends')
      rw [get?_of_perm distinctForms perm, found'] at found
      rw [Option.some.inj found] at there
      exact differs there

/-! ### Canonical forms of canonical forms -/

theorem sortFields_idem (fields : Dict) : sortFields (sortFields fields) = sortFields fields :=
  List.Pairwise.insertionSort_eq (Lists.pairwise_insertionSort (fun a _ b _ => le_total a.1 b.1)
    fun _ _ _ _ _ _ => le_trans)

/-- **A canonical form is its own**, and its keys are in order. -/
theorem canonicalizeUnder_idem (value : Json) : ∀ parentKey canonical,
    canonicalizeUnder parentKey value = .ok canonical →
      canonicalizeUnder parentKey canonical = .ok canonical ∧ sortKeys canonical = canonical := by
  induction value using tree_induction with
  | null | bool | int | float | str =>
    intro parentKey canonical done
    rw [← Except.ok.inj done]
    exact ⟨rfl, rfl⟩
  | arr items ih =>
    intro parentKey canonical done
    obtain ⟨forms, each, ends⟩ := canonicalizeUnder_arr.mp done
    have own : ∀ form ∈ forms, canonicalizeUnder none form = .ok form ∧ sortKeys form = form := by
      intro form member
      obtain ⟨item, among, held⟩ := exists_mem_of_forall₂ each member
      exact ih item among none form held
    cases set : isSet parentKey with
    | false =>
      rw [set, if_neg (by rintro ⟨⟩)] at ends
      subst ends
      refine ⟨canonicalizeUnder_arr.mpr ⟨forms, List.forall₂_same.mpr fun form member =>
        (own form member).1, ?_⟩, ?_⟩
      · rw [set, if_neg (by rintro ⟨⟩)]
      · rw [sortKeys, sortKeysItems_eq, List.map_congr_left fun form member => (own form member).2,
          List.map_id']
    | true =>
      rw [set, if_pos rfl] at ends
      obtain ⟨sortable, rfl⟩ := ends
      have arranges := arranged_perm forms
      refine ⟨canonicalizeUnder_arr.mpr ⟨arranged forms, List.forall₂_same.mpr fun form member =>
        (own form (arranges.mem_iff.mp member)).1, ?_⟩, ?_⟩
      · rw [set, if_pos rfl, sortable.arranged_idem]
        exact ⟨sortable.perm arranges.symm, rfl⟩
      · rw [sortKeys, sortKeysItems_eq, List.map_congr_left fun form member =>
          (own form (arranges.mem_iff.mp member)).2, List.map_id']
  | obj fields ih =>
    intro parentKey canonical done
    obtain ⟨forms, each, rfl⟩ := canonicalizeUnder_obj.mp done
    have sorted : (sortFields forms).Perm forms := List.perm_insertionSort _ _
    have own : ∀ form ∈ sortFields forms,
        canonicalizeUnder (some form.1) form.2 = .ok form.2 ∧ sortKeys form.2 = form.2 := by
      intro form member
      obtain ⟨field, among, same, held⟩ :=
        exists_mem_of_forall₂ (canonicalizeFields_eq_ok.mp each) (sorted.mem_iff.mp member)
      rw [same]
      exact ih field among (some field.1) form.2 held
    constructor
    · refine canonicalizeUnder_obj.mpr ⟨sortFields forms, canonicalizeFields_eq_ok.mpr ?_, ?_⟩
      · exact List.forall₂_same.mpr fun form member => ⟨rfl, (own form member).1⟩
      · rw [sortFields_idem]
    · have fixed : sortKeysFields (sortFields forms) = sortFields forms := by
        rw [sortKeysFields_eq]
        refine (List.map_congr_left fun form member => ?_).trans (List.map_id _)
        rw [(own form member).2]
        rfl
      rw [sortKeys_obj, fixed, sortFields_idem]

end Audisor.Lifecycle
