import Mathlib.Data.List.Induction
import Mathlib.Data.List.Nodup
import Mathlib.Data.List.Perm.Basic

/-!
# Items in groups

Leaving out every item that was seen before keeps each item once, in the
order in which the items are first seen.

The keys of items, each kept once, give one group of items to each key.  The
groups part the items: every item is in exactly one of them, no item is lost
or added, and inside a group the items keep their order.
-/

namespace MediaHash

/-! ## First sight -/

section FirstSight

variable {α : Type} [DecidableEq α]

/-- The items of a list, each once, in the order of their first places. -/
structure FirstSeen (items distinct : List α) : Prop where
  nodup : distinct.Nodup
  mem_iff : ∀ item, item ∈ distinct ↔ item ∈ items
  before_iff : ∀ one other, distinct.idxOf one < distinct.idxOf other ↔
    items.idxOf one < items.idxOf other

/-- One more item at the end is kept if it is new. -/
theorem eraseDups_concat (items : List α) (item : α) :
    (items ++ [item]).eraseDups =
      if item ∈ items then items.eraseDups else items.eraseDups ++ [item] := by
  rw [List.eraseDups_append]
  split
  next old => simp [List.removeAll, old]
  next new => simp [List.removeAll, new, List.eraseDups_cons]

/-- What is kept stands in the order of its first places. -/
theorem pairwise_eraseDups (items : List α) :
    items.eraseDups.Pairwise fun one other =>
      items.idxOf one < items.idxOf other := by
  induction items using List.reverseRecOn with
  | nil => exact List.Pairwise.nil
  | append_singleton front item inductionHypothesis =>
      -- A further item moves no first place in front of it.
      have kept : front.eraseDups.Pairwise fun one other =>
          (front ++ [item]).idxOf one < (front ++ [item]).idxOf other := by
        refine inductionHypothesis.imp_of_mem ?_
        intro one other isOne isOther before
        rw [List.mem_eraseDups] at isOne isOther
        rwa [List.idxOf_append_of_mem isOne, List.idxOf_append_of_mem isOther]
      rw [eraseDups_concat]
      split
      next old => exact kept
      next new =>
        refine List.pairwise_append.mpr
          ⟨kept, List.pairwise_singleton _ item, ?_⟩
        intro one isOne other isItem
        rw [List.mem_singleton] at isItem
        rw [List.mem_eraseDups] at isOne
        rw [isItem, List.idxOf_append_of_mem isOne,
          List.idxOf_append_of_notMem new]
        exact Nat.lt_add_right _ (List.idxOf_lt_length_iff.mpr isOne)

section Places

variable {items : List α} {place : α → Nat} {one other : α}
  (ordered : items.Pairwise fun one other => place one < place other)

include ordered

theorem place_lt_of_idxOf_lt (isOther : other ∈ items)
    (before : items.idxOf one < items.idxOf other) :
    place one < place other := by
  have otherInside := List.idxOf_lt_length_iff.mpr isOther
  have oneInside := Nat.lt_trans before otherInside
  have later := List.pairwise_iff_getElem.mp ordered _ _ oneInside
    otherInside before
  rwa [List.getElem_idxOf, List.getElem_idxOf] at later

/-- In a list that ascends by places, a place tells the order of the list. -/
theorem idxOf_lt_iff_place_lt (isOne : one ∈ items)
    (isOther : other ∈ items) :
    items.idxOf one < items.idxOf other ↔ place one < place other := by
  constructor
  · exact place_lt_of_idxOf_lt ordered isOther
  · intro before
    by_contra notBefore
    rcases Nat.lt_or_eq_of_le (Nat.le_of_not_lt notBefore) with after | same
    · exact Nat.lt_asymm before (place_lt_of_idxOf_lt ordered isOne after)
    · rw [List.idxOf_inj isOther] at same
      exact Nat.lt_irrefl _ (same ▸ before)

end Places

theorem firstSeen_eraseDups (items : List α) :
    FirstSeen items items.eraseDups where
  nodup := by
    refine (pairwise_eraseDups items).imp ?_
    intro one other before same
    rw [same] at before
    exact Nat.lt_irrefl _ before
  mem_iff item := List.mem_eraseDups
  before_iff one other := by
    by_cases isOne : one ∈ items
    · by_cases isOther : other ∈ items
      · exact idxOf_lt_iff_place_lt (pairwise_eraseDups items)
          (List.mem_eraseDups.mpr isOne) (List.mem_eraseDups.mpr isOther)
      · -- What is absent counts as standing behind the end.
        rw [List.idxOf_eq_length isOther,
          List.idxOf_eq_length (mt List.mem_eraseDups.mp isOther),
          List.idxOf_lt_length_iff, List.idxOf_lt_length_iff,
          List.mem_eraseDups]
    · rw [List.idxOf_eq_length isOne,
        List.idxOf_eq_length (mt List.mem_eraseDups.mp isOne)]
      exact iff_of_false (Nat.not_lt.mpr List.idxOf_le_length)
        (Nat.not_lt.mpr List.idxOf_le_length)

end FirstSight

/-! ## Groups -/

variable {α κ : Type}

/-- Groups under different keys part the items of a list. -/
structure Parts (items : List α) (keys : List κ) (group : κ → List α) :
    Prop where
  nodup : keys.Nodup
  nonempty : ∀ key ∈ keys, group key ≠ []
  unique : ∀ item ∈ items, ∃! key, key ∈ keys ∧ item ∈ group key
  inOrder : ∀ key ∈ keys, (group key).Sublist items
  all : (keys.flatMap group).Perm items

theorem Parts.congr {items : List α} {keys : List κ}
    {group other : κ → List α} (parts : Parts items keys group)
    (same : ∀ key ∈ keys, group key = other key) :
    Parts items keys other where
  nodup := parts.nodup
  nonempty key member := same key member ▸ parts.nonempty key member
  unique item member := by
    rcases parts.unique item member with ⟨key, ⟨isKey, inside⟩, only⟩
    refine ⟨key, ⟨isKey, same key isKey ▸ inside⟩, ?_⟩
    rintro another ⟨isAnother, insideAnother⟩
    exact only another ⟨isAnother, (same another isAnother).symm ▸ insideAnother⟩
  inOrder key member := same key member ▸ parts.inOrder key member
  all := by
    rw [← List.flatMap_congr same]
    exact parts.all

section ByKey

variable [DecidableEq κ] (keyOf : α → κ)

/-- The items with a key. -/
def withKey (items : List α) (key : κ) : List α :=
  items.filter fun item => keyOf item == key

variable {keyOf} in
theorem mem_withKey {items : List α} {key : κ} {item : α} :
    item ∈ withKey keyOf items key ↔ item ∈ items ∧ keyOf item = key := by
  rw [withKey, List.mem_filter, beq_iff_eq]

/-- A group has items of one key only. -/
theorem withKey_withKey (items : List α) (key wanted : κ) :
    withKey keyOf (withKey keyOf items key) wanted =
      if key = wanted then withKey keyOf items wanted else [] := by
  rw [withKey, withKey, List.filter_filter]
  split
  next same =>
    subst same
    simp only [Bool.and_self, withKey]
  next different =>
    rw [List.filter_eq_nil_iff]
    intro item member both
    rw [Bool.and_eq_true, beq_iff_eq, beq_iff_eq] at both
    exact different (both.2.symm.trans both.1)

/-- Groups one after the other keep the order of the items of each key. -/
theorem withKey_flatMap (items : List α) {keys : List κ}
    (nodup : keys.Nodup) (wanted : κ) :
    withKey keyOf (keys.flatMap (withKey keyOf items)) wanted =
      if wanted ∈ keys then withKey keyOf items wanted else [] := by
  induction keys with
  | nil => rfl
  | cons key rest inductionHypothesis =>
      rcases List.nodup_cons.mp nodup with ⟨absent, restNodup⟩
      have split : withKey keyOf ((key :: rest).flatMap (withKey keyOf items))
            wanted =
          withKey keyOf (withKey keyOf items key) wanted ++
            withKey keyOf (rest.flatMap (withKey keyOf items)) wanted := by
        rw [List.flatMap_cons, withKey, List.filter_append]
        rfl
      rw [split, withKey_withKey, inductionHypothesis restNodup]
      by_cases same : key = wanted
      · subst same
        rw [if_pos rfl, if_neg absent, if_pos List.mem_cons_self,
          List.append_nil]
      · simp [same, Ne.symm same]

theorem withKey_flatMap_eraseDups (items : List α) (wanted : κ) :
    withKey keyOf
        ((items.map keyOf).eraseDups.flatMap (withKey keyOf items)) wanted =
      withKey keyOf items wanted := by
  rw [withKey_flatMap keyOf items (firstSeen_eraseDups _).nodup]
  split
  next => rfl
  next absent =>
    rw [List.mem_eraseDups, List.mem_map] at absent
    symm
    rw [withKey, List.filter_eq_nil_iff]
    intro item member sameKey
    exact absent ⟨item, member, beq_iff_eq.mp sameKey⟩

/-- An item occurs among all items as often as among those of its key. -/
theorem count_withKey [DecidableEq α] (items : List α) (item : α) :
    (withKey keyOf items (keyOf item)).count item = items.count item :=
  List.count_filter (beq_self_eq_true (keyOf item))

/-- The groups of the keys part the items. -/
theorem parts_withKey [DecidableEq α] (items : List α) :
    Parts items (items.map keyOf).eraseDups (withKey keyOf items) where
  nodup := (firstSeen_eraseDups _).nodup
  nonempty key member := by
    rcases List.mem_map.mp (List.mem_eraseDups.mp member) with
      ⟨item, isItem, rfl⟩
    exact List.ne_nil_of_mem (mem_withKey.mpr ⟨isItem, rfl⟩)
  unique item member := by
    refine ⟨keyOf item, ⟨?_, mem_withKey.mpr ⟨member, rfl⟩⟩, ?_⟩
    · exact List.mem_eraseDups.mpr (List.mem_map_of_mem member)
    · rintro key ⟨-, inside⟩
      exact (mem_withKey.mp inside).2.symm
  inOrder key member := List.filter_sublist
  all := by
    rw [List.perm_iff_count]
    intro item
    rw [← count_withKey keyOf, withKey_flatMap_eraseDups,
      count_withKey]

end ByKey

end MediaHash
