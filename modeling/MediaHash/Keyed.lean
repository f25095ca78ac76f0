/-!
# Values under ascending keys

A table keeps one value under each of its keys.  The keys are texts and
stand in ascending order, whatever the order in which they came.
-/

namespace MediaHash

/-- Keys with their values, the keys ascending. -/
abbrev Keyed (α : Type) := List (String × α)

namespace Keyed

variable {α : Type}

/-- The value under a key. -/
def find? (table : Keyed α) (key : String) : Option α :=
  match table with
  | [] => none
  | (first, value) :: rest =>
      if first = key then some value else find? rest key

/-- Whether there is a value under a key. -/
def contains (table : Keyed α) (key : String) : Bool :=
  (find? table key).isSome

/-- Change the value under a key; without one, the change starts from none. -/
def update (table : Keyed α) (key : String) (change : Option α → α) :
    Keyed α :=
  match table with
  | [] => [(key, change none)]
  | (first, value) :: rest =>
      if first = key then (key, change (some value)) :: rest
      else if key < first then (key, change none) :: (first, value) :: rest
      else (first, value) :: update rest key change

/-- Put a value under a key, in the place of an earlier one. -/
def insert (table : Keyed α) (key : String) (value : α) : Keyed α :=
  table.update key fun _ => value

/-- The keys of the table stand in strictly ascending order. -/
def Ascending (table : Keyed α) : Prop :=
  table.Pairwise fun left right => left.1 < right.1

theorem find?_eq_none_of_forall_lt {table : Keyed α} {key : String}
    (above : ∀ entry ∈ table, key < entry.1) : find? table key = none := by
  induction table with
  | nil => rfl
  | cons entry rest ih =>
      have here : key < entry.1 := above entry List.mem_cons_self
      have different : entry.1 ≠ key := by
        rintro same
        exact String.lt_irrefl key (same ▸ here)
      simp only [find?, different, if_false]
      exact ih fun other member => above other (List.mem_cons_of_mem _ member)

/-- After a change of a key, its value is the changed one. -/
theorem find?_update_self {table : Keyed α} (ascending : Ascending table)
    (key : String) (change : Option α → α) :
    find? (update table key change) key = some (change (find? table key)) := by
  induction table with
  | nil => simp [update, find?]
  | cons entry rest ih =>
      obtain ⟨first, value⟩ := entry
      obtain ⟨above, ascendingRest⟩ := List.pairwise_cons.mp ascending
      by_cases same : first = key
      · simp [update, find?, same]
      · by_cases before : key < first
        · have absent : find? rest key = none :=
            find?_eq_none_of_forall_lt fun other member =>
              String.lt_trans before (above other member)
          simp [update, find?, same, before, absent]
        · simp [update, find?, same, before, ih ascendingRest]

/-- A change of one key leaves the values under the others. -/
theorem find?_update_of_ne {table : Keyed α} {key other : String}
    (different : other ≠ key) (change : Option α → α) :
    find? (update table key change) other = find? table other := by
  induction table with
  | nil => simp [update, find?, different.symm]
  | cons entry rest ih =>
      obtain ⟨first, value⟩ := entry
      by_cases same : first = key
      · subst same
        simp [update, find?, different.symm]
      · by_cases before : key < first
        · simp [update, find?, same, before, different.symm]
        · simp [update, find?, same, before, ih]

theorem mem_update {table : Keyed α} {key : String}
    {change : Option α → α} {entry : String × α}
    (member : entry ∈ update table key change) :
    entry.1 = key ∨ entry ∈ table := by
  induction table with
  | nil => simp_all [update]
  | cons first rest ih =>
      obtain ⟨firstKey, value⟩ := first
      by_cases same : firstKey = key
      · simp only [update, same, if_true, List.mem_cons] at member
        rcases member with rfl | later
        · exact Or.inl rfl
        · exact Or.inr (List.mem_cons_of_mem _ later)
      · by_cases before : key < firstKey
        · simp only [update, same, before, if_true, if_false] at member
          rcases List.mem_cons.mp member with rfl | later
          · exact Or.inl rfl
          · exact Or.inr later
        · simp only [update, same, before, if_false] at member
          rcases List.mem_cons.mp member with rfl | later
          · exact Or.inr List.mem_cons_self
          · rcases ih later with here | there
            · exact Or.inl here
            · exact Or.inr (List.mem_cons_of_mem _ there)

/-- A change of a key keeps the keys ascending. -/
theorem ascending_update {table : Keyed α} (ascending : Ascending table)
    (key : String) (change : Option α → α) :
    Ascending (update table key change) := by
  induction table with
  | nil => simp [update, Ascending]
  | cons entry rest ih =>
      obtain ⟨first, value⟩ := entry
      obtain ⟨above, ascendingRest⟩ := List.pairwise_cons.mp ascending
      by_cases same : first = key
      · subst same
        simp only [update, if_true]
        exact List.pairwise_cons.mpr ⟨above, ascendingRest⟩
      · by_cases before : key < first
        · simp only [update, same, before, if_true, if_false]
          refine List.pairwise_cons.mpr ⟨?_, ascending⟩
          intro other member
          rcases List.mem_cons.mp member with rfl | later
          · exact before
          · exact String.lt_trans before (above other later)
        · simp only [update, same, before, if_false]
          refine List.pairwise_cons.mpr ⟨?_, ih ascendingRest⟩
          intro other member
          rcases mem_update member with here | later
          · show first < other.1
            rw [here]
            exact Std.lt_of_le_of_ne (String.not_lt.mp before) same
          · exact above other later

end Keyed

end MediaHash
