import MediaHash.Expectation

/-!
# Demands on a manifest

A table of expectations is built by demands, one after the other: that a
path be known, that it have a digest of some family, that it have a size.
What a table expects is seen through three views: the digest of a path and a
family, the size of a path, and the paths themselves.

A demand changes the view that it is about and no other.  The main
statements follow by induction: after any run of demands each fact has the
value of the last demand about it, and exactly the named paths are expected.
-/

namespace MediaHash

/-! ## Entries of a keyed table -/

namespace Keyed

variable {α : Type}

theorem mem_of_find? {table : Keyed α} {key : String} {value : α}
    (found : find? table key = some value) : (key, value) ∈ table := by
  induction table with
  | nil => cases found
  | cons entry rest ih =>
      rcases entry with ⟨first, stored⟩
      by_cases same : first = key
      · simp only [find?, same, if_true, Option.some.injEq] at found
        rw [same, found]
        exact List.mem_cons_self
      · simp only [find?, same, if_false] at found
        exact List.mem_cons_of_mem _ (ih found)

theorem find?_of_mem {table : Keyed α} (ascending : Ascending table)
    {key : String} {value : α} (member : (key, value) ∈ table) :
    find? table key = some value := by
  induction table with
  | nil => cases member
  | cons entry rest ih =>
      rcases entry with ⟨first, stored⟩
      rcases List.pairwise_cons.mp ascending with ⟨above, ascendingRest⟩
      rcases List.mem_cons.mp member with here | later
      · rcases Prod.mk.inj here with ⟨rfl, rfl⟩
        simp [find?]
      · have before : first < key := above (key, value) later
        have different : first ≠ key := by
          rintro rfl
          exact String.lt_irrefl first before
        simp only [find?, different, if_false]
        exact ih ascendingRest later

/-- The entries of an ascending table are what look-ups find. -/
theorem mem_iff_find? {table : Keyed α} (ascending : Ascending table)
    {key : String} {value : α} :
    (key, value) ∈ table ↔ find? table key = some value :=
  ⟨find?_of_mem ascending, mem_of_find?⟩

/-- There is a value under the keys of a table, in whatever order. -/
theorem contains_iff {table : Keyed α} {key : String} :
    table.contains key = true ↔ key ∈ table.map Prod.fst := by
  induction table with
  | nil => simp [contains, find?]
  | cons entry rest ih =>
      rcases entry with ⟨first, value⟩
      rw [contains] at ih ⊢
      by_cases same : first = key
      · simp [find?, same]
      · simp [find?, same, Ne.symm same, ih]

theorem find?_update {table : Keyed α} (ascending : Ascending table)
    (key other : String) (change : Option α → α) :
    find? (update table key change) other =
      if key = other then some (change (find? table key))
      else find? table other := by
  by_cases same : key = other
  · subst same
    rw [if_pos rfl, find?_update_self ascending]
  · rw [if_neg same, find?_update_of_ne (Ne.symm same)]

end Keyed

namespace Expectations

/-! ## Views of a table -/

/-- Paths, and the families below each path, stand in ascending order. -/
structure Ordered (table : Expectations) : Prop where
  paths : Keyed.Ascending table.paths
  families : ∀ entry ∈ table.paths, Keyed.Ascending entry.2.digests

/-- What is expected of a path; nothing, if the path is not expected. -/
def facts (table : Expectations) (path : String) : ExpectedFacts :=
  (table.find? path).getD .none

/-- The digest that is expected of a path and a family. -/
def digest? (table : Expectations) (path family : String) :
    Option String :=
  (table.facts path).digests.find? family

/-- The size that is expected of a path. -/
def size? (table : Expectations) (path : String) : Option Nat :=
  (table.facts path).size

theorem ordered_empty : empty.Ordered :=
  ⟨List.Pairwise.nil, by simp [empty]⟩

section Entries

variable {table : Expectations}

theorem digest?_eq_some_iff (ordered : table.Ordered)
    {path family digest : String} :
    table.digest? path family = some digest ↔
      ∃ facts, (path, facts) ∈ table.paths ∧
        (family, digest) ∈ facts.digests := by
  constructor
  · intro expected
    cases found : table.find? path with
    | none => simp [digest?, facts, found, ExpectedFacts.none, Keyed.find?]
        at expected
    | some facts =>
        simp only [digest?, Expectations.facts, found, Option.getD_some]
          at expected
        exact ⟨facts, Keyed.mem_of_find? found, Keyed.mem_of_find? expected⟩
  · rintro ⟨facts, here, member⟩
    have found : table.find? path = some facts :=
      Keyed.find?_of_mem ordered.paths here
    rw [digest?, Expectations.facts, found, Option.getD_some]
    exact Keyed.find?_of_mem (ordered.families _ here) member

theorem size?_eq_some_iff (ordered : table.Ordered)
    {path : String} {size : Nat} :
    table.size? path = some size ↔
      ∃ facts, (path, facts) ∈ table.paths ∧ facts.size = some size := by
  constructor
  · intro expected
    cases found : table.find? path with
    | none => simp [size?, facts, found, ExpectedFacts.none] at expected
    | some facts =>
        simp only [size?, Expectations.facts, found, Option.getD_some]
          at expected
        exact ⟨facts, Keyed.mem_of_find? found, expected⟩
  · rintro ⟨facts, here, stated⟩
    have found : table.find? path = some facts :=
      Keyed.find?_of_mem ordered.paths here
    rwa [size?, Expectations.facts, found, Option.getD_some]

theorem contains_iff (ordered : table.Ordered) {path : String} :
    table.contains path = true ↔ ∃ facts, (path, facts) ∈ table.paths := by
  rw [contains, Keyed.contains, Option.isSome_iff_exists]
  simp only [Keyed.mem_iff_find? ordered.paths]

theorem facts_eq_of_find? {path : String} {facts : ExpectedFacts}
    (found : table.find? path = some facts) : table.facts path = facts := by
  rw [Expectations.facts, found, Option.getD_some]

/-- The families under a path are those with an expected digest. -/
theorem mem_families_iff {path family : String} {facts : ExpectedFacts}
    (found : table.find? path = some facts) :
    family ∈ facts.digests.map Prod.fst ↔
      (table.digest? path family).isSome = true := by
  rw [← Keyed.contains_iff, Keyed.contains, digest?, facts_eq_of_find? found]

end Entries

section Change

variable {table : Expectations}

theorem Ordered.ascending_facts (ordered : table.Ordered) (path : String) :
    Keyed.Ascending (table.facts path).digests := by
  unfold facts
  cases found : table.find? path with
  | none => exact List.Pairwise.nil
  | some facts =>
      exact ordered.families (path, facts) (Keyed.mem_of_find? found)

theorem Ordered.change (ordered : table.Ordered) (path : String)
    {step : ExpectedFacts → ExpectedFacts}
    (keeps : ∀ facts, Keyed.Ascending facts.digests →
      Keyed.Ascending (step facts).digests) :
    (table.change path step).Ordered where
  paths := Keyed.ascending_update ordered.paths _ _
  families := by
    have ascending :=
      Keyed.ascending_update ordered.paths path
        fun facts => step (facts.getD .none)
    rintro ⟨other, facts⟩ member
    have found := Keyed.find?_of_mem ascending member
    rw [Keyed.find?_update ordered.paths] at found
    split at found
    next =>
      rcases Option.some.inj found with rfl
      exact keeps _ (ordered.ascending_facts path)
    next =>
      exact ordered.families (other, facts) (Keyed.mem_of_find? found)

theorem facts_change (ordered : table.Ordered) (path other : String)
    (step : ExpectedFacts → ExpectedFacts) :
    (table.change path step).facts other =
      if path = other then step (table.facts path)
      else table.facts other := by
  rw [facts, find?, Expectations.change, Keyed.find?_update ordered.paths]
  split
  next => rfl
  next => rfl

theorem contains_change (ordered : table.Ordered) (path other : String)
    (step : ExpectedFacts → ExpectedFacts) :
    (table.change path step).contains other = true ↔
      path = other ∨ table.contains other = true := by
  rw [contains, Keyed.contains, Expectations.change,
    Keyed.find?_update ordered.paths]
  split
  next same => simp [same]
  next different => simp [different, contains, Keyed.contains]

theorem digest?_change_of_keeps (ordered : table.Ordered)
    {step : ExpectedFacts → ExpectedFacts}
    (keeps : ∀ facts, (step facts).digests = facts.digests)
    (subject path family : String) :
    (table.change subject step).digest? path family =
      table.digest? path family := by
  rw [digest?, facts_change ordered]
  split
  next same => rw [keeps, same, digest?]
  next => rfl

theorem size?_change_of_keeps (ordered : table.Ordered)
    {step : ExpectedFacts → ExpectedFacts}
    (keeps : ∀ facts, (step facts).size = facts.size)
    (subject path : String) :
    (table.change subject step).size? path = table.size? path := by
  rw [size?, facts_change ordered]
  split
  next same => rw [keeps, same, size?]
  next => rfl

end Change

/-! ## Demands -/

/-- One thing that a manifest is asked to record. -/
inductive Demand where
  | path (path : String)
  | digest (path family digest : String)
  | typed (path : String) (family : HashType) (digest : String)
  | size (path : String) (size : Nat)
deriving DecidableEq

namespace Demand

/-- The path that a demand is about. -/
def subject : Demand → String
  | path subject => subject
  | digest subject _ _ => subject
  | typed subject _ _ => subject
  | size subject _ => subject

/-- The digest that a demand states for a path and a family. -/
def digestFor? (path family : String) : Demand → Option String
  | digest subject kind value =>
      if subject = path ∧ kind = family then some value else none
  | typed subject kind value =>
      if subject = path ∧ kind.tag = family then some value else none
  | _ => none

/-- The size that a demand states for a path. -/
def sizeFor? (path : String) : Demand → Option Nat
  | size subject value => if subject = path then some value else none
  | _ => none

/-- Put a demand into a table. -/
def apply (table : Expectations) : Demand → Expectations
  | path subject => table.expectPath subject
  | digest subject family value => table.expectDigest subject family value
  | typed subject family value => table.expectTyped subject family value
  | size subject value => table.expectSize subject value

end Demand

/-- Put demands into a table, one after the other. -/
def demandAll (table : Expectations) (demands : List Demand) : Expectations :=
  demands.foldl Demand.apply table

/-! ## One demand -/

section Step

variable {table : Expectations}

theorem ordered_expectDigest (ordered : table.Ordered)
    (path family digest : String) :
    (table.expectDigest path family digest).Ordered :=
  ordered.change path fun _ ascending =>
    Keyed.ascending_update ascending _ _

theorem Ordered.apply (ordered : table.Ordered) (demand : Demand) :
    (demand.apply table).Ordered := by
  cases demand with
  | path subject => exact ordered.change subject fun _ ascending => ascending
  | digest subject family value =>
      exact ordered_expectDigest ordered subject family value
  | typed subject family value =>
      exact ordered_expectDigest ordered subject family.tag value
  | size subject value =>
      rw [Demand.apply, expectSize]
      exact ordered.change subject fun _ ascending => ascending

theorem digest?_expectDigest (ordered : table.Ordered)
    (subject kind value path family : String) :
    (table.expectDigest subject kind value).digest? path family =
      (if subject = path ∧ kind = family then some value else none).or
        (table.digest? path family) := by
  have ascending := ordered.ascending_facts subject
  rw [digest?, expectDigest, facts_change ordered, digest?]
  by_cases samePath : subject = path
  · subst samePath
    simp only [if_true, true_and, Keyed.insert, Keyed.find?_update ascending]
    split
    next => rfl
    next => rfl
  · simp [samePath]

theorem digest?_apply (ordered : table.Ordered) (demand : Demand)
    (path family : String) :
    (demand.apply table).digest? path family =
      (demand.digestFor? path family).or (table.digest? path family) := by
  cases demand with
  | path subject =>
      show (table.change subject id).digest? path family =
        table.digest? path family
      apply digest?_change_of_keeps ordered
      intro facts
      rfl
  | digest subject kind value =>
      exact digest?_expectDigest ordered subject kind value path family
  | typed subject kind value =>
      exact digest?_expectDigest ordered subject kind.tag value path family
  | size subject value =>
      show (table.change subject _).digest? path family =
        table.digest? path family
      apply digest?_change_of_keeps ordered
      intro facts
      rfl

theorem size?_expectDigest (ordered : table.Ordered)
    (subject kind value path : String) :
    (table.expectDigest subject kind value).size? path =
      table.size? path := by
  apply size?_change_of_keeps ordered
  intro facts
  rfl

theorem size?_apply (ordered : table.Ordered) (demand : Demand)
    (path : String) :
    (demand.apply table).size? path =
      (demand.sizeFor? path).or (table.size? path) := by
  cases demand with
  | path subject =>
      show (table.change subject id).size? path = table.size? path
      apply size?_change_of_keeps ordered
      intro facts
      rfl
  | digest subject kind value =>
      exact size?_expectDigest ordered subject kind value path
  | typed subject kind value =>
      exact size?_expectDigest ordered subject kind.tag value path
  | size subject value =>
      rw [size?, Demand.apply, expectSize, facts_change ordered]
      split
      next same => simp [same, Demand.sizeFor?]
      next different => simp [different, Demand.sizeFor?, size?]

theorem contains_apply (ordered : table.Ordered) (demand : Demand)
    (path : String) :
    (demand.apply table).contains path = true ↔
      demand.subject = path ∨ table.contains path = true := by
  cases demand with
  | path subject => exact contains_change ordered subject path _
  | digest subject kind value => exact contains_change ordered subject path _
  | typed subject kind value => exact contains_change ordered subject path _
  | size subject value => exact contains_change ordered subject path _

end Step

/-! ## A run of demands -/

section Run

variable {table : Expectations}

theorem Ordered.demandAll (ordered : table.Ordered)
    (demands : List Demand) : (table.demandAll demands).Ordered := by
  induction demands generalizing table with
  | nil => exact ordered
  | cons demand rest ih => exact ih (ordered.apply demand)

/-- The last value of a list is that of its tail, if the tail has one. -/
theorem getLast?_filterMap_cons {α β : Type} (value? : α → Option β)
    (first : α) (rest : List α) :
    ((first :: rest).filterMap value?).getLast? =
      (rest.filterMap value?).getLast?.or (value? first) := by
  cases here : value? first with
  | none => rw [List.filterMap_cons_none here, Option.or_none]
  | some value =>
      rw [List.filterMap_cons_some here, List.getLast?_cons]
      cases (rest.filterMap value?).getLast? <;> rfl

/-- A digest is the one of the last demand about it. -/
theorem digest?_demandAll (ordered : table.Ordered)
    (demands : List Demand) (path family : String) :
    (table.demandAll demands).digest? path family =
      (demands.filterMap (Demand.digestFor? path family)).getLast?.or
        (table.digest? path family) := by
  induction demands generalizing table with
  | nil => rfl
  | cons demand rest ih =>
      have run := ih (ordered.apply demand)
      rw [digest?_apply ordered, ← Option.or_assoc,
        ← getLast?_filterMap_cons] at run
      exact run

/-- A size is the one of the last demand about it. -/
theorem size?_demandAll (ordered : table.Ordered) (demands : List Demand)
    (path : String) :
    (table.demandAll demands).size? path =
      (demands.filterMap (Demand.sizeFor? path)).getLast?.or
        (table.size? path) := by
  induction demands generalizing table with
  | nil => rfl
  | cons demand rest ih =>
      have run := ih (ordered.apply demand)
      rw [size?_apply ordered, ← Option.or_assoc,
        ← getLast?_filterMap_cons] at run
      exact run

/-- A path is expected once a demand has named it. -/
theorem contains_demandAll (ordered : table.Ordered)
    (demands : List Demand) (path : String) :
    (table.demandAll demands).contains path = true ↔
      (∃ demand ∈ demands, demand.subject = path) ∨
        table.contains path = true := by
  induction demands generalizing table with
  | nil => simp [demandAll]
  | cons demand rest ih =>
      have run := ih (ordered.apply demand)
      rw [contains_apply ordered] at run
      simp only [List.mem_cons, exists_eq_or_imp]
      rw [or_assoc, or_left_comm]
      exact run

end Run

/-! ## Runs from the empty table -/

/-- The table that a run of demands builds. -/
def ofDemands (demands : List Demand) : Expectations :=
  empty.demandAll demands

section OfDemands

variable {demands : List Demand} {path : String}

theorem ordered_ofDemands (demands : List Demand) :
    (ofDemands demands).Ordered :=
  ordered_empty.demandAll demands

theorem contains_ofDemands :
    (ofDemands demands).contains path = true ↔
      ∃ demand ∈ demands, demand.subject = path := by
  have nothing : empty.contains path = false := rfl
  rw [ofDemands, contains_demandAll ordered_empty, nothing]
  simp

theorem digest?_ofDemands (family : String) :
    (ofDemands demands).digest? path family =
      (demands.filterMap (Demand.digestFor? path family)).getLast? := by
  have nothing : empty.digest? path family = none := rfl
  rw [ofDemands, digest?_demandAll ordered_empty, nothing, Option.or_none]

theorem size?_ofDemands :
    (ofDemands demands).size? path =
      (demands.filterMap (Demand.sizeFor? path)).getLast? := by
  have nothing : empty.size? path = none := rfl
  rw [ofDemands, size?_demandAll ordered_empty, nothing, Option.or_none]

end OfDemands

end Expectations

end MediaHash
