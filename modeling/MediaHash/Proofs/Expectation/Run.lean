import Mathlib.Data.Finset.Card
import Mathlib.Data.List.Sort
import MediaHash.Proofs.Encoding.Ordering
import MediaHash.Proofs.Expectation.Demand

/-!
# The table after a run of demands

A run starts from the empty table.  Its table lists every path that was named
once, in the order of the bytes, and under each path the last digest that was
demanded of each family and the last size.

Nothing else is remembered.  Tables that agree in what they expect are equal,
and two demands in a row that do not settle the same fact of one path agree in
this whichever comes first.
-/

namespace MediaHash

open Encoding (writeUtf8)

namespace Keyed

variable {α : Type}

/-- Look-ups tell ascending tables apart. -/
theorem eq_of_find?_eq {left right : Keyed α}
    (leftAscending : Ascending left) (rightAscending : Ascending right)
    (same : ∀ key, find? left key = find? right key) : left = right := by
  apply List.Pairwise.eq_of_mem_iff leftAscending rightAscending
  rintro ⟨key, value⟩
  rw [mem_iff_find? leftAscending, mem_iff_find? rightAscending, same]

end Keyed

namespace Expectations

/-! ## Tables with the same views -/

section Views

variable {table other : Expectations}

theorem find?_eq_of_contains {path : String}
    (contained : table.contains path = true) :
    table.find? path = some (table.facts path) := by
  rcases Option.isSome_iff_exists.mp contained with ⟨facts, found⟩
  rw [Expectations.facts, find?, found, Option.getD_some]

theorem find?_eq_none_of_not_contains {path : String}
    (absent : ¬ table.contains path = true) : table.find? path = none :=
  Option.not_isSome_iff_eq_none.mp absent

theorem facts_eq_of_views (ordered : table.Ordered)
    (otherOrdered : other.Ordered) {path : String}
    (digests : ∀ family,
      table.digest? path family = other.digest? path family)
    (sizes : table.size? path = other.size? path) :
    table.facts path = other.facts path := by
  have sameDigests :
      (table.facts path).digests = (other.facts path).digests :=
    Keyed.eq_of_find?_eq (ordered.ascending_facts path)
      (otherOrdered.ascending_facts path) digests
  exact congrArg₂ ExpectedFacts.mk sameDigests sizes

/-- Tables are equal if they expect the same. -/
theorem eq_of_views (ordered : table.Ordered) (otherOrdered : other.Ordered)
    (paths : ∀ path,
      table.contains path = true ↔ other.contains path = true)
    (digests : ∀ path family,
      table.digest? path family = other.digest? path family)
    (sizes : ∀ path, table.size? path = other.size? path) :
    table = other := by
  have found : ∀ path, table.find? path = other.find? path := by
    intro path
    by_cases contained : table.contains path = true
    · rw [find?_eq_of_contains contained,
        find?_eq_of_contains ((paths path).mp contained),
        facts_eq_of_views ordered otherOrdered (digests path) (sizes path)]
    · rw [find?_eq_none_of_not_contains contained,
        find?_eq_none_of_not_contains (mt (paths path).mpr contained)]
  cases table with
  | mk paths =>
      cases other with
      | mk otherPaths =>
          exact congrArg Expectations.mk
            (Keyed.eq_of_find?_eq ordered.paths otherOrdered.paths found)

end Views

/-! ## Demands about different facts -/

/-- What a demand settles about its path. -/
inductive Topic where
  | presence
  | digest (family : String)
  | size
deriving DecidableEq

namespace Demand

/-- The fact that a demand settles; a known family goes by its tag. -/
def topic : Demand → Topic
  | path _ => .presence
  | digest _ family _ => .digest family
  | typed _ family _ => .digest family.tag
  | size _ _ => .size

/-- The demands name different paths, or settle different facts of one. -/
def Independent (first second : Demand) : Prop :=
  first.subject ≠ second.subject ∨ first.topic ≠ second.topic

variable {first second demand : Demand} {subject family : String}

theorem isSome_digestFor?_iff :
    (demand.digestFor? subject family).isSome = true ↔
      demand.subject = subject ∧ demand.topic = .digest family := by
  cases demand <;>
    simp [digestFor?, Demand.subject, topic, apply_ite Option.isSome]

theorem isSome_sizeFor?_iff :
    (demand.sizeFor? subject).isSome = true ↔
      demand.subject = subject ∧ demand.topic = .size := by
  cases demand <;>
    simp [sizeFor?, Demand.subject, topic, apply_ite Option.isSome]

/-- Independent demands do not both settle one fact of a path. -/
theorem Independent.not_both (independent : first.Independent second)
    {topic : Topic}
    (settled : first.subject = subject ∧ first.topic = topic) :
    ¬ (second.subject = subject ∧ second.topic = topic) := by
  rintro ⟨sameSubject, sameTopic⟩
  rcases independent with different | different
  · exact different (settled.1.trans sameSubject.symm)
  · exact different (settled.2.trans sameTopic.symm)

end Demand

theorem or_left_comm_of_not_both {α : Type} {left right rest : Option α}
    (notBoth : left.isSome = true → ¬ right.isSome = true) :
    left.or (right.or rest) = right.or (left.or rest) := by
  cases left with
  | none => rw [Option.none_or, Option.none_or]
  | some value =>
      rw [Option.not_isSome_iff_eq_none.mp (notBoth rfl), Option.none_or,
        Option.none_or]

/-- Two independent demands in a row can be put in either order. -/
theorem apply_comm {table : Expectations} (ordered : table.Ordered)
    {first second : Demand} (independent : first.Independent second) :
    second.apply (first.apply table) = first.apply (second.apply table) := by
  have firstOrdered := ordered.apply first
  have secondOrdered := ordered.apply second
  apply eq_of_views (firstOrdered.apply second) (secondOrdered.apply first)
  · intro path
    rw [contains_apply firstOrdered, contains_apply ordered,
      contains_apply secondOrdered, contains_apply ordered, or_left_comm]
  -- of one digest or size at most one of the two demands says something
  · intro path family
    rw [digest?_apply firstOrdered, digest?_apply ordered,
      digest?_apply secondOrdered, digest?_apply ordered]
    apply or_left_comm_of_not_both
    rw [Demand.isSome_digestFor?_iff, Demand.isSome_digestFor?_iff]
    exact fun secondSettles firstSettles =>
      independent.not_both firstSettles secondSettles
  · intro path
    rw [size?_apply firstOrdered, size?_apply ordered,
      size?_apply secondOrdered, size?_apply ordered]
    apply or_left_comm_of_not_both
    rw [Demand.isSome_sizeFor?_iff, Demand.isSome_sizeFor?_iff]
    exact fun secondSettles firstSettles =>
      independent.not_both firstSettles secondSettles

/-! ## Runs from the empty table -/

section OfDemands

variable {demands : List Demand} {path : String}

/-- A family has a digest once one was demanded of it. -/
theorem isSome_getLast?_digestsFor_iff {family : String} :
    ((demands.filterMap (Demand.digestFor? path family)).getLast?).isSome =
        true ↔
      ∃ demand ∈ demands,
        demand.subject = path ∧ demand.topic = .digest family := by
  rw [List.getLast?_isSome, Ne, List.filterMap_eq_nil_iff]
  simp only [← Demand.isSome_digestFor?_iff, Option.isSome_iff_ne_none,
    not_forall, exists_prop]

theorem length_paths_ofDemands :
    (ofDemands demands).paths.length =
      (demands.map Demand.subject).toFinset.card := by
  have once : ((ofDemands demands).paths.map Prod.fst).Nodup :=
    (List.pairwise_map.mpr (ordered_ofDemands demands).paths).nodup
  have named : ((ofDemands demands).paths.map Prod.fst).toFinset =
      (demands.map Demand.subject).toFinset := by
    ext path
    rw [List.mem_toFinset, List.mem_toFinset, ← Keyed.contains_iff,
      List.mem_map]
    exact contains_ofDemands
  rw [← named, List.toFinset_card_of_nodup once, List.length_map]

theorem ofDemands_swap {before after : List Demand} {first second : Demand}
    (independent : first.Independent second) :
    ofDemands (before ++ first :: second :: after) =
      ofDemands (before ++ second :: first :: after) := by
  have swapped := apply_comm (ordered_ofDemands before) independent
  simp only [ofDemands, demandAll] at swapped
  simp only [ofDemands, demandAll, List.foldl_append, List.foldl_cons]
  rw [swapped]

/-- The facts that a run of demands leaves under a path. -/
structure LeftUnder (demands : List Demand) (path : String)
    (facts : ExpectedFacts) : Prop where
  digest : ∀ family, facts.digests.find? family =
    (demands.filterMap (Demand.digestFor? path family)).getLast?
  family : ∀ family, family ∈ facts.digests.map Prod.fst ↔
    ∃ demand ∈ demands,
      demand.subject = path ∧ demand.topic = .digest family
  size : facts.size =
    (demands.filterMap (Demand.sizeFor? path)).getLast?

theorem leftUnder_of_find? {facts : ExpectedFacts}
    (found : (ofDemands demands).find? path = some facts) :
    LeftUnder demands path facts where
  digest := by
    intro family
    rw [← digest?_ofDemands, digest?, facts_eq_of_find? found]
  family := by
    intro family
    rw [mem_families_iff found, digest?_ofDemands,
      isSome_getLast?_digestsFor_iff]
  size := by
    rw [← size?_ofDemands, size?, facts_eq_of_find? found]

end OfDemands

/--
After a run of demands exactly the named paths are expected, each with the
last digest of every family and the last size that were demanded of it, and
nothing else.  The paths stand in the order of the bytes, none twice.  Two
independent demands in a row can change places.
-/
theorem ofDemands_remembers_last_demands (demands : List Demand) :
    (∀ path, (ofDemands demands).contains path = true ↔
      ∃ demand ∈ demands, demand.subject = path) ∧
    (∀ path, (ofDemands demands).find? path = none ↔
      ∀ demand ∈ demands, demand.subject ≠ path) ∧
    (∀ path facts, (ofDemands demands).find? path = some facts →
      LeftUnder demands path facts) ∧
    (ofDemands demands).paths.Pairwise
      (fun left right => writeUtf8 left.1 < writeUtf8 right.1) ∧
    (∀ path facts, (path, facts) ∈ (ofDemands demands).paths ↔
      (ofDemands demands).find? path = some facts) ∧
    (ofDemands demands).paths.length =
      (demands.map Demand.subject).toFinset.card ∧
    ∀ before first second after,
      demands = before ++ first :: second :: after →
      first.Independent second →
      ofDemands (before ++ second :: first :: after) =
        ofDemands demands := by
  have ordered := ordered_ofDemands demands
  refine ⟨fun path => contains_ofDemands, fun path => ?_,
    fun path facts found => leftUnder_of_find? found,
    ordered.paths.imp Encoding.writeUtf8_lt_iff.mpr,
    fun path facts => Keyed.mem_iff_find? ordered.paths,
    length_paths_ofDemands, ?_⟩
  · calc (ofDemands demands).find? path = none
        ↔ ¬ (ofDemands demands).contains path = true :=
          Option.not_isSome_iff_eq_none.symm
      _ ↔ ∀ demand ∈ demands, demand.subject ≠ path := by
          rw [contains_ofDemands]
          simp only [not_exists, not_and, ne_eq]
  · rintro before first second after rfl independent
    exact (ofDemands_swap independent).symm

/-- A known family, which goes by its tag, and a size change places. -/
theorem ofDemands_of_mixed_run :
    (Demand.typed "b" .md5 "ff").Independent (.size "b" 5) ∧
    ofDemands [.digest "b" "md5" "00", .size "b" 5, .typed "b" .md5 "ff",
        .path "a"] =
      ofDemands [.digest "b" "md5" "00", .typed "b" .md5 "ff", .size "b" 5,
        .path "a"] ∧
    ofDemands [.digest "b" "md5" "00", .typed "b" .md5 "ff", .size "b" 5,
        .path "a"] =
      ⟨[("a", .none), ("b", ⟨[("md5", "ff")], some 5⟩)]⟩ := by
  have independent :
      (Demand.typed "b" .md5 "ff").Independent (.size "b" 5) :=
    .inr (by decide)
  rcases ofDemands_remembers_last_demands [.digest "b" "md5" "00",
    .typed "b" .md5 "ff", .size "b" 5, .path "a"] with
    ⟨-, -, -, -, -, -, swap⟩
  exact ⟨independent, swap [.digest "b" "md5" "00"] _ _ [.path "a"] rfl
    independent, by decide⟩

end Expectations

end MediaHash
