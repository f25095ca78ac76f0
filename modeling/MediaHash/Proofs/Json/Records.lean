import MediaHash.Json.Record

/-!
# Fields of records

The fields of an object in which no key stands twice are found, each with its
value.  What is read as a number of a word is that number and fits the word,
and a list is read item by item.
-/

namespace MediaHash.Json

/-! ## One item after the other -/

section Items

variable {α β : Type} {read? : α → Option β}

theorem mapM_eq_some_map {meant : α → β} {items : List α}
    (each : ∀ item ∈ items, read? item = some (meant item)) :
    items.mapM read? = some (items.map meant) := by
  induction items with
  | nil => rfl
  | cons item items ih =>
      rcases List.forall_mem_cons.mp each with ⟨here, others⟩
      rw [List.mapM_cons, here, ih others]
      rfl

/-- Every result comes from an item. -/
theorem exists_of_mem_mapM {items : List α} {results : List β}
    (read : items.mapM read? = some results) {result : β}
    (member : result ∈ results) : ∃ item, read? item = some result := by
  induction items generalizing results with
  | nil =>
      cases read
      cases member
  | cons item items ih =>
      rw [List.mapM_cons] at read
      simp only [Option.bind_eq_bind, Option.bind_eq_some_iff,
        Option.pure_def, Option.some.injEq] at read
      rcases read with ⟨first, readFirst, others, readOthers, rfl⟩
      rcases List.mem_cons.mp member with rfl | later
      · exact ⟨item, readFirst⟩
      · exact ih readOthers later

end Items

theorem list?_array_map {α : Type} {write : α → Json}
    {item? : Json → Option α} {items : List α}
    (each : ∀ item ∈ items, item? (write item) = some item) :
    list? item? (.array (items.map write)) = some items := by
  have same : items.mapM (item? ∘ write) = some (items.map id) :=
    mapM_eq_some_map each
  rw [list?, List.mapM_map, same, List.map_id]

theorem exists_of_mem_list? {α : Type} {item? : Json → Option α}
    {value : Json} {items : List α} (read : list? item? value = some items)
    {item : α} (member : item ∈ items) :
    ∃ written, item? written = some item := by
  cases value with
  | array written => exact exists_of_mem_mapM read member
  | _ => cases read

/-! ## Fields -/

theorem valuesOf_of_nodup {members : List (String × Json)}
    (nodup : (members.map Prod.fst).Nodup) {member : String × Json}
    (isMember : member ∈ members) :
    valuesOf members member.1 = [member.2] := by
  induction members with
  | nil => cases isMember
  | cons first members ih =>
      rw [List.map_cons, List.nodup_cons] at nodup
      rcases nodup with ⟨fresh, nodup⟩
      rcases List.mem_cons.mp isMember with rfl | later
      · have none : members.filter (fun other => other.1 == member.1) = [] := by
          rw [List.filter_eq_nil_iff]
          intro other isOther same
          rw [← eq_of_beq same] at fresh
          exact fresh (List.mem_map_of_mem isOther)
        simp [valuesOf, none]
      · have different : (first.1 == member.1) = false := by
          rw [beq_eq_false_iff_ne]
          intro same
          rw [same] at fresh
          exact fresh (List.mem_map_of_mem later)
        rw [valuesOf, List.filter_cons, different]
        exact ih nodup later

/-- The fields of an object without repeated keys are its values. -/
theorem fields?_object {members : List (String × Json)}
    (nodup : (members.map Prod.fst).Nodup) :
    fields? (members.map Prod.fst) (.object members) =
      some (members.map fun member => some member.2) := by
  rw [fields?, List.mapM_map]
  apply mapM_eq_some_map
  intro member isMember
  rw [Function.comp_apply, field?, valuesOf_of_nodup nodup isMember]

section Field

variable {α : Type} {read? : Json → Option α} {field : Option Json}
  {result : α}

theorem required?_eq_some_iff :
    required? read? field = some result ↔
      ∃ value, field = some value ∧ read? value = some result := by
  cases field with
  | none => simp [required?]
  | some value => simp [required?]

/-- A field that may be missing has its own value or one that is read. -/
theorem eq_or_exists_of_defaulted? {missing : α}
    (read : defaulted? missing read? field = some result) :
    result = missing ∨ ∃ value, read? value = some result := by
  cases field with
  | none => exact Or.inl (Option.some.inj read).symm
  | some value => exact Or.inr ⟨value, read⟩

end Field

/-! ## Numbers -/

theorem int?_eq_some_iff {least greatest : Int} {value : Json}
    {number : Int} :
    int? least greatest value = some number ↔
      value = .int number ∧ least ≤ number ∧ number ≤ greatest := by
  cases value with
  | int written =>
      simp only [int?, Option.ite_none_right_eq_some, Option.some.injEq,
        Json.int.injEq]
      constructor
      · rintro ⟨within, rfl⟩
        exact ⟨rfl, within⟩
      · rintro ⟨rfl, within⟩
        exact ⟨within, rfl⟩
  | _ => simp [int?]

theorem nat64?_eq_some_iff {value : Json} {number : Nat} :
    nat64? value = some number ↔
      value = .nat number ∧ number < UInt64.size := by
  rw [nat64?, Option.map_eq_some_iff]
  constructor
  · rintro ⟨written, read, rfl⟩
    rcases int?_eq_some_iff.mp read with ⟨rfl, least, greatest⟩
    rw [Json.nat, Int.toNat_of_nonneg least]
    exact ⟨rfl, by omega⟩
  · rintro ⟨rfl, small⟩
    refine ⟨number, int?_eq_some_iff.mpr ⟨rfl, ?_, ?_⟩, Int.toNat_natCast _⟩
    · exact Int.natCast_nonneg number
    · omega

/-- A whole number fits 32 bits with a sign. -/
structure FitsInt32 (value : Int) : Prop where
  least : -2147483648 ≤ value
  greatest : value ≤ 2147483647

theorem int32?_eq_some_iff {value : Json} {number : Int} :
    int32? value = some number ↔ value = .int number ∧ FitsInt32 number := by
  rw [int32?, int?_eq_some_iff]
  constructor
  · rintro ⟨written, least, greatest⟩
    exact ⟨written, least, greatest⟩
  · rintro ⟨written, least, greatest⟩
    exact ⟨written, least, greatest⟩

end MediaHash.Json
