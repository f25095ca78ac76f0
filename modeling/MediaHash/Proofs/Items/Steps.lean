/-!
# Steps that may fail

A run of steps succeeds only if each of its steps does.  So what a run gave
tells what every one of them gave.
-/

namespace MediaHash

variable {ε ε' α β : Type}

theorem bind_eq_ok_iff {first : Except ε α} {next : α → Except ε β}
    {result : β} :
    (first >>= next) = .ok result ↔
      ∃ value, first = .ok value ∧ next value = .ok result := by
  cases first with
  | error fault =>
      constructor
      · intro impossible
        cases impossible
      · rintro ⟨value, impossible, -⟩
        cases impossible
  | ok value =>
      constructor
      · intro success
        exact ⟨value, rfl, success⟩
      · rintro ⟨other, same, success⟩
        cases same
        exact success

theorem exists_of_map_eq_ok {step : α → β} {result : Except ε α} {value : β}
    (mapped : step <$> result = .ok value) :
    ∃ inner, result = .ok inner ∧ step inner = value := by
  cases result with
  | error fault => cases mapped
  | ok inner => exact ⟨inner, rfl, Except.ok.inj mapped⟩

theorem mapError_eq_ok_iff {change : ε → ε'} {result : Except ε α}
    {value : α} : result.mapError change = .ok value ↔ result = .ok value := by
  cases result with
  | error fault =>
      constructor
      · intro same
        cases same
      · intro same
        cases same
  | ok inner =>
      constructor
      · intro same
        cases same
        rfl
      · intro same
        cases same
        rfl

theorem toOption_eq_some_iff {result : Except ε α} {value : α} :
    result.toOption = some value ↔ result = .ok value := by
  cases result with
  | error fault =>
      constructor
      · intro impossible
        cases impossible
      · intro impossible
        cases impossible
  | ok inner =>
      constructor
      · intro same
        cases same
        rfl
      · intro same
        cases same
        rfl

end MediaHash
