/-!
# Runs of consecutive numbers

A run holds all numbers from its first to its last.  A set of numbers is
kept as a list of runs; in its canonical form the runs ascend and no two of
them touch, so that each set has one such list.
-/

namespace MediaHash

/-- The numbers from `first` to `last`; none when `last` is smaller. -/
structure Run where
  first : Nat
  last : Nat
deriving DecidableEq, Repr

namespace Run

/-- Whether the run holds a number. -/
def contains (run : Run) (number : Nat) : Bool :=
  run.first ≤ number && number ≤ run.last

/-- How many numbers the run holds. -/
def count (run : Run) : Nat :=
  run.last + 1 - run.first

/-- The numbers of the run, ascending. -/
def members (run : Run) : List Nat :=
  List.range' run.first run.count

theorem mem_members (run : Run) (number : Nat) :
    number ∈ run.members ↔ run.contains number = true := by
  simp only [members, count, contains, List.mem_range'_1, Bool.and_eq_true,
    decide_eq_true_eq]
  omega

@[simp]
theorem length_members (run : Run) : run.members.length = run.count := by
  simp [members]

/-- The first members of a run are those of a shorter run. -/
theorem range'_min_count (run : Run) (limit : Nat) :
    List.range' run.first (min limit run.count) =
      run.members.take limit := by
  apply List.ext_getElem
  · simp [members]
  · simp [members]

/-- Earlier runs begin with smaller numbers, equal beginnings end earlier. -/
def precedes (left right : Run) : Bool :=
  left.first < right.first ||
    (left.first == right.first && left.last ≤ right.last)

/-! ## Merging -/

/--
Extend a current run by the runs that follow it in ascending order, as long
as they overlap or touch it, and start again with the first that does not.
-/
def coalesceFrom (current : Run) : List Run → List Run
  | [] => [current]
  | next :: rest =>
      if next.first ≤ current.last + 1 then
        coalesceFrom ⟨current.first, max current.last next.last⟩ rest
      else
        current :: coalesceFrom next rest

/-- Join the runs of an ascending list that overlap or touch. -/
def coalesce : List Run → List Run
  | [] => []
  | first :: rest => coalesceFrom first rest

/-- The canonical runs that hold the numbers of the given runs. -/
def merge (runs : List Run) : List Run :=
  coalesce (runs.mergeSort precedes)

/-- Runs that ascend without touching. -/
def Separated (runs : List Run) : Prop :=
  runs.Pairwise fun left right => left.last + 2 ≤ right.first

/-- Some run of the list holds the number. -/
def Covers (runs : List Run) (number : Nat) : Prop :=
  ∃ run ∈ runs, run.contains number = true

/-! ## Subtraction -/

/-- The run between two bounds, if the bounds are in order. -/
def between (first last : Nat) : List Run :=
  if first ≤ last then [⟨first, last⟩] else []

/--
The parts of the numbers from `first` to `last` that an ascending list of
runs does not cover.
-/
def uncoveredFrom (first last : Nat) : List Run → List Run
  | [] => between first last
  | run :: rest =>
      if last < run.first then between first last
      else if run.last < first then uncoveredFrom first last rest
      else if first < run.first then
        ⟨first, run.first - 1⟩ :: uncoveredFrom (run.last + 1) last rest
      else uncoveredFrom (run.last + 1) last rest

/-- The parts of a run that an ascending list of runs does not cover. -/
def uncovered (run : Run) (covered : List Run) : List Run :=
  uncoveredFrom run.first run.last covered

/-! ## Members of a list of runs -/

/-- The numbers of the runs, run by run. -/
def membersOf (runs : List Run) : List Nat :=
  runs.flatMap members

/-- The first numbers of the runs, no more than the limit. -/
def takeMembers (limit : Nat) : List Run → List Nat
  | [] => []
  | run :: rest =>
      List.range' run.first (min limit run.count) ++
        takeMembers (limit - run.count) rest

theorem takeMembers_eq_take (limit : Nat) (runs : List Run) :
    takeMembers limit runs = (membersOf runs).take limit := by
  induction runs generalizing limit with
  | nil => simp [takeMembers, membersOf]
  | cons run rest ih =>
      simp only [takeMembers, ih, range'_min_count, membersOf, List.flatMap_cons,
        List.take_append, length_members]

end Run

end MediaHash
