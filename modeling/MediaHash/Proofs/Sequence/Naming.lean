import MediaHash.Proofs.Sequence.Filling
import MediaHash.Proofs.Sequence.Membership
import MediaHash.Proofs.Sequence.Subtraction
import MediaHash.Proofs.Text.Numerals

/-!
# The names of a sequence

A plain way to name the files of a sequence is to walk over the tokens number
by number, to remember every number that has been named, and to skip it when
it is met again.  The names are not made in this way: of each token, the runs
of all tokens before it are taken away.  Both ways agree, because the numbers
remembered in front of a token are those that the runs before it cover.

The main statement gives the names as this plain walk over the parts of the
pattern, and says which numbers the walk gives out, with which widths.  The
names that are asked for can be made exactly if the walk up to the last of
them meets no width that is beyond padding.
-/

namespace MediaHash

/-- A number with the width to which it is padded. -/
structure PaddedNumber where
  width : Nat
  number : Nat
deriving DecidableEq, Repr

/-- The numbers of a token, ascending, with its width. -/
def Token.paddedNumbers (token : Token) : List PaddedNumber :=
  (List.range' token.low (token.high + 1 - token.low)).map
    (PaddedNumber.mk token.width)

namespace PaddedNumber

/-- The decimal numeral behind as many zeros as the width asks for. -/
def text (padded : PaddedNumber) : List Char :=
  List.replicate
      (padded.width - (Nat.toDigits 10 padded.number).length) '0' ++
    Nat.toDigits 10 padded.number

/-- The parts of a pattern with the padded number between them. -/
def name (parts : List (List Char)) (padded : PaddedNumber) : String :=
  String.ofList (padded.text.intercalate parts)

/-- The number can be padded to its width. -/
def canPad (padded : PaddedNumber) : Bool :=
  Text.canPad padded.width

/-- Numbers of one width can be padded all together, or none of them can. -/
theorem all_canPad_map {numbers : List Nat} (nonempty : numbers ≠ [])
    (width : Nat) :
    (numbers.map (PaddedNumber.mk width)).all canPad = Text.canPad width := by
  rcases List.exists_cons_of_ne_nil nonempty with ⟨first, rest, rfl⟩
  cases able : Text.canPad width with
  | false => simp [canPad, able]
  | true => simp [canPad, able]

/-- Leave out each number that is emitted already. -/
def keepNew (emitted : List Nat) : List PaddedNumber → List PaddedNumber
  | [] => []
  | padded :: rest =>
      if padded.number ∈ emitted then keepNew emitted rest
      else padded :: keepNew (padded.number :: emitted) rest

/-! ## What the plain walk keeps -/

theorem keepNew_congr {left right : List Nat}
    (same : ∀ number, number ∈ left ↔ number ∈ right)
    (walk : List PaddedNumber) : keepNew left walk = keepNew right walk := by
  induction walk generalizing left right with
  | nil => rfl
  | cons padded rest ih =>
      have restSame : ∀ number,
          number ∈ padded.number :: left ↔
            number ∈ padded.number :: right := by
        intro number
        rw [List.mem_cons, List.mem_cons, same]
      simp only [keepNew, same, ih same, ih restSame]

theorem keepNew_append (emitted : List Nat) (left right : List PaddedNumber) :
    keepNew emitted (left ++ right) =
      keepNew emitted left ++
        keepNew (left.map number ++ emitted) right := by
  induction left generalizing emitted with
  | nil => rfl
  | cons padded rest ih =>
      rw [List.cons_append, keepNew, keepNew]
      split
      next old =>
        rw [ih]
        congr 1
        apply keepNew_congr
        intro number
        simp only [List.map_cons, List.mem_append, List.mem_cons]
        grind
      next new =>
        rw [ih, List.cons_append]
        congr 2
        apply keepNew_congr
        intro number
        simp only [List.map_cons, List.mem_append, List.mem_cons]
        grind

theorem keepNew_eq_filter {walk : List PaddedNumber}
    (nodup : (walk.map number).Nodup) (emitted : List Nat) :
    keepNew emitted walk =
      walk.filter fun padded => padded.number ∉ emitted := by
  induction walk generalizing emitted with
  | nil => rfl
  | cons padded rest ih =>
      rw [List.map_cons, List.nodup_cons] at nodup
      rcases nodup with ⟨absent, restNodup⟩
      rw [keepNew]
      split
      next old =>
        rw [ih restNodup, List.filter_cons_of_neg (by simpa using old)]
      next new =>
        rw [ih restNodup, List.filter_cons_of_pos (by simpa using new)]
        congr 1
        apply List.filter_congr
        intro other member
        have different : other.number ≠ padded.number := by
          intro equal
          exact absent (equal ▸ List.mem_map_of_mem member)
        simp [different]

theorem mem_map_keepNew_iff {emitted : List Nat} {walk : List PaddedNumber}
    {sought : Nat} :
    sought ∈ (keepNew emitted walk).map number ↔
      sought ∈ walk.map number ∧ sought ∉ emitted := by
  induction walk generalizing emitted with
  | nil => simp [keepNew]
  | cons padded rest ih =>
      rw [keepNew]
      split
      next old =>
        rw [ih, List.map_cons, List.mem_cons]
        grind
      next new =>
        rw [List.map_cons, List.mem_cons, ih, List.map_cons, List.mem_cons,
          List.mem_cons]
        grind

theorem nodup_map_keepNew (emitted : List Nat) (walk : List PaddedNumber) :
    ((keepNew emitted walk).map number).Nodup := by
  induction walk generalizing emitted with
  | nil => exact List.nodup_nil
  | cons padded rest ih =>
      rw [keepNew]
      split
      next old => exact ih emitted
      next new =>
        rw [List.map_cons, List.nodup_cons, mem_map_keepNew_iff]
        refine ⟨?_, ih _⟩
        rintro ⟨-, notEmitted⟩
        exact notEmitted List.mem_cons_self

end PaddedNumber

open PaddedNumber

/-! ## Tokens, number by number -/

namespace Token

theorem map_number_paddedNumbers (token : Token) :
    token.paddedNumbers.map PaddedNumber.number = token.run.members := by
  simp only [paddedNumbers, List.map_map, Function.comp_def, List.map_id']
  rfl

theorem mem_members_run_iff {token : Token} {number : Nat} :
    number ∈ token.run.members ↔
      token.low ≤ number ∧ number ≤ token.high := by
  rw [Run.mem_members, Run.contains_iff]
  rfl

theorem numbersOf_append_iff {left right : List Token} {number : Nat} :
    number ∈ numbersOf (left ++ right) ↔
      number ∈ numbersOf left ∨ number ∈ numbersOf right := by
  induction left with
  | nil => simp [not_mem_numbersOf_nil]
  | cons token rest ih =>
      rw [List.cons_append, mem_numbersOf_cons_iff, ih,
        mem_numbersOf_cons_iff, or_assoc]

theorem mem_map_flatMap_iff {tokens : List Token} {number : Nat} :
    number ∈ (tokens.flatMap paddedNumbers).map PaddedNumber.number ↔
      number ∈ numbersOf tokens := by
  induction tokens with
  | nil => simp [not_mem_numbersOf_nil]
  | cons token rest ih =>
      rw [List.flatMap_cons, List.map_append, List.mem_append, ih,
        map_number_paddedNumbers, mem_members_run_iff,
        mem_numbersOf_cons_iff]

/-- Of one token, the walk keeps what is not emitted yet. -/
theorem keepNew_paddedNumbers (emitted : List Nat) (token : Token) :
    keepNew emitted token.paddedNumbers =
      (token.run.members.filter fun number => number ∉ emitted).map
        (PaddedNumber.mk token.width) := by
  have nodup : (token.paddedNumbers.map PaddedNumber.number).Nodup := by
    rw [map_number_paddedNumbers]
    exact (Run.pairwise_members _).imp fun below => Nat.ne_of_lt below
  rw [keepNew_eq_filter nodup, paddedNumbers, List.filter_map]
  rfl

theorem keepNew_flatMap_cons (emitted : List Nat) (token : Token)
    (rest : List Token) :
    keepNew emitted ((token :: rest).flatMap paddedNumbers) =
      (token.run.members.filter fun number => number ∉ emitted).map
          (PaddedNumber.mk token.width) ++
        keepNew (token.run.members ++ emitted)
          (rest.flatMap paddedNumbers) := by
  rw [List.flatMap_cons, keepNew_append, keepNew_paddedNumbers,
    map_number_paddedNumbers]

/-- A number that is kept has the width of the first token that holds it. -/
theorem exists_first_of_mem_keepNew {emitted : List Nat}
    {tokens : List Token} {padded : PaddedNumber}
    (member : padded ∈ keepNew emitted (tokens.flatMap paddedNumbers)) :
    ∃ before token after, tokens = before ++ token :: after ∧
      padded.number ∉ numbersOf before ∧
      (token.low ≤ padded.number ∧ padded.number ≤ token.high) ∧
      padded.width = token.width := by
  induction tokens generalizing emitted with
  | nil => simp [keepNew] at member
  | cons token rest ih =>
      rw [keepNew_flatMap_cons, List.mem_append] at member
      rcases member with here | later
      · rcases List.mem_map.mp here with ⟨number, kept, rfl⟩
        have held := mem_members_run_iff.mp (List.mem_filter.mp kept).1
        exact ⟨[], token, rest, rfl, not_mem_numbersOf_nil, held, rfl⟩
      · have kept :
            padded.number ∉ token.run.members ++ emitted :=
          (mem_map_keepNew_iff.mp (List.mem_map_of_mem later)).2
        have notHere := fun held => kept
          (List.mem_append_left _ (mem_members_run_iff.mpr held))
        rcases ih later with
          ⟨before, holder, after, rfl, notBefore, held, sameWidth⟩
        refine ⟨token :: before, holder, after, rfl, ?_, held, sameWidth⟩
        rw [mem_numbersOf_cons_iff]
        rintro (inToken | inBefore)
        · exact notHere inToken
        · exact notBefore inBefore

end Token

/-! ## Stretches, number by number -/

namespace Stretch

/-- The numbers of a stretch with its width. -/
def paddedNumbers (stretch : Stretch) : List PaddedNumber :=
  stretch.run.members.map (PaddedNumber.mk stretch.width)

@[simp]
theorem length_paddedNumbers (stretch : Stretch) :
    stretch.paddedNumbers.length = stretch.run.count := by
  rw [paddedNumbers, List.length_map, Run.length_members]

/-- The numbers of a stretch all have its width. -/
theorem width_of_mem_paddedNumbers {stretch : Stretch}
    {padded : PaddedNumber} (member : padded ∈ stretch.paddedNumbers) :
    padded.width = stretch.width := by
  rcases List.mem_map.mp member with ⟨number, -, rfl⟩
  rfl

theorem names_eq_map (pattern : String) (stretch : Stretch) :
    stretch.names pattern =
      stretch.paddedNumbers.map
        (PaddedNumber.name (cutPattern pattern.toList)) := by
  rw [names, paddedNumbers, List.map_map]
  apply List.map_congr_left
  intro number member
  rw [name, fillPattern_eq_intercalate]
  rfl

theorem flatMap_paddedNumbers_map (width : Nat) (runs : List Run) :
    (runs.map (Stretch.mk width)).flatMap paddedNumbers =
      (Run.membersOf runs).map (PaddedNumber.mk width) := by
  rw [List.flatMap_map, Run.membersOf, List.map_flatMap]
  rfl

/-- Taking away runs keeps the numbers that the walk keeps. -/
theorem flatMap_paddedNumbers_ofTokens (emitted : List Nat)
    (earlier tokens : List Token)
    (inOrder : ∀ token ∈ earlier ++ tokens, token.low ≤ token.high)
    (mem_emitted : ∀ number,
      number ∈ emitted ↔ number ∈ Token.numbersOf earlier) :
    (ofTokens earlier tokens).flatMap paddedNumbers =
      keepNew emitted (tokens.flatMap Token.paddedNumbers) := by
  induction tokens generalizing earlier emitted with
  | nil => rfl
  | cons token rest ih =>
      have earlierInOrder : ∀ other ∈ earlier, other.low ≤ other.high :=
        fun other member => inOrder other (List.mem_append_left _ member)
      have left : Run.membersOf (Run.uncovered token.run
            (Run.merge (earlier.map Token.run))) =
          token.run.members.filter fun number => number ∉ emitted := by
        apply Run.membersOf_uncovered
          (Sequence.canonical_runs earlierInOrder)
        intro number
        rw [mem_emitted, Sequence.covers_runs_iff earlierInOrder]
      have restInOrder : ∀ other ∈ (earlier ++ [token]) ++ rest,
          other.low ≤ other.high := by
        rw [List.append_assoc]
        exact inOrder
      have mem_restEmitted : ∀ number,
          number ∈ token.run.members ++ emitted ↔
            number ∈ Token.numbersOf (earlier ++ [token]) := by
        intro number
        rw [List.mem_append, Token.mem_members_run_iff, mem_emitted,
          Token.numbersOf_append_iff, Token.mem_numbersOf_cons_iff, or_comm]
        simp only [Token.not_mem_numbersOf_nil, or_false]
      have right := ih (token.run.members ++ emitted) (earlier ++ [token])
        restInOrder mem_restEmitted
      rw [ofTokens, List.flatMap_append, flatMap_paddedNumbers_map, left,
        right, Token.keepNew_flatMap_cons]

/-- Every stretch holds a number. -/
theorem count_pos_of_mem_ofTokens {earlier tokens : List Token}
    (inOrder : ∀ token ∈ earlier ++ tokens, token.low ≤ token.high)
    {stretch : Stretch} (member : stretch ∈ ofTokens earlier tokens) :
    0 < stretch.run.count := by
  induction tokens generalizing earlier with
  | nil => cases member
  | cons token rest ih =>
      rw [ofTokens, List.mem_append] at member
      rcases member with here | later
      · rcases List.mem_map.mp here with ⟨run, isLeft, rfl⟩
        have earlierInOrder : ∀ other ∈ earlier, other.low ≤ other.high :=
          fun other member => inOrder other (List.mem_append_left _ member)
        have remains := Run.remains_uncoveredFrom token.low token.high
          (Sequence.canonical_runs earlierInOrder)
        have ordered := remains.canonical.inOrder run isLeft
        exact Nat.sub_pos_of_lt (Nat.lt_succ_of_le ordered)
      · refine ih ?_ later
        rw [List.append_assoc]
        exact inOrder

/-! ## Padding -/

theorem all_canPad_take {stretch : Stretch} (nonempty : 0 < stretch.run.count)
    {limit : Nat} (positive : 0 < limit) :
    (stretch.paddedNumbers.take limit).all PaddedNumber.canPad =
      stretch.canPad := by
  rw [paddedNumbers, ← List.map_take]
  apply PaddedNumber.all_canPad_map
  apply List.ne_nil_of_length_pos
  rw [List.length_take, Run.length_members]
  exact Nat.lt_min.mpr ⟨positive, nonempty⟩

theorem all_canPad_paddedNumbers {stretch : Stretch}
    (nonempty : 0 < stretch.run.count) :
    stretch.paddedNumbers.all PaddedNumber.canPad = stretch.canPad := by
  apply PaddedNumber.all_canPad_map
  apply List.ne_nil_of_length_pos
  rwa [Run.length_members]

/-- The first numbers are padded one by one. -/
theorem canTake_eq {stretches : List Stretch}
    (nonempty : ∀ stretch ∈ stretches, 0 < stretch.run.count) (limit : Nat) :
    canTake limit stretches =
      ((stretches.flatMap paddedNumbers).take limit).all
        PaddedNumber.canPad := by
  induction stretches generalizing limit with
  | nil => simp [canTake]
  | cons stretch rest ih =>
      rcases List.forall_mem_cons.mp nonempty with ⟨here, later⟩
      rw [canTake, List.flatMap_cons, List.take_append, List.all_append,
        length_paddedNumbers, ← ih later]
      rcases Nat.eq_zero_or_pos limit with rfl | positive
      · cases rest <;> simp [canTake]
      · rw [all_canPad_take here positive,
          decide_eq_false (Nat.ne_of_gt positive), Bool.false_or]

theorem all_canPad_flatMap {stretches : List Stretch}
    (nonempty : ∀ stretch ∈ stretches, 0 < stretch.run.count) :
    stretches.all canPad =
      (stretches.flatMap paddedNumbers).all PaddedNumber.canPad := by
  rw [List.all_flatMap]
  apply Bool.eq_iff_iff.mpr
  simp only [List.all_eq_true]
  apply forall₂_congr
  intro stretch member
  rw [← all_canPad_paddedNumbers (nonempty stretch member),
    List.all_eq_true]

end Stretch

/-! ## The names -/

namespace Sequence

/-- The plain walk over all tokens, each number when it is first met. -/
def walk (sequence : Sequence) : List PaddedNumber :=
  keepNew [] (sequence.tokens.flatMap Token.paddedNumbers)

/-- If all tokens can be padded, so can all numbers that the walk meets. -/
theorem width_le_of_mem_walk {sequence : Sequence}
    (narrow : ∀ token ∈ sequence.tokens,
      token.width ≤ Text.widestPadding) {padded : PaddedNumber}
    (member : padded ∈ sequence.walk) :
    padded.width ≤ Text.widestPadding := by
  rcases Token.exists_first_of_mem_keepNew member with
    ⟨before, token, after, tokens, -, -, width⟩
  rw [width]
  apply narrow
  rw [tokens]
  exact List.mem_append_right before List.mem_cons_self

namespace WellFormed

variable {sequence : Sequence}

/-- The stretches hold what the plain walk meets, in the same order. -/
theorem flatMap_stretches (wellFormed : sequence.WellFormed) :
    sequence.stretches.flatMap Stretch.paddedNumbers = sequence.walk :=
  Stretch.flatMap_paddedNumbers_ofTokens [] [] sequence.tokens
    wellFormed.inOrder (by simp [Token.not_mem_numbersOf_nil])

theorem count_pos (wellFormed : sequence.WellFormed) :
    ∀ stretch ∈ sequence.stretches, 0 < stretch.run.count :=
  fun _ member => Stretch.count_pos_of_mem_ofTokens wellFormed.inOrder member

theorem names_eq_walk (wellFormed : sequence.WellFormed)
    (pattern : String) :
    sequence.names pattern =
      sequence.walk.map
        (PaddedNumber.name (cutPattern pattern.toList)) := by
  rw [← wellFormed.flatMap_stretches, List.map_flatMap, names]
  congr 1
  funext stretch
  exact Stretch.names_eq_map pattern stretch

theorem takeNames?_eq (wellFormed : sequence.WellFormed) (pattern : String)
    (limit : Nat) :
    sequence.takeNames? pattern limit =
      if (sequence.walk.take limit).all PaddedNumber.canPad then
        some ((sequence.names pattern).take limit)
      else none := by
  rw [takeNames?, Stretch.canTake_eq wellFormed.count_pos,
    wellFormed.flatMap_stretches, takeNames, Stretch.takeNames_eq_take]
  rfl

theorem names?_eq (wellFormed : sequence.WellFormed) (pattern : String) :
    sequence.names? pattern =
      if sequence.walk.all PaddedNumber.canPad then
        some (sequence.names pattern)
      else none := by
  rw [names?, Stretch.all_canPad_flatMap wellFormed.count_pos,
    wellFormed.flatMap_stretches]

theorem names?_eq_none_iff (wellFormed : sequence.WellFormed)
    {pattern : String} :
    sequence.names? pattern = none ↔
      ∃ padded ∈ sequence.walk, Text.widestPadding < padded.width := by
  rw [wellFormed.names?_eq]
  exact Text.ite_all_canPad_eq_none_iff

theorem mem_walk_iff (number : Nat) :
    number ∈ sequence.walk.map PaddedNumber.number ↔
      number ∈ sequence.numbers := by
  rw [walk, mem_map_keepNew_iff, Token.mem_map_flatMap_iff]
  simp [numbers]

theorem length_walk (wellFormed : sequence.WellFormed) :
    sequence.walk.length = sequence.size := by
  have nodup : (sequence.walk.map PaddedNumber.number).Nodup :=
    nodup_map_keepNew [] _
  rw [wellFormed.size_eq_ncard, ncard_eq_length _ nodup mem_walk_iff,
    List.length_map]

theorem length_names (wellFormed : sequence.WellFormed) (pattern : String) :
    (sequence.names pattern).length = sequence.size := by
  rw [wellFormed.names_eq_walk, List.length_map, wellFormed.length_walk]

end WellFormed

/--
The names of a sequence that has been read are those of the plain walk, and
any number of them that is asked for first are the first of these.  A name is
the pattern, cut at every mark, with the padded number in the place of the
marks.  The walk meets each number of the sequence once, with the width of
the first token that holds it, so that there are as many names as numbers.

The first names, or all of them, can be made exactly if every number that the
walk meets on the way can be padded.
-/
theorem names_plain_walk {text : String} {sequence : Sequence}
    (success : read text = .ok sequence) (pattern : String) :
    ∃ parts,
      (∀ others, Text.Cuts numberMark others pattern.toList ↔
        others = parts) ∧
      sequence.names pattern =
        sequence.walk.map (PaddedNumber.name parts) ∧
      (∀ limit, sequence.takeNames pattern limit =
        (sequence.names pattern).take limit) ∧
      (sequence.walk.map PaddedNumber.number).Nodup ∧
      (∀ number, number ∈ sequence.walk.map PaddedNumber.number ↔
        number ∈ sequence.numbers) ∧
      (∀ padded ∈ sequence.walk, ∃ before token after,
        sequence.tokens = before ++ token :: after ∧
          padded.number ∉ Token.numbersOf before ∧
          (token.low ≤ padded.number ∧ padded.number ≤ token.high) ∧
          padded.width = token.width) ∧
      (sequence.names pattern).length = sequence.size ∧
      (∀ limit, sequence.takeNames? pattern limit =
        if (sequence.walk.take limit).all PaddedNumber.canPad then
          some ((sequence.names pattern).take limit)
        else none) ∧
      sequence.names? pattern =
        if sequence.walk.all PaddedNumber.canPad then
          some (sequence.names pattern)
        else none := by
  have wellFormed := wellFormed_of_read success
  have plain := wellFormed.names_eq_walk pattern
  refine ⟨cutPattern pattern.toList, fun others => cuts_iff, plain, ?_,
    nodup_map_keepNew [] _, WellFormed.mem_walk_iff, ?_,
    wellFormed.length_names pattern, wellFormed.takeNames?_eq pattern,
    wellFormed.names?_eq pattern⟩
  · intro limit
    exact Stretch.takeNames_eq_take pattern limit sequence.stretches
  · intro padded member
    exact Token.exists_first_of_mem_keepNew member

/-- Overlapping tokens of different widths, and a mark behind an open brace. -/
theorem names_of_overlapping_tokens :
    read "09-11, 010-012, 4294967295" =
        .ok (ofTokens [⟨9, 11, 2⟩, ⟨10, 12, 3⟩,
          ⟨4294967295, 4294967295, 10⟩]) ∧
      (ofTokens [⟨9, 11, 2⟩, ⟨10, 12, 3⟩,
          ⟨4294967295, 4294967295, 10⟩]).names "\x7bN\x7d-\x7b\x7bN\x7d" =
        ["09-\x7b09", "10-\x7b10", "11-\x7b11", "012-\x7b012",
          "4294967295-\x7b4294967295"] := by
  have tokens :
      readTokens (Text.pieces ',' "09-11, 010-012, 4294967295".toList) =
        .ok [⟨9, 11, 2⟩, ⟨10, 12, 3⟩, ⟨4294967295, 4294967295, 10⟩] := by
    rfl
  have success : read "09-11, 010-012, 4294967295" =
      .ok (ofTokens [⟨9, 11, 2⟩, ⟨10, 12, 3⟩,
        ⟨4294967295, 4294967295, 10⟩]) := by
    rw [read_of_visible (by decide +kernel), tokens]
    rfl
  refine ⟨success, ?_⟩
  rcases names_plain_walk success "\x7bN\x7d-\x7b\x7bN\x7d" with
    ⟨parts, cuts, named, -⟩
  have partsAre : parts = cutPattern "\x7bN\x7d-\x7b\x7bN\x7d".toList :=
    ((cuts _).mp (cuts_cutPattern _)).symm
  rw [named, partsAre]
  decide +kernel

end Sequence

end MediaHash
