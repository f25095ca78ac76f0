import MediaHash.Digest.Schedule
import MediaHash.Proofs.Digest.Streaming

/-!
# The order in which files are read does not matter

Whatever order the reading of several files takes, it ends, it never holds
more permits than there are, and it gives the listing or the fault that
reading one path after the other gives.  No step loses an outcome or makes
one twice: the outcomes that are there, together with those still to come,
are always those of all paths.
-/

namespace MediaHash.Hasher

/-! ## Hashers that can be made -/

/-- The hashers that can be made. -/
inductive Built : Hasher → Prop
  | standard : Built standard
  | ofTypes (types : List HashType) (hasher : Hasher)
      (made : Hasher.ofTypes types = .ok hasher) : Built hasher
  | limited (hasher : Hasher) (limit : Nat) (built : Built hasher) :
      Built (hasher.withMaxConcurrency limit)

/-- Every family of a hasher has a digest. -/
theorem Built.digestible {hasher : Hasher} (built : hasher.Built) :
    .null ∉ hasher.types := by
  induction built with
  | standard => decide
  | ofTypes types hasher made =>
      rcases ofTypes_eq_ok_iff.mp made with ⟨accepted, rfl⟩
      exact mt List.mem_eraseDups.mp accepted
  | limited hasher limit built inductionHypothesis =>
      exact inductionHypothesis

/-- A hasher reads one file at least at the same time. -/
theorem Built.maxConcurrency_pos {hasher : Hasher} (built : hasher.Built) :
    0 < hasher.maxConcurrency := by
  cases built with
  | standard => decide
  | ofTypes types hasher made =>
      rcases ofTypes_eq_ok_iff.mp made with ⟨-, rfl⟩
      exact Nat.succ_pos 3
  | limited hasher limit built => exact Nat.le_max_right limit 1

/-! ## One path after the other -/

section Sequential

variable (hasher : Hasher) (files : Files)

/-- The claims about paths that are read one after the other. -/
def hashInOrder : List String → Except HashingFault (List Claim)
  | [] => .ok []
  | path :: rest => do
      let digests ← hasher.hashFile files path
      let claims ← hashInOrder rest
      .ok (claimsOf path digests ++ claims)

/-- The claims state the digests of the file at a path, family by family. -/
def StatesDigests (path : String) (claims : List Claim) : Prop :=
  ∃ content, files path = .ok (.file content) ∧
    List.Forall₂ (fun family claim =>
        claim.family = family.label ∧ claim.path = path ∧
          family.digest content = .ok claim.digest)
      hasher.types claims

/-- What several paths come to: all their digests or the first fault. -/
inductive ComesTo : List String → Except HashingFault Listing → Prop
  | listing (paths : List String) (groups : List (List Claim))
      (each : List.Forall₂ (hasher.StatesDigests files) paths groups) :
      ComesTo paths (.ok ⟨groups.flatten⟩)
  | fault (before : List String) (path : String) (after : List String)
      (fault : HashingFault)
      (readable : ∀ earlier ∈ before,
        ∃ content, files earlier = .ok (.file content))
      (faulty : hasher.hashFile files path = .error fault) :
      ComesTo (before ++ path :: after) (.error fault)

end Sequential

variable {hasher : Hasher} {files : Files} {paths : List String}

theorem statesDigests_claimsOf {path : String}
    {digests : List (HashType × String)} (digestible : .null ∉ hasher.types)
    (hashed : hasher.hashFile files path = .ok digests) :
    hasher.StatesDigests files path (claimsOf path digests) := by
  rcases hashFile_eq_ok_iff.mp hashed with ⟨content, found, rfl⟩
  refine ⟨content, found, ?_⟩
  rw [claimsOf, List.forall₂_map_right_iff]
  refine (forall₂_hashBytes digestible content).imp ?_
  rintro family ⟨given, digest⟩ ⟨same, stated⟩
  exact ⟨congrArg HashType.label same, rfl, stated⟩

theorem comesTo_hashInOrder (digestible : .null ∉ hasher.types)
    (paths : List String) :
    hasher.ComesTo files paths
      ((hasher.hashInOrder files paths).map Listing.mk) := by
  induction paths with
  | nil => exact .listing [] [] .nil
  | cons path rest inductionHypothesis =>
      rw [hashInOrder]
      cases hashed : hasher.hashFile files path with
      | error fault =>
          exact .fault [] path rest fault (by simp) hashed
      | ok digests =>
          have group := statesDigests_claimsOf digestible hashed
          cases others : hasher.hashInOrder files rest with
          | error fault =>
              rw [others] at inductionHypothesis
              cases inductionHypothesis with
              | fault before faulty after fault readable fails =>
                  refine .fault (path :: before) faulty after fault ?_ fails
                  rcases group with ⟨content, found, -⟩
                  exact List.forall_mem_cons.mpr ⟨⟨content, found⟩, readable⟩
          | ok claims =>
              rw [others] at inductionHypothesis
              cases inductionHypothesis with
              | listing paths groups each =>
                  exact .listing (path :: rest)
                    (claimsOf path digests :: groups) (.cons group each)

/-! ## Outcomes in any order -/

theorem getElem?_of_mem_tasks {task : Task} (member : task ∈ tasks paths) :
    paths[task.index]? = some task.path := by
  rcases List.mem_map.mp member with ⟨⟨path, index⟩, place, rfl⟩
  exact List.mem_zipIdx_iff_getElem?.mp place

theorem pairwise_tasks (paths : List String) :
    (tasks paths).Pairwise fun left right => left.index < right.index := by
  have ascending : (paths.zipIdx.map Prod.snd).Pairwise (· < ·) := by
    rw [List.zipIdx_map_snd]
    exact List.pairwise_lt_range'
  rw [tasks, List.pairwise_map]
  exact List.pairwise_map.mp ascending

/-- Tasks with the same place are about the same path. -/
theorem eq_of_mem_tasks {left right : Task} (isLeft : left ∈ tasks paths)
    (isRight : right ∈ tasks paths) (samePlace : left.index = right.index) :
    left = right := by
  have leftPath := getElem?_of_mem_tasks isLeft
  have rightPath := getElem?_of_mem_tasks isRight
  rw [samePlace, rightPath, Option.some_inj] at leftPath
  cases left with
  | mk index path =>
      cases samePlace
      cases leftPath
      rfl

theorem pairwise_mergeSort_outcomes (outcomes : List Outcome) :
    (outcomes.mergeSort fun left right =>
        left.task.index ≤ right.task.index).Pairwise
      fun left right => left.task.index ≤ right.task.index := by
  have sorted := @List.pairwise_mergeSort Outcome
    (fun left right => left.task.index ≤ right.task.index)
    (fun first second third firstLe secondLe =>
      decide_eq_true (Nat.le_trans (of_decide_eq_true firstLe)
        (of_decide_eq_true secondLe)))
    (fun first second => by
      simpa using Nat.le_total first.task.index second.task.index)
    outcomes
  exact sorted.imp of_decide_eq_true

/-- Sorting outcomes of all paths puts them in the order of the paths. -/
theorem mergeSort_outcomes {outcomes : List Outcome}
    (all : outcomes.Perm ((tasks paths).map (hasher.outcome files))) :
    (outcomes.mergeSort fun left right =>
        left.task.index ≤ right.task.index) =
      (tasks paths).map (hasher.outcome files) := by
  have sameOutcomes := (List.mergeSort_perm outcomes fun left right =>
    decide (left.task.index ≤ right.task.index)).trans all
  have inOrder : ((tasks paths).map (hasher.outcome files)).Pairwise
      fun left right => left.task.index ≤ right.task.index := by
    rw [List.pairwise_map]
    exact (pairwise_tasks paths).imp Nat.le_of_lt
  refine List.Perm.eq_of_pairwise ?_
    (pairwise_mergeSort_outcomes outcomes) inOrder sameOutcomes
  -- The order tells outcomes apart, since no place belongs to two tasks.
  intro left right isLeft isRight leftFirst rightFirst
  rcases List.mem_map.mp (sameOutcomes.mem_iff.mp isLeft) with
    ⟨leftTask, leftMember, rfl⟩
  rcases List.mem_map.mp isRight with ⟨rightTask, rightMember, rfl⟩
  exact congrArg (hasher.outcome files) (eq_of_mem_tasks leftMember
    rightMember (Nat.le_antisymm leftFirst rightFirst))

theorem claimsInOrder_outcomes (hasher : Hasher) (files : Files)
    (paths : List String) :
    claimsInOrder ((tasks paths).map (hasher.outcome files)) =
      hasher.hashInOrder files paths := by
  rw [tasks]
  -- The place of the first path is left open for the induction.
  generalize 0 = start
  induction paths generalizing start with
  | nil => rfl
  | cons path rest inductionHypothesis =>
      rw [List.zipIdx_cons, List.map_cons, List.map_cons, claimsInOrder,
        hashInOrder, inductionHypothesis]
      rfl

/-- All outcomes together give what one path after the other gives. -/
theorem collect_outcomes {outcomes : List Outcome}
    (all : outcomes.Perm ((tasks paths).map (hasher.outcome files))) :
    collect outcomes = (hasher.hashInOrder files paths).map Listing.mk := by
  rw [collect, mergeSort_outcomes all, claimsInOrder_outcomes]
  cases hasher.hashInOrder files paths with
  | error fault => rfl
  | ok claims => rfl

theorem hashFiles_eq_hashInOrder (hasher : Hasher) (files : Files)
    (paths : List String) :
    hasher.hashFiles files paths =
      (hasher.hashInOrder files paths).map Listing.mk :=
  collect_outcomes (List.Perm.refl _)

/-! ## Steps and runs -/

namespace Schedule

/-- The outcomes that are there and those still to come. -/
def outcomes (hasher : Hasher) (files : Files) (schedule : Schedule) :
    List Outcome :=
  schedule.picked ++ (schedule.ready ++
    (schedule.running ++ schedule.waiting).map (hasher.outcome files))

/-- How many steps are left. -/
def stepsLeft (schedule : Schedule) : Nat :=
  3 * schedule.waiting.length + 2 * schedule.running.length +
    schedule.ready.length

/-- A step neither loses an outcome nor makes one twice. -/
theorem Step.perm_outcomes {schedule next : Schedule}
    (step : Step hasher files schedule next) :
    (next.outcomes hasher files).Perm (schedule.outcomes hasher files) := by
  cases step with
  | start task waiting running ready picked free =>
      simp only [outcomes, List.append_assoc, List.singleton_append]
      exact List.Perm.refl _
  | finish task waiting before after ready picked =>
      simp only [outcomes, List.append_assoc, List.map_append,
        List.cons_append, List.map_cons, List.nil_append]
      refine .append_left picked (.append_left ready ?_)
      exact List.perm_middle.symm
  | pick outcome running before after picked =>
      simp only [outcomes, List.append_assoc, List.cons_append,
        List.nil_append]
      refine .append_left picked ?_
      exact List.perm_middle.symm

theorem Step.stepsLeft_lt {schedule next : Schedule}
    (step : Step hasher files schedule next) :
    next.stepsLeft < schedule.stepsLeft := by
  cases step with
  | start task waiting running ready picked free =>
      simp only [stepsLeft, List.length_append, List.length_cons,
        List.length_nil]
      omega
  | finish task waiting before after ready picked =>
      simp only [stepsLeft, List.length_append, List.length_cons,
        List.length_nil]
      omega
  | pick outcome running before after picked =>
      simp only [stepsLeft, List.length_append, List.length_cons,
        List.length_nil]
      omega

/-- No reading of files goes on for ever. -/
theorem wellFounded_step (hasher : Hasher) (files : Files) :
    WellFounded fun next schedule => Step hasher files schedule next :=
  Subrelation.wf Step.stepsLeft_lt (InvImage.wf stepsLeft Nat.lt_wfRel.wf)

/-- As long as something is left to be done, something can happen. -/
theorem isComplete_or_step (permits : 0 < hasher.maxConcurrency)
    (schedule : Schedule) :
    schedule.IsComplete ∨ ∃ next, Step hasher files schedule next := by
  rcases schedule with ⟨waiting, running, ready, picked⟩
  cases running with
  | cons task others =>
      exact .inr ⟨_, .finish task waiting [] others ready picked⟩
  | nil =>
      cases waiting with
      | cons task others =>
          exact .inr ⟨_, .start task others [] ready picked permits⟩
      | nil =>
          cases ready with
          | cons outcome others =>
              exact .inr ⟨_, .pick outcome [] [] others picked⟩
          | nil => exact .inl ⟨rfl, rfl, rfl⟩

theorem Reaches.running_length_le {origin schedule : Schedule}
    (reaches : Reaches hasher files origin schedule)
    (bounded : origin.running.length ≤ hasher.maxConcurrency) :
    schedule.running.length ≤ hasher.maxConcurrency := by
  induction reaches with
  | start => exact bounded
  | step middle last reached next inductionHypothesis =>
      exact next.running_length_le inductionHypothesis

theorem Reaches.perm_outcomes {origin schedule : Schedule}
    (reaches : Reaches hasher files origin schedule) :
    (schedule.outcomes hasher files).Perm (origin.outcomes hasher files) := by
  induction reaches with
  | start => exact List.Perm.refl _
  | step middle last reached next inductionHypothesis =>
      exact next.perm_outcomes.trans inductionHypothesis

/-- When everything is done, the picked outcomes are those of all paths. -/
theorem Reaches.perm_picked {schedule : Schedule}
    (reaches : Reaches hasher files (.initial paths) schedule)
    (complete : schedule.IsComplete) :
    schedule.picked.Perm ((tasks paths).map (hasher.outcome files)) := by
  rcases schedule with ⟨waiting, running, ready, picked⟩
  rcases complete with ⟨rfl, rfl, rfl⟩
  simpa [outcomes, initial] using reaches.perm_outcomes

end Schedule

/--
However the reading of several files goes, no more files are read at the same
time than the hasher allows, something can happen until everything is done,
and everything is done at last.  The listing or the fault is then the one of
reading the paths in their order.  A limit only bounds the reading, zero
counting as one.
-/
theorem hashFiles_independent_of_schedule {hasher : Hasher}
    (built : hasher.Built) (files : Files) (paths : List String) :
    (∀ schedule, Schedule.Reaches hasher files (.initial paths) schedule →
      schedule.running.length ≤ hasher.maxConcurrency ∧
      (schedule.IsComplete ∨
        ∃ next, Schedule.Step hasher files schedule next) ∧
      (schedule.IsComplete →
        collect schedule.picked = hasher.hashFiles files paths)) ∧
    (WellFounded fun next schedule =>
      Schedule.Step hasher files schedule next) ∧
    hasher.ComesTo files paths (hasher.hashFiles files paths) ∧
    ∀ limit, (hasher.withMaxConcurrency limit).Built ∧
      (hasher.withMaxConcurrency limit).maxConcurrency = max limit 1 ∧
      (hasher.withMaxConcurrency limit).hashFiles files paths =
        hasher.hashFiles files paths := by
  refine ⟨?_, Schedule.wellFounded_step hasher files, ?_, ?_⟩
  · intro schedule reaches
    refine ⟨reaches.running_length_le (Nat.zero_le _),
      Schedule.isComplete_or_step built.maxConcurrency_pos schedule, ?_⟩
    intro complete
    rw [hashFiles_eq_hashInOrder]
    exact collect_outcomes (reaches.perm_picked complete)
  · rw [hashFiles_eq_hashInOrder]
    exact comesTo_hashInOrder built.digestible paths
  · intro limit
    exact ⟨.limited hasher limit built, rfl, rfl⟩

/-- With a limit of zero one file is read at a time; the lost one is blamed. -/
theorem hashFiles_of_lost_file :
    (standard.withMaxConcurrency 0).Built ∧
    ∀ schedule, Schedule.Reaches (standard.withMaxConcurrency 0)
        (FileTree.ofEntries [("kept", .file [])]).find
        (.initial ["kept", "lost", "kept"]) schedule →
      schedule.running.length ≤ 1 ∧
      (schedule.IsComplete →
        collect schedule.picked = .error (.fileNotFound "lost")) := by
  have built : (standard.withMaxConcurrency 0).Built :=
    .limited standard 0 .standard
  have law := hashFiles_independent_of_schedule built
    (FileTree.ofEntries [("kept", .file [])]).find ["kept", "lost", "kept"]
  refine ⟨built, fun schedule reaches => ?_⟩
  rcases law.1 schedule reaches with ⟨bounded, -, result⟩
  refine ⟨bounded, fun complete => (result complete).trans ?_⟩
  rw [hashFiles_eq_hashInOrder]
  rfl

end MediaHash.Hasher
