import MediaHash.Digest.Hasher

/-!
# Reading several files at the same time

Files may be read side by side.  A task begins when one of a limited number
of permits is free, in the order of the paths; it holds the permit while its
file is read.  Which of the running tasks ends first is left open, and so is
the order in which the outcomes are picked up once every task has begun.
The listing is put together from the outcomes that were picked up.
-/

namespace MediaHash.Hasher

/-- How far the reading of several files has come. -/
structure Schedule where
  /-- Tasks that have not begun, in order. -/
  waiting : List Task
  /-- Tasks that hold a permit. -/
  running : List Task
  /-- Outcomes that nobody has picked up yet. -/
  ready : List Outcome
  /-- Outcomes that were picked up, in this order. -/
  picked : List Outcome

namespace Schedule

/-- No task has begun. -/
def initial (paths : List String) : Schedule :=
  ⟨tasks paths, [], [], []⟩

/-- Nothing is left to be done. -/
def IsComplete (schedule : Schedule) : Prop :=
  schedule.waiting = [] ∧ schedule.running = [] ∧ schedule.ready = []

/-- One thing happens. -/
inductive Step (hasher : Hasher) (files : Files) :
    Schedule → Schedule → Prop where
  /-- The next task begins, a permit being free. -/
  | start (task : Task) (waiting running : List Task)
      (ready picked : List Outcome)
      (free : running.length < hasher.maxConcurrency) :
      Step hasher files ⟨task :: waiting, running, ready, picked⟩
        ⟨waiting, running ++ [task], ready, picked⟩
  /-- One of the running tasks ends and gives its permit back. -/
  | finish (task : Task) (waiting before after : List Task)
      (ready picked : List Outcome) :
      Step hasher files ⟨waiting, before ++ task :: after, ready, picked⟩
        ⟨waiting, before ++ after, ready ++ [hasher.outcome files task],
          picked⟩
  /-- One of the outcomes is picked up, every task having begun. -/
  | pick (outcome : Outcome) (running : List Task)
      (before after picked : List Outcome) :
      Step hasher files ⟨[], running, before ++ outcome :: after, picked⟩
        ⟨[], running, before ++ after, picked ++ [outcome]⟩

/-- Any number of things happen, one after the other. -/
inductive Reaches (hasher : Hasher) (files : Files) (origin : Schedule) :
    Schedule → Prop where
  | start : Reaches hasher files origin origin
  | step (middle last : Schedule)
      (reached : Reaches hasher files origin middle)
      (next : Step hasher files middle last) :
      Reaches hasher files origin last

/-- A step keeps the number of running tasks within the permits. -/
theorem Step.running_length_le {hasher : Hasher} {files : Files}
    {schedule next : Schedule} (step : Step hasher files schedule next)
    (bounded : schedule.running.length ≤ hasher.maxConcurrency) :
    next.running.length ≤ hasher.maxConcurrency := by
  cases step with
  | start task waiting running ready picked free =>
      simp only [List.length_append, List.length_singleton]
      omega
  | finish task waiting before after ready picked =>
      simp only [List.length_append, List.length_cons] at bounded ⊢
      omega
  | pick outcome running before after picked => exact bounded

end Schedule

end MediaHash.Hasher
