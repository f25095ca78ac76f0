import MediaHash.Config.Basic

/-!
# Settings from the environment

Three variables of the environment may change settings, each by words of its
own.  They are looked at in order, and the first one that is set to another
word is a fault, whatever the variables behind it say.  Without a fault each
variable that is set changes its own setting, and nothing else changes.
-/

namespace MediaHash

/-- What is found by its name is what stands under the name in a list. -/
theorem find?_name_eq_lookup {α : Type} (nameOf : α → String)
    (values : List α) (word : String) :
    (values.find? fun value => nameOf value == word) =
      (values.map fun value => (nameOf value, value)).lookup word := by
  induction values with
  | nil => rfl
  | cons value rest inductionHypothesis =>
      rw [List.find?_cons, List.map_cons, List.lookup_cons,
        inductionHypothesis, BEq.comm]

namespace Config

/-! ## Words -/

/-- The words for formats of the output. -/
def outputWords : List (String × OutputFormat) :=
  [("plain", .plain), ("tty", .tty), ("json", .json)]

/-- The words for choices of color. -/
def colorWords : List (String × ColorChoice) :=
  [("always", .always), ("auto", .auto), ("never", .never)]

/-- The words for whether completeness is strict. -/
def strictWords : List (String × Bool) :=
  [("true", true), ("1", true), ("yes", true),
    ("false", false), ("0", false), ("no", false)]

theorem outputFormat_ofName?_eq_lookup (word : String) :
    OutputFormat.ofName? word = outputWords.lookup word :=
  find?_name_eq_lookup OutputFormat.name [.plain, .tty, .json] word

theorem colorChoice_ofName?_eq_lookup (word : String) :
    ColorChoice.ofName? word = colorWords.lookup word :=
  find?_name_eq_lookup ColorChoice.name [.always, .auto, .never] word

theorem switch?_eq_lookup (word : String) :
    switch? word = strictWords.lookup word := by
  rw [switch?]
  split
  next isTrue => rcases isTrue with rfl | rfl | rfl <;> decide
  next notTrue =>
    split
    next isFalse => rcases isFalse with rfl | rfl | rfl <;> decide
    next notFalse =>
      rw [not_or, not_or] at notTrue notFalse
      simp only [← beq_eq_false_iff_ne] at notTrue notFalse
      simp only [strictWords, List.lookup_cons, List.lookup_nil, notTrue,
        notFalse]

/-- What a variable says if it is set to one of its words. -/
def said? {α : Type} (environment : String → Option String) (name : String)
    (words : List (String × α)) : Option α :=
  (environment name).bind fun word => words.lookup word

/-- A variable with the words that it may be set to. -/
structure Variable where
  name : String
  words : List String

/-- The variables, in the order in which they are looked at. -/
def knownVariables : List Variable :=
  [⟨outputVariable, outputWords.map Prod.fst⟩,
    ⟨colorVariable, colorWords.map Prod.fst⟩,
    ⟨strictVariable, strictWords.map Prod.fst⟩]

/-- The variable is set to a word that is not one of its own. -/
def Variable.IsWrong (environment : String → Option String)
    (asked : Variable) (word : String) : Prop :=
  environment asked.name = some word ∧ word ∉ asked.words

/-- No variable is set to a word that is not one of its own. -/
def AllRight (environment : String → Option String) : Prop :=
  ∀ asked ∈ knownVariables, ∀ word, ¬ asked.IsWrong environment word

/-- The first variable with a wrong word has the given name and word. -/
def FirstWrong (environment : String → Option String) (name word : String) :
    Prop :=
  ∃ before asked after, knownVariables = before ++ asked :: after ∧
    (∀ earlier ∈ before, ∀ other, ¬ earlier.IsWrong environment other) ∧
    asked.name = name ∧ asked.IsWrong environment word

/-! ## One variable -/

section OneVariable

variable {α : Type} {name : String} {read? : String → Option α}
  {words : List (String × α)} {environment : String → Option String}

theorem isWrong_iff {word : String} :
    Variable.IsWrong environment ⟨name, words.map Prod.fst⟩ word ↔
      environment name = some word ∧ words.lookup word = none := by
  rw [Variable.IsWrong, List.lookup_eq_none_iff]
  apply and_congr_right
  intro isSet
  rw [List.mem_map]
  constructor
  · intro notOwn entry member
    rw [bne_iff_ne]
    rintro rfl
    exact notOwn ⟨entry, member, rfl⟩
  · rintro notFound ⟨entry, member, rfl⟩
    exact bne_iff_ne.mp (notFound entry member) rfl

theorem mergeVariable_of_fault (put : Config → α → Config) (config : Config)
    (fault : ConfigFault) :
    mergeVariable name read? put environment (config, some fault) =
      (config, some fault) := by
  rw [mergeVariable]

variable (reads : ∀ word, read? word = words.lookup word)

include reads

/-- A variable with a wrong word is a fault and changes nothing. -/
theorem mergeVariable_of_isWrong (put : Config → α → Config)
    (config : Config) {word : String}
    (wrong : Variable.IsWrong environment ⟨name, words.map Prod.fst⟩ word) :
    mergeVariable name read? put environment (config, none) =
      (config, some (.invalidValue name word)) := by
  rcases isWrong_iff.mp wrong with ⟨isSet, notOwn⟩
  simp only [mergeVariable, isSet, reads, notOwn]

/-- A variable without a wrong word puts what it says, if it is set. -/
theorem mergeVariable_of_right (put : Config → α → Config)
    (config : Config)
    (right : ∀ word,
      ¬ Variable.IsWrong environment ⟨name, words.map Prod.fst⟩ word) :
    mergeVariable name read? put environment (config, none) =
      ((said? environment name words).elim config (put config), none) := by
  cases isSet : environment name with
  | none => simp [mergeVariable, said?, isSet]
  | some word =>
      cases own : words.lookup word with
      | none => exact absurd (isWrong_iff.mpr ⟨isSet, own⟩) (right word)
      | some value => simp [mergeVariable, said?, isSet, reads, own]

end OneVariable

/-! ## All variables -/

section AllVariables

variable {environment : String → Option String}

open Classical in
/-- If some variable is set to a wrong word, one of them is the first. -/
theorem exists_firstWrong (wrong : ¬ AllRight environment) :
    ∃ name word, FirstWrong environment name word := by
  simp only [AllRight, not_forall, not_not] at wrong
  rcases wrong with ⟨one, member, word, isWrong⟩
  have found : (knownVariables.find? fun asked =>
      decide (∃ other, asked.IsWrong environment other)).isSome = true := by
    rw [List.find?_isSome]
    exact ⟨one, member, decide_eq_true ⟨word, isWrong⟩⟩
  rcases Option.isSome_iff_exists.mp found with ⟨first, isFirst⟩
  rcases List.find?_eq_some_iff_append.mp isFirst with
    ⟨holds, before, after, all, right⟩
  rcases of_decide_eq_true holds with ⟨other, firstWrong⟩
  refine ⟨first.name, other, before, first, after, all, ?_, rfl, firstWrong⟩
  intro earlier isEarlier another wrong
  have notWrong := right earlier isEarlier
  rw [decide_eq_true ⟨another, wrong⟩] at notWrong
  cases notWrong

/-- The first variable with a wrong word is the fault of them all. -/
theorem mergeEnvironment_of_firstWrong (config : Config)
    {name word : String} (first : FirstWrong environment name word) :
    (mergeEnvironment environment config).2 =
      some (.invalidValue name word) := by
  rcases first with ⟨before, asked, after, all, right, rfl, wrong⟩
  rw [mergeEnvironment]
  rcases before with _ | ⟨output, _ | ⟨color, _ | ⟨strict, others⟩⟩⟩
  · cases all
    rw [mergeVariable_of_isWrong outputFormat_ofName?_eq_lookup _ _ wrong,
      mergeVariable_of_fault, mergeVariable_of_fault]
  · cases all
    rw [List.forall_mem_singleton] at right
    rw [mergeVariable_of_right outputFormat_ofName?_eq_lookup _ _ right,
      mergeVariable_of_isWrong colorChoice_ofName?_eq_lookup _ _ wrong,
      mergeVariable_of_fault]
  · cases all
    rcases List.forall_mem_cons.mp right with ⟨outputRight, colorRight⟩
    rw [List.forall_mem_singleton] at colorRight
    rw [mergeVariable_of_right outputFormat_ofName?_eq_lookup _ _ outputRight,
      mergeVariable_of_right colorChoice_ofName?_eq_lookup _ _ colorRight,
      mergeVariable_of_isWrong switch?_eq_lookup _ _ wrong]
  · have lengths := congrArg List.length all
    simp [knownVariables] at lengths

/-- Each variable that is set changes its own setting. -/
theorem mergeEnvironment_of_allRight (config : Config)
    (right : AllRight environment) :
    mergeEnvironment environment config =
      ({ config with
        defaultOutput := (said? environment outputVariable
          outputWords).getD config.defaultOutput
        color := (said? environment colorVariable
          colorWords).getD config.color
        strictCompleteness := (said? environment strictVariable
          strictWords).getD config.strictCompleteness }, none) := by
  simp only [AllRight, knownVariables, List.forall_mem_cons] at right
  rcases right with ⟨output, color, strict, -⟩
  rw [mergeEnvironment,
    mergeVariable_of_right outputFormat_ofName?_eq_lookup _ config output,
    mergeVariable_of_right colorChoice_ofName?_eq_lookup _ _ color,
    mergeVariable_of_right switch?_eq_lookup _ _ strict]
  cases said? environment outputVariable outputWords <;>
    cases said? environment colorVariable colorWords <;>
    cases said? environment strictVariable strictWords <;>
    rfl

end AllVariables

end Config

end MediaHash
