import MediaHash.HashType
import MediaHash.ReportMode
import MediaHash.Text.Split

/-!
# Arguments of the command line

The command line names one of five commands.  Four options may stand before
the command or among its own arguments; of an option given in both places
the one among the command's arguments counts.  In either place an option may
stand once only, except where several values are meant.  An option with a
value takes it from behind an equals sign or from the next argument, which
must not look like an option.  After two dashes nothing is an option.
Arguments are looked at in order: a request for help or for the version is
followed unless an argument before it is at fault.
-/

namespace MediaHash.Command

/-- Options that go with every command. -/
structure Globals where
  json : Bool
  debug : Bool
  color : Option ColorChoice
  config : Option String
deriving DecidableEq, Repr

/-- What the program is asked to do. -/
inductive Action where
  | compare (reference candidate : String)
  | manifest (manifest expectations : String) (noCompleteness : Bool)
  | sequence (spec : String) (pattern : Option String)
  | hash (files : List String) (types : List HashType)
  | scenario (file : String)
deriving DecidableEq, Repr

/-- A command line that can be followed. -/
inductive Request where
  | run (globals : Globals) (action : Action)
  | version
  | help
deriving DecidableEq, Repr

/-! ## Options -/

/-- An option and what may be given with it. -/
structure OptionRule where
  name : String
  short : Option Char
  takesValue : Bool
  repeatable : Bool
  /-- The values that can be given. -/
  accepts : String → Bool

/-- An option without a value. -/
def switch (name : String) (short : Option Char) : OptionRule :=
  ⟨name, short, false, false, fun _ => true⟩

/-- The options that go with every command. -/
def globalOptions : List OptionRule :=
  [switch "json" none, switch "debug" none,
    ⟨"color", none, true, false,
      fun word => (ColorChoice.ofName? word).isSome⟩,
    ⟨"config", none, true, false, fun path => !path.isEmpty⟩,
    switch "help" (some 'h')]

/-- What may stand among the arguments of one level. -/
structure Rules where
  options : List OptionRule
  /-- How many arguments that are no options there may be, if limited. -/
  limit : Option Nat
  /-- The arguments that may stand where no option does. -/
  accepts : String → Bool

/-- What may stand before the command. -/
def topRules : Rules :=
  ⟨switch "version" (some 'V') :: globalOptions, some 0, fun _ => true⟩

/-- One argument, or an option with its value. -/
inductive Item where
  | option (name : String) (value : Option String)
  | positional (value : String)
  /-- An argument that cannot be understood. -/
  | invalid
deriving DecidableEq, Repr

/-- The argument reads as an option: a dash with something behind it. -/
def looksLikeOption (argument : String) : Bool :=
  match argument.toList with
  | '-' :: _ :: _ => true
  | _ => false

/-- What short options in one argument amount to, the last of them apart. -/
inductive Cluster where
  /-- All options are complete. -/
  | complete (items : List Item)
  /-- The last option takes its value from the next argument. -/
  | waiting (items : List Item) (name : String)

/-- Put an item before those of a cluster. -/
def Cluster.cons (item : Item) : Cluster → Cluster
  | complete items => complete (item :: items)
  | waiting items name => waiting (item :: items) name

/-- Read short options that stand together behind one dash. -/
def readCluster (options : List OptionRule) : List Char → Cluster
  | [] => .complete []
  | letter :: rest =>
      match options.find? fun option => option.short == some letter with
      | none => .complete [.invalid]
      | some option =>
          if option.takesValue then
            match rest with
            | [] => .waiting [] option.name
            | '=' :: value =>
                .complete [.option option.name (some (String.ofList value))]
            | value =>
                .complete [.option option.name (some (String.ofList value))]
          else (readCluster options rest).cons (.option option.name none)

/-- Read one argument that looks like an option. -/
def readOption (options : List OptionRule) (argument : List Char) : Cluster :=
  match argument with
  | '-' :: '-' :: long =>
      let (name, value) := match Text.splitFirst '=' long with
        | some (name, value) => (name, some (String.ofList value))
        | none => (long, none)
      match options.find? fun option => option.name == String.ofList name with
      | none => .complete [.invalid]
      | some option =>
          match option.takesValue, value with
          | true, none => .waiting [] option.name
          | true, some value => .complete [.option option.name (some value)]
          | false, none => .complete [.option option.name none]
          | false, some _ => .complete [.invalid]
  | '-' :: cluster => readCluster options cluster
  | _ => .complete [.invalid]

/--
Read arguments into items.  When `stops` is set, the first argument that is
no option ends the reading, and it is left over with all that follow.
-/
def readItems (options : List OptionRule) (stops : Bool) :
    List String → List Item × List String
  | [] => ([], [])
  | argument :: rest =>
      if argument = "--" then (rest.map .positional, [])
      else if looksLikeOption argument then
        match readOption options argument.toList with
        | .complete items =>
            let (later, left) := readItems options stops rest
            (items ++ later, left)
        | .waiting items name =>
            match rest with
            | [] => (items ++ [.invalid], [])
            | value :: rest =>
                if looksLikeOption value then (items ++ [.invalid], [])
                else
                  let (later, left) := readItems options stops rest
                  (items ++ .option name (some value) :: later, left)
      else if stops then ([], argument :: rest)
      else
        let (later, left) := readItems options stops rest
        (.positional argument :: later, left)

/-- What the first decisive item asks for, if there is one. -/
inductive Decision where
  | version
  | help
  | refuse
deriving DecidableEq, Repr

/--
Find the first item that decides alone, given the names of the options and
the number of other arguments seen before.
-/
def decideFrom? (rules : Rules) (seen : List String) (count : Nat) :
    List Item → Option Decision
  | [] => none
  | .invalid :: _ => some .refuse
  | .positional value :: rest =>
      if rules.limit.any (· ≤ count) || !rules.accepts value then
        some .refuse
      else decideFrom? rules seen (count + 1) rest
  | .option name value :: rest =>
      if name = "version" then some .version
      else if name = "help" then some .help
      else match rules.options.find? fun option => option.name == name with
        | none => some .refuse
        | some option =>
            if (!option.repeatable && seen.contains name) ||
                !value.all option.accepts then
              some .refuse
            else decideFrom? rules (name :: seen) count rest

/-- Find the first item that decides alone. -/
def decide? (rules : Rules) (items : List Item) : Option Decision :=
  decideFrom? rules [] 0 items

/-- The values of an option, in order. -/
def valuesOf (items : List Item) (name : String) : List String :=
  items.filterMap fun item => match item with
    | .option other value => if other = name then value else none
    | _ => none

/-- Whether an option is given. -/
def isGiven (items : List Item) (name : String) : Bool :=
  items.any fun item => match item with
    | .option other _ => other == name
    | _ => false

/-- The arguments that are no options, in order. -/
def positionals (items : List Item) : List String :=
  items.filterMap fun item => match item with
    | .positional value => some value
    | _ => none

/-! ## Commands -/

/-- The argument can be a path. -/
def isPath (argument : String) : Bool :=
  !argument.isEmpty

/-- What may stand among a command's arguments, by the command's name. -/
def rulesOf? (name : String) : Option Rules :=
  if name = "compare" ∨ name = "cmp" then
    some ⟨globalOptions, some 2, isPath⟩
  else if name = "manifest" then
    some ⟨[⟨"expect", none, true, false, isPath⟩,
      switch "no-completeness" none] ++ globalOptions, some 1, isPath⟩
  else if name = "sequence" ∨ name = "seq" then
    some ⟨⟨"pattern", some 'p', true, false, fun _ => true⟩ ::
      globalOptions, some 1, fun _ => true⟩
  else if name = "hash" then
    some ⟨⟨"type", some 't', true, true,
      fun name => (HashType.ofName? name).isSome⟩ ::
      globalOptions, none, isPath⟩
  else if name = "scenario" then some ⟨globalOptions, some 1, isPath⟩
  else none

/-- What a command with a name and items asks for, if they are complete. -/
def actionOf? (name : String) (items : List Item) : Option Action :=
  let arguments := positionals items
  if name = "compare" ∨ name = "cmp" then
    match arguments with
    | [reference, candidate] => some (.compare reference candidate)
    | _ => none
  else if name = "manifest" then
    match arguments, valuesOf items "expect" with
    | [manifest], [expectations] =>
        some (.manifest manifest expectations
          (isGiven items "no-completeness"))
    | _, _ => none
  else if name = "sequence" ∨ name = "seq" then
    match arguments with
    | [spec] => some (.sequence spec (valuesOf items "pattern").head?)
    | _ => none
  else if name = "hash" then
    if arguments.isEmpty then none
    else
      some (.hash arguments
        ((valuesOf items "type").filterMap HashType.ofName?))
  else
    match arguments with
    | [file] => some (.scenario file)
    | _ => none

/-- The options that go with every command, as given in one place. -/
def globalsOf (items : List Item) : Globals :=
  { json := isGiven items "json"
    debug := isGiven items "debug"
    color := (valuesOf items "color").head?.bind ColorChoice.ofName?
    config := (valuesOf items "config").head? }

/-- Options before the command and among its arguments, taken together. -/
def Globals.over (outer inner : Globals) : Globals :=
  { json := outer.json || inner.json
    debug := outer.debug || inner.debug
    color := inner.color.or outer.color
    config := inner.config.or outer.config }

/-- The request that the arguments of one level decide alone. -/
def Decision.request? : Decision → Option Request
  | .version => some .version
  | .help => some .help
  | .refuse => none

/-- The request of the command `help`: at most one command may be named. -/
def helpRequest? : List String → Option Request
  | [] => some .help
  | [name] =>
      if name = "help" ∨ (rulesOf? name).isSome = true then some .help
      else none
  | _ => none

/--
The items before the command that are looked at before its arguments are: a
last option whose value stands apart from it has to wait.
-/
def settledItems (before : List String) (items : List Item) : List Item :=
  if before.getLast?.all looksLikeOption then items else items.dropLast

/-- The request that a command line makes, none if it cannot be followed. -/
def parse (arguments : List String) : Option Request :=
  let (top, left) := readItems topRules.options true arguments
  let before := arguments.take (arguments.length - left.length)
  match left with
  | [] => (decide? topRules top).bind Decision.request?
  | name :: rest =>
      match decide? topRules (settledItems before top) with
      | some decision => decision.request?
      | none =>
          if name = "help" then helpRequest? rest
          else do
            let rules ← rulesOf? name
            let (items, _) := readItems rules.options false rest
            match decide? rules items, decide? topRules top with
            | some decision, _ => decision.request?
            | none, some decision => decision.request?
            | none, none => do
                let action ← actionOf? name items
                some (.run ((globalsOf top).over (globalsOf items)) action)

end MediaHash.Command
