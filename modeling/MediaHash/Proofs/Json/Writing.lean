import MediaHash.Json.Parser
import MediaHash.Proofs.Json.Lexing

/-!
# Written JSON is read back

On one line or spread over many, a value is written with the same lexemes,
and from these the value is read.  So both texts of a value are read as that
value, provided that its numbers are whole and fit 64 bits and that its
arrays and objects do not lie too deep inside each other.
-/

namespace MediaHash.Json

/-! ## Lexemes of a value -/

mutual

/-- The lexemes with which a value is written. -/
def lexemes : Json → List Lexeme
  | .string value => [.string value]
  | .array items => .symbol '[' :: itemLexemes items ++ [.symbol ']']
  | .object members => .symbol '{' :: memberLexemes members ++ [.symbol '}']
  | scalar => [.scalar scalar]

/-- The lexemes of items with commas between them. -/
def itemLexemes : List Json → List Lexeme
  | [] => []
  | [item] => lexemes item
  | item :: rest => lexemes item ++ .symbol ',' :: itemLexemes rest

/-- The lexemes of members with commas between them. -/
def memberLexemes : List (String × Json) → List Lexeme
  | [] => []
  | [(key, value)] => .string key :: .symbol ':' :: lexemes value
  | (key, value) :: rest =>
      .string key :: .symbol ':' :: lexemes value ++
        .symbol ',' :: memberLexemes rest

end

/-! ## Parts with commas between them -/

/-- Parts that are written one by one, with a separator before the next. -/
theorem eq_intercalate {α β : Type} {join : List α → List β}
    {write : α → List β} {separator : β} (nil : join [] = [])
    (single : ∀ part, join [part] = write part)
    (cons : ∀ part next rest, join (part :: next :: rest) =
      write part ++ separator :: join (next :: rest))
    (parts : List α) :
    join parts = [separator].intercalate (parts.map write) := by
  induction parts with
  | nil => exact nil
  | cons part rest ih =>
      cases rest with
      | nil => rw [single, List.map_singleton, List.intercalate_singleton]
      | cons next rest =>
          rw [cons, ih]
          simp only [List.map_cons, List.intercalate_cons_cons,
            List.append_assoc, List.singleton_append]

theorem intercalate_concat {α : Type} (separator : List α)
    {parts : List (List α)} (nonempty : parts ≠ []) (last : List α) :
    separator.intercalate (parts ++ [last]) =
      separator.intercalate parts ++ separator ++ last := by
  induction parts with
  | nil => exact absurd rfl nonempty
  | cons first rest ih =>
      cases rest with
      | nil => simp
      | cons next rest =>
          have extended := ih (List.cons_ne_nil next rest)
          rw [List.cons_append] at extended
          simp [extended]

theorem compactItems_eq (items : List Json) :
    compactItems items = [','].intercalate (items.map compactChars) :=
  eq_intercalate rfl (fun _ => rfl) (fun _ _ _ => rfl) items

theorem compactMembers_eq (members : List (String × Json)) :
    compactMembers members = [','].intercalate
      (members.map fun member =>
        quoted member.1 ++ ':' :: compactChars member.2) :=
  eq_intercalate rfl (fun _ => rfl)
    (fun _ _ _ => by simp [compactMembers]) members

/-- The closing brace gives way to one more member. -/
theorem compactChars_object_concat {members : List (String × Json)}
    (nonempty : members ≠ []) (member : String × Json) :
    (Json.object (members ++ [member])).compactChars =
      (Json.object members).compactChars.dropLast ++ ',' ::
        (quoted member.1 ++ ':' :: compactChars member.2) ++ ['}'] := by
  rw [compactChars, compactChars, List.dropLast_concat, compactMembers_eq,
    compactMembers_eq, List.map_append, List.map_singleton,
    intercalate_concat]
  · simp
  · simpa using nonempty

theorem prettyItems_eq (level : Nat) (items : List Json) :
    prettyItems level items = [','].intercalate
      (items.map fun item => lineBreak level ++ prettyChars level item) :=
  eq_intercalate rfl (fun _ => rfl) (fun _ _ _ => rfl) items

theorem prettyMembers_eq (level : Nat) (members : List (String × Json)) :
    prettyMembers level members = [','].intercalate
      (members.map fun member =>
        lineBreak level ++
          (quoted member.1 ++ ':' :: ' ' :: prettyChars level member.2)) :=
  eq_intercalate rfl (fun _ => by simp [prettyMembers])
    (fun _ _ _ => by simp [prettyMembers]) members

theorem itemLexemes_eq (items : List Json) :
    itemLexemes items = [.symbol ','].intercalate (items.map lexemes) :=
  eq_intercalate rfl (fun _ => rfl) (fun _ _ _ => rfl) items

/-- The lexemes of a key with its value. -/
def entryLexemes (member : String × Json) : List Lexeme :=
  .string member.1 :: .symbol ':' :: lexemes member.2

theorem memberLexemes_eq (members : List (String × Json)) :
    memberLexemes members =
      [.symbol ','].intercalate (members.map entryLexemes) :=
  eq_intercalate rfl (fun _ => rfl) (fun _ _ _ => rfl) members

/-! ## Both texts have these lexemes -/

/--
The value has no more levels of arrays and objects than are given, and its
numbers are whole and fit a word.
-/
inductive Writable : Nat → Json → Prop
  | null {levels : Nat} : Writable levels .null
  | bool {levels : Nat} (value : Bool) : Writable levels (.bool value)
  | int {levels : Nat} {value : Int} (fits : FitsWord value) :
      Writable levels (.int value)
  | string {levels : Nat} (value : String) : Writable levels (.string value)
  | array {levels : Nat} {items : List Json}
      (each : ∀ item ∈ items, Writable levels item) :
      Writable (levels + 1) (.array items)
  | object {levels : Nat} {members : List (String × Json)}
      (each : ∀ member ∈ members, Writable levels member.2) :
      Writable (levels + 1) (.object members)

attribute [simp] Writable.null Writable.bool Writable.string

section Writable

variable {levels : Nat}

@[simp]
theorem writable_int_iff {value : Int} :
    Writable levels (.int value) ↔ FitsWord value :=
  ⟨fun | .int fits => fits, .int⟩

@[simp]
theorem writable_nat_iff {number : Nat} :
    Writable levels (.nat number) ↔ number < UInt64.size := by
  rw [Json.nat, writable_int_iff]
  constructor
  · intro fits
    exact Int.ofNat_lt.mp fits.greatest
  · intro small
    exact ⟨by omega, Int.ofNat_lt.mpr small⟩

@[simp]
theorem writable_array_iff {items : List Json} :
    Writable (levels + 1) (.array items) ↔
      ∀ item ∈ items, Writable levels item :=
  ⟨fun | .array each => each, .array⟩

@[simp]
theorem writable_object_iff {members : List (String × Json)} :
    Writable (levels + 1) (.object members) ↔
      ∀ member ∈ members, Writable levels member.2 :=
  ⟨fun | .object each => each, .object⟩

end Writable

theorem StandsFor.intercalate {α : Type} {write : α → List Char}
    {spell : α → List Lexeme} {parts : List α}
    (each : ∀ part ∈ parts, StandsFor (write part) (spell part)) :
    StandsFor ([','].intercalate (parts.map write))
      ([.symbol ','].intercalate (parts.map spell)) := by
  induction parts with
  | nil => exact standsFor_nil
  | cons part rest ih =>
      rcases List.forall_mem_cons.mp each with ⟨here, others⟩
      cases rest with
      | nil => simpa using here
      | cons next rest =>
          have comma : isSymbol ',' = true := rfl
          have more := (ih others).symbol_cons comma
          simpa using here.append (breaks_cons rfl _) more

/-- What stands between two brackets. -/
theorem StandsFor.enclosed {opening closing : Char} {written : List Char}
    {lexemes : List Lexeme} (stands : StandsFor written lexemes)
    (opens : isSymbol opening = true) (closes : isSymbol closing = true)
    (breaks : isBare closing = false) :
    StandsFor (opening :: written ++ [closing])
      (.symbol opening :: lexemes ++ [.symbol closing]) :=
  (stands.symbol_cons opens).append (breaks_cons breaks [])
    (standsFor_nil.symbol_cons closes)

theorem StandsFor.member {key : String} {written : List Char}
    {lexemes : List Lexeme} (stands : StandsFor written lexemes) :
    StandsFor (quoted key ++ ':' :: written)
      (.string key :: .symbol ':' :: lexemes) :=
  (standsFor_quoted key).append (breaks_cons rfl _) (stands.symbol_cons rfl)

theorem standsFor_compactChars {levels : Nat} {value : Json}
    (writable : Writable levels value) :
    StandsFor value.compactChars value.lexemes := by
  induction writable with
  | null => exact standsFor_bare (List.all_eq_true.mp rfl) rfl
  | bool value =>
      cases value with
      | true => exact standsFor_bare (List.all_eq_true.mp rfl) rfl
      | false => exact standsFor_bare (List.all_eq_true.mp rfl) rfl
  | int fits => exact standsFor_int fits
  | string value => exact standsFor_quoted value
  | @array levels items each ih =>
      rw [compactChars, lexemes, compactItems_eq, itemLexemes_eq]
      exact (StandsFor.intercalate ih).enclosed rfl rfl rfl
  | @object levels members each ih =>
      rw [compactChars, lexemes, compactMembers_eq, memberLexemes_eq]
      refine (StandsFor.intercalate ?_).enclosed rfl rfl rfl
      intro member isMember
      exact (ih member isMember).member

theorem isSpace_of_mem_lineBreak {level : Nat} {letter : Char}
    (member : letter ∈ lineBreak level) : isSpace letter = true := by
  rcases List.mem_cons.mp member with rfl | inside
  · rfl
  · rw [List.eq_of_mem_replicate inside]
    rfl

theorem StandsFor.append_lineBreak {level : Nat} {written : List Char}
    {lexemes : List Lexeme} (stands : StandsFor written lexemes) :
    StandsFor (written ++ lineBreak level) lexemes := by
  have spaces : StandsFor (lineBreak level) [] := by
    rw [← List.append_nil (lineBreak level)]
    exact standsFor_nil.spaces_append fun _ => isSpace_of_mem_lineBreak
  have both := stands.append (breaks_cons rfl _) spaces
  rwa [List.append_nil] at both

theorem standsFor_prettyChars {levels : Nat} {value : Json}
    (writable : Writable levels value) (level : Nat) :
    StandsFor (value.prettyChars level) value.lexemes := by
  induction writable generalizing level with
  | @null levels => exact standsFor_compactChars (@Writable.null levels)
  | @bool levels value =>
      exact standsFor_compactChars (@Writable.bool levels value)
  | @int levels value fits =>
      exact standsFor_compactChars (@Writable.int levels value fits)
  | @string levels value =>
      exact standsFor_compactChars (@Writable.string levels value)
  | @array levels items each ih =>
      cases items with
      | nil => exact standsFor_nil.enclosed rfl rfl rfl
      | cons first rest =>
          rw [prettyChars, lexemes, prettyItems_eq, itemLexemes_eq]
          · refine (StandsFor.intercalate ?_).append_lineBreak.enclosed
              rfl rfl rfl
            intro item isItem
            exact (ih item isItem _).spaces_append
              fun _ => isSpace_of_mem_lineBreak
          · exact List.cons_ne_nil first rest
  | @object levels members each ih =>
      cases members with
      | nil => exact standsFor_nil.enclosed rfl rfl rfl
      | cons first rest =>
          rw [prettyChars, lexemes, prettyMembers_eq, memberLexemes_eq]
          · refine (StandsFor.intercalate ?_).append_lineBreak.enclosed
              rfl rfl rfl
            intro member isMember
            have blank : ∀ letter ∈ [' '], isSpace letter = true :=
              List.all_eq_true.mp rfl
            have value := (ih member isMember (level + 1)).spaces_append blank
            exact value.member.spaces_append
              fun _ => isSpace_of_mem_lineBreak
          · exact List.cons_ne_nil first rest

/-! ## One line -/

theorem newline_ne_hexDigit {value : Nat} (small : value < 16) :
    '\n' ≠ Text.hexDigit value := by
  intro same
  have read := Text.hexValue?_hexDigit small
  rw [← same] at read
  cases read

theorem newline_not_mem_of_escapes {letter : Char} {written : List Char}
    (escapes : Escapes letter written) : '\n' ∉ written := by
  cases escapes with
  | @mark mark notCode meant =>
      have notNewline : '\n' ≠ mark := by
        rintro rfl
        cases meant
      simp [notNewline]
  | code control =>
      have high := newline_ne_hexDigit
        (show letter.toNat / 16 < 16 by omega)
      have low := newline_ne_hexDigit
        (show letter.toNat % 16 < 16 by omega)
      simp [codeDigits, high, low]
  | plain notQuote notBackslash notControl =>
      rw [List.mem_singleton]
      rintro rfl
      exact notControl (by decide)

theorem newline_not_mem_quoted (text : String) : '\n' ∉ quoted text := by
  have inside : '\n' ∉ text.toList.flatMap escape := by
    rw [List.mem_flatMap]
    rintro ⟨letter, -, member⟩
    exact newline_not_mem_of_escapes (escapes_escape letter) member
  rw [quoted, List.mem_append, List.mem_cons, List.mem_singleton]
  rintro ((isQuote | member) | isQuote)
  · cases isQuote
  · exact inside member
  · cases isQuote

theorem not_mem_intercalate {α : Type} {separator value : α}
    {parts : List (List α)} (apart : value ≠ separator)
    (each : ∀ part ∈ parts, value ∉ part) :
    value ∉ [separator].intercalate parts := by
  induction parts with
  | nil => exact List.not_mem_nil
  | cons part rest ih =>
      rcases List.forall_mem_cons.mp each with ⟨here, others⟩
      cases rest with
      | nil => simpa using here
      | cons next rest => simpa [here, apart] using ih others

theorem newline_not_mem_compactChars {levels : Nat} {value : Json}
    (writable : Writable levels value) : '\n' ∉ value.compactChars := by
  induction writable with
  | null => decide
  | bool value => cases value <;> decide
  | int fits =>
      intro member
      exact absurd (isBare_of_mem_signedNumeral member) (by decide)
  | string value => exact newline_not_mem_quoted value
  | @array levels items each ih =>
      have inside : '\n' ∉ compactItems items := by
        rw [compactItems_eq]
        exact not_mem_intercalate (by decide) (List.forall_mem_map.mpr ih)
      simp [compactChars, inside]
  | @object levels members each ih =>
      have inside : '\n' ∉ compactMembers members := by
        rw [compactMembers_eq]
        refine not_mem_intercalate (by decide) (List.forall_mem_map.mpr ?_)
        intro member isMember
        simp [newline_not_mem_quoted, ih member isMember]
      simp [compactChars, inside]

/-! ## The value of these lexemes -/

theorem parseFrom_cons_of_take {stack outer : List Frame}
    {expecting next : Expecting} {lexeme : Lexeme}
    (taken : take stack expecting lexeme = .ok (outer, next))
    (rest : List Lexeme) :
    parseFrom stack expecting (lexeme :: rest) = parseFrom outer next rest := by
  rw [parseFrom, taken]
  rfl

/-- The value is read from its lexemes wherever so many levels are left. -/
def Reads (levels : Nat) (value : Json) : Prop :=
  ∀ ⦃stack : List Frame⦄, stack.length + levels ≤ depthLimit →
    ∀ rest, parseFrom stack .value (value.lexemes ++ rest) =
      parseFrom stack (.after value) rest

theorem parseFrom_items {levels : Nat} {outer : List Frame}
    (room : outer.length + (levels + 1) ≤ depthLimit)
    {items : List Json} (nonempty : items ≠ [])
    (each : ∀ item ∈ items, Reads levels item) (earlier : List Json)
    (rest : List Lexeme) :
    parseFrom (.items earlier :: outer) .value
        ([.symbol ','].intercalate (items.map lexemes) ++
          .symbol ']' :: rest) =
      parseFrom outer (.after (.array (earlier.reverse ++ items))) rest := by
  have inside (earlier : List Json) :
      (Frame.items earlier :: outer).length + levels ≤ depthLimit := by
    rw [List.length_cons]
    omega
  induction items generalizing earlier with
  | nil => exact absurd rfl nonempty
  | cons item items ih =>
      rcases List.forall_mem_cons.mp each with ⟨here, others⟩
      cases items with
      | nil =>
          have closed : take (.items earlier :: outer) (.after item)
              (.symbol ']') =
                .ok (outer, .after (.array (item :: earlier).reverse)) := rfl
          rw [List.map_singleton, List.intercalate_singleton,
            here (inside earlier), parseFrom_cons_of_take closed,
            List.reverse_cons]
      | cons next items =>
          have continued : take (.items earlier :: outer) (.after item)
              (.symbol ',') = .ok (.items (item :: earlier) :: outer, .value) :=
            rfl
          have later := ih (List.cons_ne_nil next items) others (item :: earlier)
          rw [List.map_cons] at later
          rw [List.map_cons, List.map_cons, List.intercalate_cons_cons,
            List.append_assoc, List.append_assoc, here (inside earlier),
            List.singleton_append, parseFrom_cons_of_take continued, later,
            List.reverse_cons, List.append_assoc, List.singleton_append]

theorem parseFrom_members {levels : Nat} {outer : List Frame}
    (room : outer.length + (levels + 1) ≤ depthLimit)
    {members : List (String × Json)} (nonempty : members ≠ [])
    (each : ∀ member ∈ members, Reads levels member.2)
    (earlier : List (String × Json)) (endAllowed : Bool)
    (rest : List Lexeme) :
    parseFrom outer (.key earlier endAllowed)
        ([.symbol ','].intercalate (members.map entryLexemes) ++
          .symbol '}' :: rest) =
      parseFrom outer (.after (.object (earlier.reverse ++ members))) rest := by
  -- The value behind a key is read one level further in.
  have entry (member : String × Json) (earlier : List (String × Json))
      (endAllowed : Bool) (isRead : Reads levels member.2)
      (rest : List Lexeme) :
      parseFrom outer (.key earlier endAllowed)
          (entryLexemes member ++ rest) =
        parseFrom (.members earlier member.1 :: outer)
          (.after member.2) rest := by
    have key : take outer (.key earlier endAllowed) (.string member.1) =
        .ok (outer, .colon earlier member.1) := rfl
    have colon : take outer (.colon earlier member.1) (.symbol ':') =
        .ok (.members earlier member.1 :: outer, .value) := rfl
    rw [entryLexemes, List.cons_append, List.cons_append,
      parseFrom_cons_of_take key, parseFrom_cons_of_take colon]
    apply isRead
    rw [List.length_cons]
    omega
  induction members generalizing earlier endAllowed with
  | nil => exact absurd rfl nonempty
  | cons member members ih =>
      rcases List.forall_mem_cons.mp each with ⟨here, others⟩
      cases members with
      | nil =>
          have closed : take (.members earlier member.1 :: outer)
              (.after member.2) (.symbol '}') =
                .ok (outer, .after (.object (member :: earlier).reverse)) :=
            rfl
          rw [List.map_singleton, List.intercalate_singleton,
            entry member earlier endAllowed here,
            parseFrom_cons_of_take closed, List.reverse_cons]
      | cons next members =>
          have continued : take (.members earlier member.1 :: outer)
              (.after member.2) (.symbol ',') =
                .ok (outer, .key (member :: earlier) false) := rfl
          have later := ih (List.cons_ne_nil next members) others
            (member :: earlier) false
          rw [List.map_cons] at later
          rw [List.map_cons, List.map_cons, List.intercalate_cons_cons,
            List.append_assoc, List.append_assoc,
            entry member earlier endAllowed here, List.singleton_append,
            parseFrom_cons_of_take continued, later, List.reverse_cons,
            List.append_assoc, List.singleton_append]

/-- No value begins with the bracket that ends an array. -/
theorem exists_lexemes_eq_cons (value : Json) :
    ∃ first rest, value.lexemes = first :: rest ∧ first ≠ .symbol ']' := by
  cases value with
  | null => exact ⟨_, _, rfl, nofun⟩
  | bool value => exact ⟨_, _, rfl, nofun⟩
  | int value => exact ⟨_, _, rfl, nofun⟩
  | real written => exact ⟨_, _, rfl, nofun⟩
  | string value => exact ⟨_, _, rfl, nofun⟩
  | array items => exact ⟨_, _, rfl, by simp⟩
  | object members => exact ⟨_, _, rfl, by simp⟩

theorem parseFrom_itemOrEnd {first : Lexeme} (notEnd : first ≠ .symbol ']')
    (stack : List Frame) (rest : List Lexeme) :
    parseFrom stack .itemOrEnd (first :: rest) =
      parseFrom stack .value (first :: rest) := by
  have begun : take stack .itemOrEnd first = beginValue stack first := by
    rw [take]
    intro earlier outer isEnd
    exact absurd isEnd notEnd
  rw [parseFrom, parseFrom, begun, take]

theorem reads_of_writable {levels : Nat} {value : Json}
    (writable : Writable levels value) : Reads levels value := by
  induction writable with
  | null =>
      intro stack _ rest
      exact parseFrom_cons_of_take rfl rest
  | bool value =>
      intro stack _ rest
      exact parseFrom_cons_of_take rfl rest
  | int fits =>
      intro stack _ rest
      exact parseFrom_cons_of_take rfl rest
  | string value =>
      intro stack _ rest
      exact parseFrom_cons_of_take rfl rest
  | @array levels items each ih =>
      intro stack room rest
      have opened : take stack .value (.symbol '[') =
          .ok (.items [] :: stack, .itemOrEnd) := by
        have below : ¬ depthLimit ≤ stack.length := by omega
        simp [take, beginValue, below]
      rw [lexemes, List.append_assoc, List.cons_append,
        parseFrom_cons_of_take opened, itemLexemes_eq]
      cases items with
      | nil =>
          have closed : take (.items [] :: stack) .itemOrEnd (.symbol ']') =
              .ok (stack, .after (.array [])) := rfl
          exact parseFrom_cons_of_take closed rest
      | cons first items =>
          have nonempty := List.cons_ne_nil first items
          rcases exists_lexemes_eq_cons first with
            ⟨lexeme, others, split, notEnd⟩
          have inside := parseFrom_items room nonempty ih [] rest
          rw [List.map_cons, split, List.intercalate_cons_cons_left,
            List.cons_append] at inside ⊢
          rw [List.singleton_append, parseFrom_itemOrEnd notEnd]
          exact inside
  | @object levels members each ih =>
      intro stack room rest
      have opened : take stack .value (.symbol '{') =
          .ok (stack, .key [] true) := by
        have below : ¬ depthLimit ≤ stack.length := by omega
        simp [take, beginValue, below]
      rw [lexemes, List.append_assoc, List.cons_append,
        parseFrom_cons_of_take opened, memberLexemes_eq]
      cases members with
      | nil =>
          have closed : take stack (.key [] true) (.symbol '}') =
              .ok (stack, .after (.object [])) := rfl
          exact parseFrom_cons_of_take closed rest
      | cons first members =>
          exact parseFrom_members room (List.cons_ne_nil first members) ih
            [] true rest

/-! ## Documents -/

section Documents

variable {document : String} {value : Json}

theorem parse_of_standsFor (writable : Writable depthLimit value)
    (stands : StandsFor document.toList value.lexemes) :
    parse document = .ok value := by
  have lexed : lexFrom .between document.toList = .ok value.lexemes := by
    have alone := stands breaks_nil rfl
    rwa [List.append_nil, List.append_nil] at alone
  have room : ([] : List Frame).length + depthLimit ≤ depthLimit :=
    (Nat.zero_add depthLimit).le
  have read := reads_of_writable writable room []
  rw [List.append_nil] at read
  rw [parse, lexed]
  exact read

/-- A value that is written on one line is read back. -/
theorem parse_compact (writable : Writable depthLimit value) :
    parse value.compact = .ok value := by
  apply parse_of_standsFor writable
  rw [compact, String.toList_ofList]
  exact standsFor_compactChars writable

theorem StandsFor.append_newline (stands : StandsFor document.toList
    value.lexemes) :
    StandsFor (document ++ "\n").toList value.lexemes := by
  rw [String.toList_append]
  exact @append_lineBreak 0 _ _ stands

/-- So it is with a line feed behind it. -/
theorem parse_compact_newline (writable : Writable depthLimit value) :
    parse (value.compact ++ "\n") = .ok value := by
  apply parse_of_standsFor writable
  apply StandsFor.append_newline
  rw [compact, String.toList_ofList]
  exact standsFor_compactChars writable

/-- A value that is spread over lines is read back. -/
theorem parse_pretty_newline (writable : Writable depthLimit value) :
    parse (value.pretty ++ "\n") = .ok value := by
  apply parse_of_standsFor writable
  apply StandsFor.append_newline
  rw [pretty, String.toList_ofList]
  exact standsFor_prettyChars writable 0

end Documents

end MediaHash.Json
