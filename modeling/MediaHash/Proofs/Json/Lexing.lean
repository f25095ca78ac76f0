import MediaHash.Proofs.Items.Steps
import MediaHash.Proofs.Json.Numerals

/-!
# Lexemes of written JSON

A stretch of a document stands for lexemes if they are taken from it whatever
comes behind it.  Only a number or a word needs a break behind it, since a
letter or a digit there would belong to it.

Stretches that stand for lexemes stand for them one after the other, so that
the lexemes of a document are known from those of its parts.
-/

namespace MediaHash.Json

/-! ## Steps -/

theorem lexFrom_cons_of_step {state next : LexState} {letter : Char}
    (taken : step state letter = .ok ([], next)) (rest : List Char) :
    lexFrom state (letter :: rest) = lexFrom next rest := by
  rw [lexFrom, taken]
  show (lexFrom next rest >>= fun later => .ok later) = lexFrom next rest
  cases lexFrom next rest with
  | error fault => rfl
  | ok later => rfl

theorem lexFrom_cons_of_emit {state next : LexState} {letter : Char}
    {lexemes later : List Lexeme} {rest : List Char}
    (taken : step state letter = .ok (lexemes, next))
    (lexed : lexFrom next rest = .ok later) :
    lexFrom state (letter :: rest) = .ok (lexemes ++ later) := by
  rw [lexFrom, taken]
  show (lexFrom next rest >>= fun later => .ok (lexemes ++ later)) = _
  rw [lexed]
  rfl

/-! ## Stretches -/

/-- No letter or digit begins the text. -/
def Breaks (text : List Char) : Prop :=
  ∀ letter ∈ text.head?, isBare letter = false

theorem breaks_nil : Breaks [] := by
  rintro letter ⟨⟩

theorem breaks_cons {letter : Char} (notBare : isBare letter = false)
    (rest : List Char) : Breaks (letter :: rest) := by
  intro first isFirst
  rw [← Option.some.inj isFirst]
  exact notBare

/-- The stretch gives the lexemes whatever follows behind a break. -/
def StandsFor (written : List Char) (lexemes : List Lexeme) : Prop :=
  ∀ ⦃rest later⦄, Breaks rest → lexFrom .between rest = .ok later →
    lexFrom .between (written ++ rest) = .ok (lexemes ++ later)

theorem StandsFor.append {written more : List Char}
    {lexemes others : List Lexeme} (stands : StandsFor written lexemes)
    (breaks : Breaks more) (moreStands : StandsFor more others) :
    StandsFor (written ++ more) (lexemes ++ others) := by
  intro rest later restBreaks lexed
  rw [List.append_assoc, List.append_assoc]
  refine stands ?_ (moreStands restBreaks lexed)
  cases more with
  | nil => exact restBreaks
  | cons letter more => exact breaks_cons (breaks letter rfl) (more ++ rest)

/-! ## Marks and spaces -/

theorem mem_of_isSymbol {letter : Char} (mark : isSymbol letter = true) :
    letter ∈ ['{', '}', '[', ']', ',', ':'] := by
  simpa [isSymbol, or_assoc] using mark

theorem mem_of_isSpace {letter : Char} (space : isSpace letter = true) :
    letter ∈ [' ', '\t', '\n', '\r'] := by
  simpa [isSpace, or_assoc] using space

theorem begin_of_isSymbol {letter : Char} (mark : isSymbol letter = true) :
    begin letter = .ok ([.symbol letter], .between) := by
  have apart : ∀ other ∈ ['{', '}', '[', ']', ',', ':'],
      isSpace other = false ∧ other ≠ '\x22' := by
    simp [isSpace]
  rcases apart letter (mem_of_isSymbol mark) with ⟨notSpace, notQuote⟩
  simp [begin, notSpace, notQuote, mark]

theorem standsFor_nil : StandsFor [] [] :=
  fun _ _ _ lexed => lexed

/-- A bracket, a comma or a colon stands for itself. -/
theorem StandsFor.symbol_cons {letter : Char} {written : List Char}
    {lexemes : List Lexeme} (mark : isSymbol letter = true)
    (stands : StandsFor written lexemes) :
    StandsFor (letter :: written) (.symbol letter :: lexemes) := by
  have taken : step .between letter = .ok ([.symbol letter], .between) :=
    begin_of_isSymbol mark
  intro rest later breaks lexed
  have emitted := lexFrom_cons_of_emit taken (stands breaks lexed)
  exact emitted

theorem StandsFor.spaces_append {spaces written : List Char}
    {lexemes : List Lexeme}
    (blank : ∀ letter ∈ spaces, isSpace letter = true)
    (stands : StandsFor written lexemes) :
    StandsFor (spaces ++ written) lexemes := by
  intro rest later breaks lexed
  induction spaces with
  | nil => exact stands breaks lexed
  | cons letter spaces ih =>
      rcases List.forall_mem_cons.mp blank with ⟨here, others⟩
      have taken : step .between letter = .ok ([], .between) := if_pos here
      rw [List.append_assoc, List.cons_append, lexFrom_cons_of_step taken,
        ← List.append_assoc]
      exact ih others

/-! ## Numbers and words -/

theorem begin_of_isBare {letter : Char} (bare : isBare letter = true) :
    begin letter = .ok ([], .bare [letter]) := by
  have notSpace : isSpace letter = false := by
    have apart : ∀ other ∈ [' ', '\t', '\n', '\r'], isBare other = false := by
      simp [isBare]
    rw [Bool.eq_false_iff]
    intro space
    simp [apart letter (mem_of_isSpace space)] at bare
  have notQuote : letter ≠ '\x22' := by
    rintro rfl
    exact absurd bare (by decide)
  have notSymbol : isSymbol letter = false := by
    have apart : ∀ other ∈ ['{', '}', '[', ']', ',', ':'],
        isBare other = false := by
      simp [isBare]
    rw [Bool.eq_false_iff]
    intro mark
    simp [apart letter (mem_of_isSymbol mark)] at bare
  simp [begin, notSpace, notQuote, notSymbol, bare]

theorem lexFrom_bare (taken : List Char) {written : List Char}
    (bare : ∀ letter ∈ written, isBare letter = true) (rest : List Char) :
    lexFrom (.bare taken) (written ++ rest) =
      lexFrom (.bare (written.reverse ++ taken)) rest := by
  induction written generalizing taken with
  | nil => rfl
  | cons letter written ih =>
      rcases List.forall_mem_cons.mp bare with ⟨here, others⟩
      have longer : step (.bare taken) letter =
          .ok ([], .bare (letter :: taken)) := if_pos here
      rw [List.cons_append, lexFrom_cons_of_step longer, ih _ others,
        List.reverse_cons, List.append_assoc, List.singleton_append]

/-- A run of letters and digits ends where a break follows. -/
theorem lexFrom_bare_of_breaks {taken rest : List Char} {value : Json}
    {later : List Lexeme} (spelled : literal taken.reverse = .ok value)
    (breaks : Breaks rest) (lexed : lexFrom .between rest = .ok later) :
    lexFrom (.bare taken) rest = .ok (.scalar value :: later) := by
  cases rest with
  | nil =>
      cases lexed
      rw [lexFrom, finish, spelled]
      rfl
  | cons letter rest =>
      rw [lexFrom] at lexed
      rcases bind_eq_ok_iff.mp lexed with ⟨⟨lexemes, next⟩, begun, continued⟩
      rcases bind_eq_ok_iff.mp continued with ⟨others, tail, joined⟩
      have ended : step (.bare taken) letter =
          .ok (.scalar value :: lexemes, next) := by
        have begun : begin letter = .ok (lexemes, next) := begun
        simp [step, breaks letter rfl, spelled, begun, bind, Except.bind]
      rw [lexFrom_cons_of_emit ended tail, ← Except.ok.inj joined]
      rfl

theorem standsFor_bare {written : List Char} {value : Json}
    (bare : ∀ letter ∈ written, isBare letter = true)
    (spelled : literal written = .ok value) :
    StandsFor written [.scalar value] := by
  intro rest later breaks lexed
  cases written with
  | nil => cases spelled
  | cons letter written =>
      rcases List.forall_mem_cons.mp bare with ⟨here, others⟩
      have begun : step .between letter = .ok ([], .bare [letter]) :=
        begin_of_isBare here
      rw [List.cons_append, lexFrom_cons_of_step begun,
        lexFrom_bare [letter] others]
      apply lexFrom_bare_of_breaks _ breaks lexed
      simpa using spelled

theorem isBare_of_mem_signedNumeral {value : Int} {letter : Char}
    (member : letter ∈ Text.signedNumeral value) : isBare letter = true := by
  have digits (number : Nat) (inNumeral : letter ∈ Text.numeral number) :
      isBare letter = true := by
    simp [isBare, Char.isAlphanum, Text.isDigit_of_mem_numeral inNumeral]
  cases value with
  | ofNat number => exact digits number member
  | negSucc number =>
      rcases List.mem_cons.mp member with rfl | inNumeral
      · rfl
      · exact digits _ inNumeral

theorem standsFor_int {value : Int} (fits : FitsWord value) :
    StandsFor (Text.signedNumeral value) [.scalar (.int value)] :=
  standsFor_bare (fun _ => isBare_of_mem_signedNumeral)
    (literal_signedNumeral fits)

/-! ## Texts -/

/-- The four digits of a code for a control character. -/
def codeDigits (letter : Char) : List Char :=
  ['0', '0', Text.hexDigit (letter.toNat / 16),
    Text.hexDigit (letter.toNat % 16)]

/-- A character is written behind a backslash, by its code, or as it is. -/
inductive Escapes (letter : Char) : List Char → Prop
  | mark {mark : Char} (notCode : mark ≠ 'u')
      (meant : unescape? mark = some letter) :
      Escapes letter ['\\', mark]
  | code (control : letter.toNat < 0x20) :
      Escapes letter ('\\' :: 'u' :: codeDigits letter)
  | plain (notQuote : letter ≠ '\x22') (notBackslash : letter ≠ '\\')
      (notControl : ¬ letter.toNat < 0x20) :
      Escapes letter [letter]

theorem escapes_escape (letter : Char) : Escapes letter (escape letter) := by
  rw [escape]
  split
  next isQuote => exact .mark (by decide) (by rw [isQuote]; rfl)
  next notQuote =>
  split
  next isBackslash => exact .mark (by decide) (by rw [isBackslash]; rfl)
  next notBackslash =>
  split
  next isFeed => exact .mark (by decide) (by rw [isFeed]; rfl)
  split
  next isReturn => exact .mark (by decide) (by rw [isReturn]; rfl)
  split
  next isTab => exact .mark (by decide) (by rw [isTab]; rfl)
  split
  next isBackspace => exact .mark (by decide) (by rw [isBackspace]; rfl)
  split
  next isFormFeed => exact .mark (by decide) (by rw [isFormFeed]; rfl)
  split
  next control => exact .code control
  next notControl => exact .plain notQuote notBackslash notControl

theorem lexFrom_mark {mark letter : Char} (notCode : mark ≠ 'u')
    (meant : unescape? mark = some letter) (taken rest : List Char) :
    lexFrom (.quoted taken) ('\\' :: mark :: rest) =
      lexFrom (.quoted (letter :: taken)) rest := by
  have opened : step (.quoted taken) '\\' = .ok ([], .escape taken) := rfl
  have closed : step (.escape taken) mark =
      .ok ([], .quoted (letter :: taken)) := by
    simp [step, notCode, meant]
  rw [lexFrom_cons_of_step opened, lexFrom_cons_of_step closed]

theorem takeCode_of_control {letter : Char} (control : letter.toNat < 0x20)
    (taken : List Char) :
    takeCode taken none (16 * (letter.toNat / 16) + letter.toNat % 16) =
      .ok (.quoted (letter :: taken)) := by
  have notHigh : ¬ (0xD800 ≤ letter.toNat ∧ letter.toNat ≤ 0xDBFF) := by
    omega
  have notLow : ¬ (0xDC00 ≤ letter.toNat ∧ letter.toNat ≤ 0xDFFF) := by
    omega
  rw [Nat.div_add_mod, takeCode, if_neg notHigh, if_neg notLow,
    Char.ofNat_toNat]

theorem lexFrom_code {letter : Char} (control : letter.toNat < 0x20)
    (taken rest : List Char) :
    lexFrom (.quoted taken) ('\\' :: 'u' :: (codeDigits letter ++ rest)) =
      lexFrom (.quoted (letter :: taken)) rest := by
  have high := Text.hexValue?_hexDigit
    (show letter.toNat / 16 < 16 by omega)
  have low := Text.hexValue?_hexDigit
    (show letter.toNat % 16 < 16 by omega)
  have opened : step (.quoted taken) '\\' = .ok ([], .escape taken) := rfl
  have coded : step (.escape taken) 'u' =
      .ok ([], .code taken none 4 0) := rfl
  have first : step (.code taken none 4 0) '0' =
      .ok ([], .code taken none 3 0) := rfl
  have second : step (.code taken none 3 0) '0' =
      .ok ([], .code taken none 2 0) := rfl
  have third : step (.code taken none 2 0)
      (Text.hexDigit (letter.toNat / 16)) =
        .ok ([], .code taken none 1 (letter.toNat / 16)) := by
    simp [step, high]
  have fourth : step (.code taken none 1 (letter.toNat / 16))
      (Text.hexDigit (letter.toNat % 16)) =
        .ok ([], .quoted (letter :: taken)) := by
    simp [step, low, takeCode_of_control control, bind, Except.bind]
  rw [lexFrom_cons_of_step opened, lexFrom_cons_of_step coded]
  simp only [codeDigits, List.cons_append, List.nil_append]
  rw [lexFrom_cons_of_step first, lexFrom_cons_of_step second,
    lexFrom_cons_of_step third, lexFrom_cons_of_step fourth]

/-- What a character is written as is read as that character. -/
theorem lexFrom_of_escapes {letter : Char} {written : List Char}
    (escapes : Escapes letter written) (taken rest : List Char) :
    lexFrom (.quoted taken) (written ++ rest) =
      lexFrom (.quoted (letter :: taken)) rest := by
  cases escapes with
  | mark notCode meant => exact lexFrom_mark notCode meant taken rest
  | code control => exact lexFrom_code control taken rest
  | plain notQuote notBackslash notControl =>
      have kept : step (.quoted taken) letter =
          .ok ([], .quoted (letter :: taken)) := by
        simp [step, notQuote, notBackslash, notControl]
      exact lexFrom_cons_of_step kept rest

theorem lexFrom_escaped (letters taken rest : List Char) :
    lexFrom (.quoted taken) (letters.flatMap escape ++ rest) =
      lexFrom (.quoted (letters.reverse ++ taken)) rest := by
  induction letters generalizing taken with
  | nil => rfl
  | cons letter letters ih =>
      rw [List.flatMap_cons, List.append_assoc,
        lexFrom_of_escapes (escapes_escape letter), ih, List.reverse_cons,
        List.append_assoc, List.singleton_append]

theorem standsFor_quoted (text : String) :
    StandsFor (quoted text) [.string text] := by
  intro rest later _ lexed
  have opened : step .between '\x22' = .ok ([], .quoted []) := rfl
  have closed : step (.quoted text.toList.reverse) '\x22' =
      .ok ([.string text], .between) := by
    simp [step]
  rw [quoted, List.append_assoc, List.cons_append,
    lexFrom_cons_of_step opened, lexFrom_escaped, List.append_nil]
  exact lexFrom_cons_of_emit closed lexed

end MediaHash.Json
