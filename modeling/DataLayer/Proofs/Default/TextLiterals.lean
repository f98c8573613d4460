import DataLayer.Proofs.Default.Layers
import DataLayer.Proofs.Literal.EscapedQuotes

/-!
# Defaults of text columns

The default of a text column is a literal of the database, in which two single quotes stand for one.
Its normal form is a literal of the generated code, in which a backslash stands before a quote. What
is between the quotes at both ends of the expression is taken for the text. So the text is kept
exactly when it has no single quote, no backslash and no line end, and an operation on two literals
becomes one literal.
-/

namespace DataLayer.DefaultExpression

open Text Literal

/-- The text with every single quote doubled. -/
def doubled (text : List Char) : List Char :=
  text.flatMap fun c => if c = '\'' then ['\'', '\''] else [c]

/-- The text for which the content of a database literal stands. There is none when a quote stands
alone, which ends the literal. -/
def undoubled? : List Char → Option (List Char)
  | [] => some []
  | '\'' :: '\'' :: rest => (undoubled? rest).map ('\'' :: ·)
  | c :: rest => if c = '\'' then none else (undoubled? rest).map (c :: ·)

/-- Content between single quotes. -/
def inQuotes (content : List Char) : List Char := '\'' :: (content ++ ['\''])

/-- Content between single quotes, with or without the mark of a Unicode text. -/
def quoted (marked : Bool) (content : List Char) : List Char :=
  if marked then 'N' :: inQuotes content else inQuotes content

/-- An expression that stays as it is, but for a mark in front of a quote. Nothing stays of null. -/
def kept (value : List Char) : Option String :=
  if value.isEmpty || sameIgnoringAsciiCase (String.ofList value) "null" then none
  else some (String.ofList (withoutUnicodeMark value))

section Doubled

/-- A quote is written twice. -/
theorem doubled_quote (rest : List Char) :
    doubled ('\'' :: rest) = '\'' :: '\'' :: doubled rest := rfl

/-- Any other character is written once. -/
theorem doubled_cons {c : Char} (noQuote : c ≠ '\'') (rest : List Char) :
    doubled (c :: rest) = c :: doubled rest := by
  rw [doubled, List.flatMap_cons, if_neg noQuote]
  rfl

/-- A text without quotes is written as it is. -/
theorem doubled_of_free {text : List Char} (free : '\'' ∉ text) : doubled text = text := by
  induction text with
  | nil => rfl
  | cons c rest ih =>
      rw [List.mem_cons, not_or] at free
      rw [doubled_cons (Ne.symm free.1), ih free.2]

/-- A literal has twice the quotes of its text. -/
theorem count_doubled (text : List Char) : (doubled text).count '\'' = 2 * text.count '\'' := by
  induction text with
  | nil => rfl
  | cons c rest ih =>
      by_cases quote : c = '\''
      · subst quote
        rw [doubled_quote, List.count_cons_self, List.count_cons_self, List.count_cons_self, ih]
        omega
      · rw [doubled_cons quote, List.count_cons_of_ne quote, List.count_cons_of_ne quote, ih]

private theorem undoubled?_cons {c : Char} (noQuote : c ≠ '\'') (rest : List Char) :
    undoubled? (c :: rest) = (undoubled? rest).map (c :: ·) := by
  rw [undoubled?, if_neg noQuote]
  exact fun others quote _ => noQuote quote

/-- What was doubled is read back, -/
theorem undoubled?_doubled (text : List Char) : undoubled? (doubled text) = some text := by
  induction text with
  | nil => rfl
  | cons c rest ih =>
      by_cases quote : c = '\''
      · subst quote
        rw [doubled_quote, undoubled?, ih]
        rfl
      · rw [doubled_cons quote, undoubled?_cons quote, ih]
        rfl

/-- and only what was doubled is read at all. -/
theorem eq_doubled {content text : List Char} (read : undoubled? content = some text) :
    content = doubled text := by
  induction content using undoubled?.induct generalizing text with
  | case1 =>
      cases read
      rfl
  | case2 rest ih =>
      rw [undoubled?] at read
      obtain ⟨others, further, rfl⟩ := Option.map_eq_some_iff.mp read
      rw [doubled_quote, ih further]
  | case3 rest alone =>
      rw [undoubled?, if_pos rfl] at read
      · cases read
      · exact alone
  | case4 c rest noPair noQuote ih =>
      rw [undoubled?_cons noQuote] at read
      obtain ⟨others, further, rfl⟩ := Option.map_eq_some_iff.mp read
      rw [doubled_cons noQuote, ih further]

/-- The content of a database literal reads as a text exactly when it is the text with doubled
quotes. -/
theorem undoubled?_eq_some_iff {content text : List Char} :
    undoubled? content = some text ↔ content = doubled text := by
  constructor
  · exact eq_doubled
  · rintro rfl
    exact undoubled?_doubled text

/-- Doubling does not change with what a text begins, -/
theorem head?_doubled (text : List Char) : (doubled text).head? = text.head? := by
  cases text with
  | nil => rfl
  | cons c rest =>
      by_cases quote : c = '\''
      · rw [quote, doubled_quote, List.head?_cons, List.head?_cons]
      · rw [doubled_cons quote, List.head?_cons, List.head?_cons]

/-- nor with what it ends. -/
theorem getLast?_doubled (text : List Char) : (doubled text).getLast? = text.getLast? := by
  rcases List.eq_nil_or_concat text with rfl | ⟨start, c, rfl⟩
  · rfl
  · rw [List.concat_eq_append, doubled, List.flatMap_append, List.flatMap_singleton,
      List.getLast?_append, List.getLast?_concat]
    split
    · rw [‹c = _›]
      rfl
    · rfl

/-- So it puts no white space around a text. -/
theorem unpadded_doubled {text : List Char} (unpadded : Unpadded text) :
    Unpadded (doubled text) where
  first := by
    rw [head?_doubled]
    exact unpadded.first
  last := by
    rw [getLast?_doubled]
    exact unpadded.last

/-- Inside of quotes a doubled quote closes and opens at once. -/
theorem follow_doubled (depth : Nat) (text rest : List Char) :
    follow depth true (doubled text ++ rest) = follow depth true rest := by
  induction text with
  | nil => rfl
  | cons c text ih =>
      by_cases quote : c = '\''
      · subst quote
        exact ih
      · rw [doubled_cons quote, List.cons_append, follow, if_neg quote, if_neg (by simp),
          if_neg (by simp), ih]

/-- Parentheses inside a literal do not count, whatever its text. -/
theorem balanced_quoted (marked : Bool) (text : List Char) :
    Balanced (quoted marked (doubled text)) := by
  have closed : follow 0 true (doubled text ++ ['\'']) = some (0, false) := follow_doubled 0 text _
  cases marked
  · exact closed
  · exact closed

end Doubled

section Quoted

/-- A quoted text has a quote or a mark at either end. -/
theorem unpadded_quoted (marked : Bool) (content : List Char) :
    Unpadded (quoted marked content) := by
  cases marked
  · exact unpadded_between (by decide) (by decide) content
  · exact unpadded_between (by decide) (by decide) ('\'' :: content)

/-- No parentheses stand around what has quotes around it. -/
theorem stripParentheses_quoted (marked : Bool) (content : List Char) :
    stripParentheses (quoted marked content) = quoted marked content := by
  apply stripParentheses_eq_self (unpadded_quoted marked content)
  cases marked <;> rfl

/-- Around a literal all parentheses are stripped, since it is balanced. -/
theorem stripParentheses_of_literal {marked : Bool} {text raw : List Char}
    (enclosed : Enclosed (quoted marked (doubled text)) raw) :
    stripParentheses raw = quoted marked (doubled text) := by
  rw [enclosed.stripParentheses_eq (balanced_quoted marked text), stripParentheses_quoted]

/-- A quoted text shows what is between its quotes. -/
theorem quoted_injective (marked : Bool) : Function.Injective (quoted marked) := by
  intro content other same
  cases marked <;> simpa [quoted, inQuotes] using same

/-- What is between quotes at both ends of a text is found, and nothing else. -/
theorem unquoted?_of_unpadded {value content : List Char} (unpadded : Unpadded value) :
    unquoted? value = some content ↔ value = inQuotes content := by
  rw [unquoted?, unpadded.trimmed_eq]
  constructor
  · intro found
    split at found
    · split at found
      · rename_i rest ends
        obtain ⟨start, rfl⟩ := List.getLast?_eq_some_iff.mp (eq_of_beq ends)
        rw [List.dropLast_concat] at found
        cases found
        rfl
      · cases found
    · cases found
  · rintro rfl
    simp [inQuotes]

/-- The same behind a mark, if there is one. -/
theorem unquoted?_eq_some_iff {value content : List Char} (unpadded : Unpadded value) :
    unquoted? (withoutUnicodeMark value) = some content ↔
      ∃ marked, value = quoted marked content := by
  unfold withoutUnicodeMark
  split
  · rename_i rest
    -- The mark is no blank, and behind it the text ends as before.
    have unmarked : Unpadded ('\'' :: rest) := by
      constructor
      · rintro c ⟨⟩
        decide
      · rw [← List.getLast?_cons_cons (a := 'N')]
        exact unpadded.last
    rw [unquoted?_of_unpadded unmarked]
    constructor
    · exact fun same => ⟨true, congrArg ('N' :: ·) same⟩
    · rintro ⟨marked, same⟩
      cases marked
      · cases same
      · exact (List.cons.inj same).2
  · rw [unquoted?_of_unpadded unpadded]
    constructor
    · exact fun same => ⟨false, same⟩
    · rintro ⟨marked, rfl⟩
      cases marked
      · rfl
      · rename_i noMark
        exact absurd rfl (noMark _)

end Quoted

section Written

/-- The characters of a literal for a text. -/
theorem toList_textLiteral (content : List Char) :
    (textLiteral content).toList = '"' :: (escaped content ++ ['"']) := by
  simp [textLiteral, replaceChar, escaped]

/-- Only double quotes are escaped, so the single ones stay. -/
theorem count_escaped (text : List Char) : (escaped text).count '\'' = text.count '\'' := by
  induction text with
  | nil => rfl
  | cons c rest ih =>
      by_cases quote : c = '"'
      · subst quote
        rw [escaped_quote, List.count_cons_of_ne (by decide), List.count_cons_of_ne (by decide),
          List.count_cons_of_ne (by decide), ih]
      · rw [escaped_cons quote, List.count_cons, List.count_cons, ih]

/-- A literal that is made from a doubled text denotes the text exactly when nothing was doubled, no
backslash escapes what follows it, and no line ends inside. -/
theorem denotes_textLiteral_doubled_iff (text : List Char) :
    Denotes (textLiteral (doubled text)) text ↔
      ∀ c ∈ text, c ≠ '\'' ∧ c ≠ '\\' ∧ c ∉ lineEnds := by
  have written : Denotes (textLiteral (doubled text)) text ↔
      readPlain? .text (escaped (doubled text) ++ ['"']) = some (units text, []) := by
    rw [Denotes, toList_textLiteral]
    rfl
  rw [written]
  constructor
  · intro finished
    -- Each quote of the text is written twice, but the text has a unit for each only once.
    have few := readPlain?_apostrophes finished
    rw [List.count_append, count_escaped, count_doubled, count_units, List.count_nil] at few
    have free : '\'' ∉ text := List.count_eq_zero.mp (by omega)
    rw [doubled_of_free free, readPlain?_escaped_iff] at finished
    exact fun c member => ⟨fun quote => free (quote ▸ member), finished c member⟩
  · intro plain
    have free : '\'' ∉ text := fun member => (plain _ member).1 rfl
    rw [doubled_of_free free, readPlain?_escaped_iff]
    exact fun c member => (plain c member).2

end Written

section Normalize

variable {raw : String} {dbType : String} {nullable : Bool} {length : Int}

/-- A text default is only empty when the expression is. -/
theorem isEmpty_characterForm (value : List Char) (nullable : Bool) (length : Int) :
    (characterForm value nullable length).isEmpty = value.isEmpty := by
  cases value with
  | nil => rfl
  | cons c rest =>
      rw [List.isEmpty_cons, ← Bool.not_eq_true, String.isEmpty_iff, ← String.toList_inj]
      unfold characterForm
      dsimp only
      split
      · split
        · simp [characterLiteral]
        · simp [toList_textLiteral]
      · unfold withoutUnicodeMark
        split <;> simp

/-- The default of a column of texts depends on the stripped text alone. -/
theorem normalize_character (character : characterTypes.contains (lower dbType) = true)
    {value : List Char} (stripped : stripParentheses raw.toList = value) :
    normalize (some raw) dbType nullable length =
      if value.isEmpty || sameIgnoringAsciiCase (String.ofList value) "null" then none
      else some (characterForm value nullable length) := by
  have noBit : lower dbType ≠ "bit" := by
    intro bit
    rw [bit] at character
    exact absurd character (by decide)
  have formed :
      form value (lower dbType) nullable length = characterForm value nullable length := by
    rw [form, if_neg noBit, if_pos character]
  subst stripped
  rw [normalize_some]
  dsimp only
  rw [formed, isEmpty_characterForm]
  cases blank : (trimmed raw.toList).isEmpty
  · rw [Bool.false_or, Bool.or_comm]
  · rw [stripParentheses_of_blank blank]
    rfl

/-- A quoted text is never taken for null, not even that of the word. -/
theorem not_null_quoted (marked : Bool) (content : List Char) :
    sameIgnoringAsciiCase (String.ofList (quoted marked content)) "null" = false := by
  cases marked <;> simp [quoted, inQuotes, sameIgnoringAsciiCase]

/-- An expression between quotes would stay as it is without its mark. -/
theorem kept_quoted (marked : Bool) (content : List Char) :
    kept (quoted marked content) = some (String.ofList (inQuotes content)) := by
  rw [kept, not_null_quoted]
  cases marked <;> rfl

/-- Between quotes stands the content of a literal: of a character where there is room for no more
than one and it cannot be null, else of a text. -/
theorem normalize_quoted (character : characterTypes.contains (lower dbType) = true)
    {marked : Bool} {content : List Char}
    (stripped : stripParentheses raw.toList = quoted marked content) :
    normalize (some raw) dbType nullable length =
      some (if !nullable && length == 1 then characterLiteral (trimmed content)
        else textLiteral (trimmed content)) := by
  have found : unquoted? (withoutUnicodeMark (quoted marked content)) = some content :=
    (unquoted?_eq_some_iff (unpadded_quoted marked content)).mpr ⟨marked, rfl⟩
  rw [normalize_character character stripped, not_null_quoted, characterForm, found]
  cases marked <;> rfl

/-- Where there is room for more than one character, what is between the quotes becomes a literal.
-/
theorem normalize_quoted_wide (character : characterTypes.contains (lower dbType) = true)
    (wide : nullable = true ∨ length ≠ 1) {marked : Bool} {content : List Char}
    (stripped : stripParentheses raw.toList = quoted marked content) :
    normalize (some raw) dbType nullable length = some (textLiteral (trimmed content)) := by
  have wider : ¬(!nullable && length == 1) = true := by
    rcases wide with rfl | long
    · simp
    · simp [long]
  rw [normalize_quoted character stripped, if_neg wider]

/-- What becomes of the defaults of a column whose values are texts. -/
structure TextDefaults (dbType : String) (nullable : Bool) (length : Int) : Prop where
  /-- A single literal for a text without white space around it becomes a literal. It denotes the
  text exactly when this has no single quote, no backslash and no line end. -/
  literal : ∀ {raw : String} {marked : Bool} {text : List Char}, Unpadded text →
    Enclosed (quoted marked (doubled text)) raw.toList →
      normalize (some raw) dbType nullable length = some (textLiteral (doubled text)) ∧
        (Denotes (textLiteral (doubled text)) text ↔
          ∀ c ∈ text, c ≠ '\'' ∧ c ≠ '\\' ∧ c ∉ lineEnds)
  /-- An expression stays exactly when it has no quotes at both ends. -/
  expression : ∀ {raw : String} {value : List Char}, stripParentheses raw.toList = value →
    (normalize (some raw) dbType nullable length = kept value ↔
      ∀ marked content, value ≠ quoted marked content)
  /-- With quotes at both ends it becomes a literal, whether it is a single literal of the database
  or quotes stand alone inside. -/
  between : ∀ {raw : String} {marked : Bool} {content : List Char},
    stripParentheses raw.toList = quoted marked content →
      normalize (some raw) dbType nullable length = some (textLiteral (trimmed content)) ∧
        ((∃ text, Enclosed (quoted marked (doubled text)) raw.toList) ↔
          (undoubled? content).isSome = true)

/-- What becomes of the defaults of a column of texts that may be null or has room for more than one
character. -/
theorem textDefaults (character : characterTypes.contains (lower dbType) = true)
    (wide : nullable = true ∨ length ≠ 1) : TextDefaults dbType nullable length where
  literal := by
    intro raw marked text unpadded enclosed
    have stripped := stripParentheses_of_literal enclosed
    refine ⟨?_, denotes_textLiteral_doubled_iff text⟩
    rw [normalize_quoted_wide character wide stripped, (unpadded_doubled unpadded).trimmed_eq]
  expression := by
    intro raw value stripped
    constructor
    · rintro stays marked content rfl
      rw [normalize_quoted_wide character wide stripped, kept_quoted, Option.some_inj,
        ← String.toList_inj, toList_textLiteral, String.toList_ofList] at stays
      cases stays
    · intro others
      have unpadded : Unpadded value := stripped ▸ unpadded_stripParentheses _
      -- What is no literal has no quotes to take off, so it is kept.
      have missing : unquoted? (withoutUnicodeMark value) = none := by
        apply Option.eq_none_iff_forall_ne_some.mpr
        intro content found
        obtain ⟨marked, same⟩ := (unquoted?_eq_some_iff unpadded).mp found
        exact others marked content same
      rw [normalize_character character stripped, kept, characterForm, missing]
  between := by
    intro raw marked content stripped
    refine ⟨normalize_quoted_wide character wide stripped, ?_⟩
    rw [Option.isSome_iff_exists]
    constructor
    · rintro ⟨text, enclosed⟩
      refine ⟨text, undoubled?_eq_some_iff.mpr (quoted_injective marked ?_)⟩
      rw [← stripped, stripParentheses_of_literal enclosed]
    · rintro ⟨text, read⟩
      refine ⟨text, ?_⟩
      rw [← undoubled?_eq_some_iff.mp read, ← stripped]
      exact enclosed_stripParentheses raw.toList

/-- A marked literal with double quotes in its text, in a column whose type is written in capitals
too. -/
theorem textDefaults_marked :
    normalize (some "(N'say \"hi\"') ") "NVarChar" false 50 =
        some (textLiteral "say \"hi\"".toList) ∧
      Denotes (textLiteral "say \"hi\"".toList) "say \"hi\"".toList := by
  have literal : Enclosed (quoted true (doubled "say \"hi\"".toList)) "N'say \"hi\"'".toList :=
    .core
  have layers : Enclosed (quoted true (doubled "say \"hi\"".toList)) "(N'say \"hi\"') ".toList :=
    @Enclosed.inBlanks _ [] _ [' '] (by decide) (.inParentheses literal) (by decide)
  have unpadded : Unpadded "say \"hi\"".toList :=
    unpadded_between (by decide) (by decide) "ay \"hi".toList
  have defaults : TextDefaults "NVarChar" false 50 := textDefaults (by decide) (.inr (by decide))
  obtain ⟨written, denotes⟩ := defaults.literal unpadded layers
  exact ⟨written, denotes.mpr (by simp [lineEnds])⟩

/-- A doubled quote stays doubled in the literal, a backslash begins an escape, and an operation on
two literals is taken for one. -/
theorem textDefaults_lost :
    normalize (some "'it''s'") "varchar" true 50 = some "\"it''s\"" ∧
      ¬ Denotes "\"it''s\"" "it's".toList ∧
    normalize (some "'a\\b'") "varchar" true 50 = some "\"a\\b\"" ∧
      ¬ Denotes "\"a\\b\"" "a\\b".toList ∧
    normalize (some "'a' + 'b'") "varchar" true 50 = some "\"a' + 'b\"" ∧
      undoubled? "a' + 'b".toList = none := by
  have taken (content : List Char) :
      normalize (some (String.ofList (quoted false content))) "varchar" true 50 =
        some (textLiteral (trimmed content)) :=
    normalize_quoted_wide (by decide) (.inl rfl)
      (by rw [String.toList_ofList, stripParentheses_quoted])
  exact ⟨taken "it''s".toList, by decide, taken "a\\b".toList, by decide,
    taken "a' + 'b".toList, by decide⟩

end Normalize

end DataLayer.DefaultExpression
