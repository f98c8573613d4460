import DataLayer.Proofs.Default.Arithmetic
import DataLayer.Proofs.Default.Layers

/-!
# Defaults of numeric columns

The default of a numeric column loses all its parentheses. It keeps its value if it reads the same
without them, and loses it where they held a sum together or kept two minus signs apart.
-/

namespace DataLayer.DefaultExpression

open Text

section WithoutParentheses

variable {text core : List Char}

/-- Parentheses are dropped from each part of a text. -/
theorem withoutParentheses_append (first second : List Char) :
    withoutParentheses (first ++ second) = withoutParentheses first ++ withoutParentheses second :=
  List.filter_append ..

/-- Parentheses around a text are dropped with those in it. -/
theorem withoutParentheses_inParentheses (text : List Char) :
    withoutParentheses ('(' :: (text ++ [')'])) = withoutParentheses text := by
  rw [withoutParentheses, List.filter_cons_of_neg (by decide), List.filter_append]
  exact List.append_nil _

/-- White space loses nothing. -/
theorem withoutParentheses_of_blank (blank : Blank text) : withoutParentheses text = text := by
  refine List.filter_eq_self.mpr fun c member => ?_
  have opens : c ≠ '(' := ne_of_isBlank (blank c member) (by decide)
  have closes : c ≠ ')' := ne_of_isBlank (blank c member) (by decide)
  simp [opens, closes]

/-- What stripping takes off is taken off with all parentheses anyway. -/
theorem Enclosed.trimmed_withoutParentheses (enclosed : Enclosed core text) :
    trimmed (withoutParentheses text) = trimmed (withoutParentheses core) := by
  induction enclosed with
  | core => rfl
  | inBlanks blankBefore _ blankAfter ih =>
      rw [withoutParentheses_append, withoutParentheses_append,
        withoutParentheses_of_blank blankBefore, withoutParentheses_of_blank blankAfter,
        trimmed_inBlanks blankBefore blankAfter, ih]
  | inParentheses _ ih => rw [withoutParentheses_inParentheses, ih]

/-- Where all parentheses are dropped, it does not matter that the outer ones were stripped before.
-/
theorem trimmed_withoutParentheses_stripParentheses (text : List Char) :
    trimmed (withoutParentheses (stripParentheses text)) = trimmed (withoutParentheses text) :=
  (enclosed_stripParentheses text).trimmed_withoutParentheses.symm

end WithoutParentheses

section EndsInDigit

variable {text : List Char}

/-- The last visible character is a digit. -/
def EndsInDigit (text : List Char) : Prop :=
  ∃ start digit behind, text = start ++ [digit] ++ behind ∧ isAsciiDigit digit = true ∧
    Blank behind

/-- What stands in front does not change the end of a text. -/
theorem EndsInDigit.behind (ends : EndsInDigit text) (before : List Char) :
    EndsInDigit (before ++ text) := by
  obtain ⟨start, digit, behind, rfl, isDigit, blank⟩ := ends
  exact ⟨before ++ start, digit, behind, by simp, isDigit, blank⟩

/-- White space behind a text does not change what its last visible character is. -/
theorem EndsInDigit.append_blank {blanks : List Char} (ends : EndsInDigit text)
    (blank : Blank blanks) : EndsInDigit (text ++ blanks) := by
  obtain ⟨start, digit, behind, rfl, isDigit, blankBehind⟩ := ends
  exact ⟨start, digit, behind ++ blanks, by simp, isDigit,
    List.forall_mem_append.mpr ⟨blankBehind, blank⟩⟩

/-- Behind the last digit there is nothing but white space to take off. -/
theorem EndsInDigit.exists_trimmed (ends : EndsInDigit text) :
    ∃ start digit, trimmed text = start ++ [digit] ∧ isAsciiDigit digit = true := by
  obtain ⟨start, digit, behind, rfl, isDigit, blank⟩ := ends
  have visible : isBlank digit = false := (Arithmetic.digit_apart isDigit).1
  have inBlanks := @trimmed_inBlanks [] (start ++ [digit]) behind (by simp [Blank]) blank
  rw [List.nil_append] at inBlanks
  refine ⟨start.dropWhile isBlank, digit, ?_, isDigit⟩
  rw [inBlanks, trimmed, List.dropWhile_append]
  split
  · rename_i nothing
    rw [List.isEmpty_iff.mp nothing, List.dropWhile_cons_of_neg (by simp [visible])]
    simp [visible]
  · simp [visible]

/-- What has a digit in it is not null. -/
theorem not_null_of_digit {value : List Char} {digit : Char} (isDigit : isAsciiDigit digit = true)
    (member : digit ∈ value) : sameIgnoringAsciiCase (String.ofList value) "null" = false := by
  rw [← Bool.not_eq_true, sameIgnoringAsciiCase, String.toList_ofList, beq_iff_eq]
  intro same
  have letter : digit.toLower ∈ "null".toList.map Char.toLower := by
    rw [← same]
    exact List.mem_map_of_mem member
  exact of_isAsciiDigit (fun c => c.toLower ∉ "null".toList.map Char.toLower) (by decide) isDigit
    letter

end EndsInDigit

namespace Arithmetic

section Ungrouped

variable {expression : Arithmetic}

/-- Parentheses in a tree do not change its value; they only keep the text from being read as
another tree. -/
theorem value_ungrouped (expression : Arithmetic) :
    expression.ungrouped.value = expression.value := by
  induction expression with
  | literal digits => rfl
  | negated operand ih => rw [ungrouped, value, ih, value]
  | sum left right ihLeft ihRight => rw [ungrouped, value, ihLeft, ihRight, value]
  | difference left right ihLeft ihRight => rw [ungrouped, value, ihLeft, ihRight, value]
  | product left right ihLeft ihRight => rw [ungrouped, value, ihLeft, ihRight, value]
  | grouped inside ih => rw [ungrouped, ih, value]
  | padded before inside after ih => rw [ungrouped, value, ih, value]

/-- Without its parentheses the text is that of the tree without them. -/
theorem Readable.text_ungrouped (readable : expression.Readable) :
    expression.ungrouped.text = withoutParentheses expression.text := by
  induction readable with
  | literal _ plain =>
      refine (List.filter_eq_self.mpr fun c member => ?_).symm
      -- Digits are no parentheses, so nothing is removed from a literal.
      have apart := (digit_apart (plain c member)).2
      simp only [List.mem_cons, not_or] at apart
      simp [apart]
  | negated _ _ _ ih => rw [ungrouped, text, text, ih]; rfl
  | sum _ _ ihLeft ihRight =>
      rw [ungrouped, text, text, ihLeft, ihRight, withoutParentheses_append]
      rfl
  | difference _ _ _ _ ihLeft ihRight =>
      rw [ungrouped, text, text, ihLeft, ihRight, withoutParentheses_append]
      rfl
  | product _ _ _ _ ihLeft ihRight =>
      rw [ungrouped, text, text, ihLeft, ihRight, withoutParentheses_append]
      rfl
  | grouped _ ih => rw [ungrouped, text, ih, withoutParentheses_inParentheses]
  | padded blankBefore _ blankAfter ih =>
      rw [ungrouped, text, text, ih, withoutParentheses_append, withoutParentheses_append,
        withoutParentheses_of_blank blankBefore, withoutParentheses_of_blank blankAfter]

/-- Without its parentheses, an expression ends in a digit. -/
theorem Readable.endsInDigit (readable : expression.Readable) :
    EndsInDigit expression.ungrouped.text := by
  induction readable with
  | @literal digits some plain =>
      refine ⟨digits.dropLast, digits.getLast some, [], ?_, plain _ (List.getLast_mem some),
        by simp [Blank]⟩
      rw [List.append_nil, List.dropLast_concat_getLast]
      rfl
  | negated _ _ _ ih => exact ih.behind ['-']
  | @sum left _ _ _ _ ih =>
      simpa [ungrouped, text] using ih.behind (left.ungrouped.text ++ ['+'])
  | @difference left _ _ _ _ _ _ ih =>
      simpa [ungrouped, text] using ih.behind (left.ungrouped.text ++ ['-'])
  | @product left _ _ _ _ _ _ ih =>
      simpa [ungrouped, text] using ih.behind (left.ungrouped.text ++ ['*'])
  | grouped _ ih => exact ih
  | @padded before _ _ _ _ blankAfter ih => exact (ih.behind before).append_blank blankAfter

/-- Arithmetic has no place for the session number. -/
theorem Readable.noPattern (readable : expression.Readable) : '@' ∉ expression.text := by
  have blanks {text : List Char} (blank : Blank text) : '@' ∉ text :=
    fun member => absurd (blank _ member) (by decide)
  induction readable with
  | literal _ plain => exact fun member => absurd (plain _ member) (by decide)
  | negated _ _ _ ih => simpa [text] using ih
  | sum _ _ ihLeft ihRight => simp [text, ihLeft, ihRight]
  | difference _ _ _ _ ihLeft ihRight => simp [text, ihLeft, ihRight]
  | product _ _ _ _ ihLeft ihRight => simp [text, ihLeft, ihRight]
  | grouped _ ih => simp [text, ih]
  | padded blankBefore _ blankAfter ih =>
      simp [text, ih, blanks blankBefore, blanks blankAfter]

end Ungrouped

end Arithmetic

section Numeric

/-- Types whose defaults are written as whole numbers. -/
def integerTypes : List String := ["bigint", "int", "smallint", "tinyint"]

/-- What marks the last number in the default of a numeric column. -/
def numberMark? (dbType : String) : Option (List Char) :=
  if integerTypes.contains dbType then some []
  else if decimalTypes.contains dbType then some ['m']
  else none

/-- Nothing is replaced in a text without the first character of the pattern. -/
theorem replacePattern_of_free {first : Char} {more replacement text : List Char}
    (free : first ∉ text) : replacePattern first more replacement text = text := by
  induction text with
  | nil => rw [replacePattern]
  | cons c rest ih =>
      rw [List.mem_cons, not_or] at free
      rw [replacePattern, if_neg fun begins => free.1 begins.1.symm, ih free.2]

/-- A default without a session number only loses its parentheses and the white space around it. -/
theorem plainForm_of_free {value : List Char}
    (free : '@' ∉ trimmed (withoutParentheses value)) :
    plainForm value = String.ofList (trimmed (withoutParentheses value)) := by
  rw [← String.toList_inj, toList_plainForm, replacePattern_of_free free, String.toList_ofList]

/-- The types of numbers are those of whole numbers, without a mark, and the decimal ones with
theirs. -/
theorem numberMark?_cases {dbType : String} {mark : List Char}
    (numeric : numberMark? dbType = some mark) :
    dbType ∈ integerTypes ∧ mark = [] ∨ dbType ∈ decimalTypes ∧ mark = ['m'] := by
  unfold numberMark? at numeric
  split at numeric
  · exact .inl ⟨List.contains_iff_mem.mp ‹_›, (Option.some.inj numeric).symm⟩
  · split at numeric
    · exact .inr ⟨List.contains_iff_mem.mp ‹_›, (Option.some.inj numeric).symm⟩
    · cases numeric

/-- All numeric defaults are written alike, but for the mark. -/
theorem form_numeric {value mark : List Char} {dbType : String} {nullable : Bool} {length : Int}
    (numeric : numberMark? dbType = some mark)
    (free : '@' ∉ trimmed (withoutParentheses value)) :
    form value dbType nullable length =
      String.ofList (trimmed (withoutParentheses value) ++ mark) := by
  have listed : ∀ name ∈ integerTypes ++ decimalTypes, name ≠ "bit" ∧
      characterTypes.contains name = false ∧ contains "date" name = false := by decide
  have apart : ∀ name ∈ integerTypes, decimalTypes.contains name = false := by decide
  rcases numberMark?_cases numeric with ⟨integer, rfl⟩ | ⟨decimal, rfl⟩
  · obtain ⟨noBit, noCharacters, noDate⟩ := listed dbType (List.mem_append_left _ integer)
    rw [form, if_neg noBit, noCharacters, noDate, apart dbType integer, List.append_nil]
    exact plainForm_of_free free
  · obtain ⟨noBit, noCharacters, noDate⟩ := listed dbType (List.mem_append_right _ decimal)
    rw [form, if_neg noBit, noCharacters, noDate, List.contains_iff_mem.mpr decimal,
      String.ofList_append]
    rfl

section Expressions

variable {expression : Arithmetic} {dbType : String} {mark : List Char}

/-- The mark of the last number and the white space around an expression do not matter for its
value. -/
theorem Arithmetic.Readable.evaluate?_marked (readable : expression.Readable)
    (numeric : numberMark? dbType = some mark) :
    evaluate? (trimmed expression.ungrouped.text ++ mark) =
      evaluate? expression.ungrouped.text := by
  obtain ⟨start, digit, ends, isDigit⟩ := readable.endsInDigit.exists_trimmed
  rw [← evaluate?_trimmed expression.ungrouped.text]
  rcases numberMark?_cases numeric with ⟨-, rfl⟩ | ⟨-, rfl⟩
  · rw [List.append_nil]
  · rw [ends, List.append_assoc]
    exact evaluate?_decimal isDigit

/-- The default of a numeric column is written without its parentheses. -/
theorem normalize_numeric (readable : expression.Readable)
    (numeric : numberMark? (lower dbType) = some mark) (nullable : Bool) (length : Int) :
    normalize (some (String.ofList expression.text)) dbType nullable length =
      some (String.ofList (trimmed expression.ungrouped.text ++ mark)) := by
  have stripped : trimmed (withoutParentheses (stripParentheses expression.text)) =
      trimmed expression.ungrouped.text := by
    rw [trimmed_withoutParentheses_stripParentheses, readable.text_ungrouped]
  obtain ⟨start, digit, ends, isDigit⟩ := readable.endsInDigit.exists_trimmed
  have free : '@' ∉ trimmed (withoutParentheses (stripParentheses expression.text)) := by
    rw [trimmed_withoutParentheses_stripParentheses]
    exact fun member => readable.noPattern (List.mem_of_mem_filter (trimmed_subset _ member))
  -- Every expression has a digit, so its default is neither empty nor the word for a missing value.
  have member : digit ∈ stripParentheses expression.text := by
    have visible : digit ∈ trimmed (withoutParentheses (stripParentheses expression.text)) := by
      rw [stripped, ends]
      exact List.mem_append_right _ (List.mem_singleton_self digit)
    exact List.mem_of_mem_filter (trimmed_subset _ visible)
  have formed := @form_numeric _ mark (lower dbType) nullable length numeric free
  rw [stripped] at formed
  rw [← formed]
  refine normalize_eq_form (by rw [String.toList_ofList]) (List.ne_nil_of_mem member)
    (not_null_of_digit isDigit member) ?_
  rw [formed, ← Bool.not_eq_true, String.isEmpty_iff, ← String.toList_inj, ends]
  simp

/-- What becomes of the default of a numeric column. -/
structure NumericDefault (expression : Arithmetic) (mark : List Char) (written : String) :
    Prop where
  /-- It is written without its parentheses. -/
  text : written.toList = trimmed (withoutParentheses expression.text) ++ mark
  /-- It is read as the default would be without its parentheses. -/
  read : Arithmetic.evaluate? written.toList =
    Arithmetic.evaluate? (withoutParentheses expression.text)
  /-- With its parentheses, the default would be read as the database reads it. -/
  original : Arithmetic.evaluate? expression.text = some expression.value
  /-- An expression that reads the same without parentheses keeps its value. -/
  kept : expression.ungrouped.Readable →
    Arithmetic.evaluate? written.toList = some expression.value
  /-- An expression in which two minus signs meet is none any more. -/
  lost : ['-', '-'] <:+: withoutParentheses expression.text →
    Arithmetic.evaluate? written.toList = none

/-- Every arithmetic default of a numeric column is written, and its parentheses never are. -/
theorem numericDefaults (readable : expression.Readable)
    (numeric : numberMark? (lower dbType) = some mark) (nullable : Bool) (length : Int) :
    ∃ written, normalize (some (String.ofList expression.text)) dbType nullable length =
      some written ∧ NumericDefault expression mark written := by
  refine ⟨_, normalize_numeric readable numeric nullable length, ?_⟩
  have read := readable.evaluate?_marked numeric
  constructor
  · rw [String.toList_ofList, readable.text_ungrouped]
  · rw [String.toList_ofList, read, readable.text_ungrouped]
  · exact readable.evaluate?_text
  · intro without
    rw [String.toList_ofList, read, without.evaluate?_text, Arithmetic.value_ungrouped]
  · rintro ⟨before, behind, meets⟩
    rw [String.toList_ofList, read, readable.text_ungrouped, ← meets, List.append_assoc]
    exact Arithmetic.evaluate?_minuses before behind

/-- Groups that do not matter for the order of operations, around a signed factor too. -/
theorem numericDefaults_signed : ∃ written,
    normalize (some "((2)*(-3)+(4))") "Money" false (-1) = some written ∧
      Arithmetic.evaluate? written.toList = some (-2) := by
  have two := @Arithmetic.readable_digit '2' rfl
  have three := @Arithmetic.readable_digit '3' rfl
  have four := @Arithmetic.readable_digit '4' rfl
  have signed := three.negated rfl (by decide)
  have readable := ((two.grouped.product rfl signed.grouped rfl).sum four.grouped).grouped
  obtain ⟨written, same, numeric⟩ :=
    @numericDefaults _ "Money" ['m'] readable (by decide +kernel) false (-1)
  exact ⟨written, same, numeric.kept ((two.product rfl signed rfl).sum four)⟩

/-- Without its parentheses a sum is no factor any more, and a negation of a negation is no
expression. -/
theorem numericDefaults_regrouped :
    normalize (some "((1+2)*3)") "int" false (-1) = some "1+2*3" ∧
      Arithmetic.evaluate? "((1+2)*3)".toList = some 9 ∧
      Arithmetic.evaluate? "1+2*3".toList = some 7 ∧
    normalize (some "((1+2)*3)") "decimal" false (-1) = some "1+2*3m" ∧
      Arithmetic.evaluate? "1+2*3m".toList = some 7 ∧
    normalize (some "(-(-1))") "int" false (-1) = some "--1" ∧
      Arithmetic.evaluate? "(-(-1))".toList = some 1 ∧
      Arithmetic.evaluate? "--1".toList = none := by
  have one := @Arithmetic.readable_digit '1' rfl
  have two := @Arithmetic.readable_digit '2' rfl
  have three := @Arithmetic.readable_digit '3' rfl
  have product := ((one.sum two).grouped.product rfl three rfl).grouped
  have negation := ((one.negated rfl (by decide)).grouped.negated rfl (by decide)).grouped
  have integer : numberMark? (lower "int") = some [] := by decide +kernel
  have decimal : numberMark? (lower "decimal") = some ['m'] := by decide +kernel
  exact ⟨normalize_numeric product integer false (-1), by decide, by decide,
    normalize_numeric product decimal false (-1), by decide,
    normalize_numeric negation integer false (-1), by decide, by decide⟩

end Expressions

end Numeric

end DataLayer.DefaultExpression
