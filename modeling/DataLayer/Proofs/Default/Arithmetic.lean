import DataLayer.Proofs.Default.Parentheses
import DataLayer.Proofs.Text.Case
import Mathlib.Tactic.Ring

/-!
# Arithmetic of whole numbers

Expressions of whole numbers, of any size, as the database and the generated code both write them.
They are read from character to character: the terms and factors in front of the current operand are
kept, and for every open parenthesis those in front of it. An expression is read as its tree says if
parentheses stand wherever a sum would otherwise come apart.
-/

namespace DataLayer.DefaultExpression

open Text

/-- An expression of whole numbers, with the parentheses and the white space it is written with. -/
inductive Arithmetic
  | literal (digits : List Char)
  | negated (operand : Arithmetic)
  | sum (left right : Arithmetic)
  | difference (left right : Arithmetic)
  | product (left right : Arithmetic)
  | grouped (inside : Arithmetic)
  | padded (before : List Char) (inside : Arithmetic) (after : List Char)

namespace Arithmetic

def value : Arithmetic → Int
  | literal digits => Nat.ofDigitChars 10 digits 0
  | negated operand => -operand.value
  | sum left right => left.value + right.value
  | difference left right => left.value - right.value
  | product left right => left.value * right.value
  | grouped inside => inside.value
  | padded _ inside _ => inside.value

def text : Arithmetic → List Char
  | literal digits => digits
  | negated operand => '-' :: operand.text
  | sum left right => left.text ++ '+' :: right.text
  | difference left right => left.text ++ '-' :: right.text
  | product left right => left.text ++ '*' :: right.text
  | grouped inside => '(' :: (inside.text ++ [')'])
  | padded before inside after => before ++ inside.text ++ after

/-- The same tree without parentheses. -/
def ungrouped : Arithmetic → Arithmetic
  | literal digits => literal digits
  | negated operand => negated operand.ungrouped
  | sum left right => sum left.ungrouped right.ungrouped
  | difference left right => difference left.ungrouped right.ungrouped
  | product left right => product left.ungrouped right.ungrouped
  | grouped inside => inside.ungrouped
  | padded before inside after => padded before inside.ungrouped after

/-- Whether a sum or a difference is written without parentheses around it. -/
def isOpenSum : Arithmetic → Bool
  | sum _ _ | difference _ _ => true
  | padded _ inside _ => inside.isOpenSum
  | _ => false

/-- The text does not begin with a minus sign. -/
def Unsigned (expression : Arithmetic) : Prop := expression.text.head? ≠ some '-'

instance : DecidablePred Unsigned := fun expression =>
  inferInstanceAs (Decidable (expression.text.head? ≠ some '-'))

/-- The text is read as the tree says: no sum comes apart where it is an operand of something that
binds closer, and no two minus signs meet. -/
inductive Readable : Arithmetic → Prop
  | literal {digits : List Char} : digits ≠ [] → (∀ c ∈ digits, isAsciiDigit c = true) →
      Readable (literal digits)
  | negated {operand : Arithmetic} : Readable operand → operand.isOpenSum = false →
      Unsigned operand → Readable (negated operand)
  | sum {left right : Arithmetic} : Readable left → Readable right → Readable (sum left right)
  | difference {left right : Arithmetic} : Readable left → Readable right →
      right.isOpenSum = false → Unsigned right → Readable (difference left right)
  | product {left right : Arithmetic} : Readable left → left.isOpenSum = false → Readable right →
      right.isOpenSum = false → Readable (product left right)
  | grouped {inside : Arithmetic} : Readable inside → Readable (grouped inside)
  | padded {before after : List Char} {inside : Arithmetic} : Blank before → Readable inside →
      Blank after → Readable (padded before inside after)

/-- A digit alone is an expression. -/
theorem readable_digit {c : Char} (digit : isAsciiDigit c = true) : Readable (literal [c]) :=
  .literal (List.cons_ne_nil _ _) (List.forall_mem_singleton.mpr digit)

section Reader

/-- What the last characters were. -/
inductive Phase
  /-- An operand is still to come. It may not begin with a minus sign directly behind another. -/
  | operand (signed : Bool)
  | number (value : Nat)
  | done (value : Int)

/-- The value of an operand that may end here. -/
def Phase.value? : Phase → Option Int
  | operand _ => none
  | number value => some value
  | done value => some value

/-- How far a text has been read: the terms before the current one come to the total, and what is in
front of the current operand in its term comes to the factor. -/
structure Reader where
  /-- Total and factor in front of each open parenthesis, from the innermost. -/
  outer : List (Int × Int) := []
  total : Int := 0
  factor : Int := 1
  phase : Phase := .operand false

/-- What a character does behind an operand. -/
def Reader.behind (reader : Reader) (value : Int) (c : Char) : Option Reader :=
  if isBlank c then some { reader with phase := .done value }
  else if c = '+' then
    some { reader with
      total := reader.total + reader.factor * value, factor := 1, phase := .operand false }
  else if c = '-' then
    some { reader with
      total := reader.total + reader.factor * value, factor := -1, phase := .operand true }
  else if c = '*' then
    some { reader with factor := reader.factor * value, phase := .operand false }
  else if c = ')' then
    match reader.outer with
    | [] => none
    | (total, factor) :: outer =>
        some ⟨outer, total, factor, .done (reader.total + reader.factor * value)⟩
  else none

/-- What one character does. An `m` behind digits marks a decimal number. -/
def Reader.step (reader : Reader) (c : Char) : Option Reader :=
  match reader.phase with
  | .operand signed =>
    if isBlank c then some { reader with phase := .operand false }
    else if isAsciiDigit c then some { reader with phase := .number (c.toNat - '0'.toNat) }
    else if c = '-' ∧ signed = false then
      some { reader with factor := -reader.factor, phase := .operand true }
    else if c = '(' then some { outer := (reader.total, reader.factor) :: reader.outer }
    else none
  | .number value =>
    if isAsciiDigit c then
      some { reader with phase := .number (10 * value + (c.toNat - '0'.toNat)) }
    else if c = 'm' then some { reader with phase := .done value }
    else reader.behind value c
  | .done value => reader.behind value c

def Reader.read (reader : Reader) (text : List Char) : Option Reader :=
  text.foldlM Reader.step reader

/-- The value of a text that may end here. -/
def Reader.value? (reader : Reader) : Option Int :=
  if reader.outer.isEmpty then
    reader.phase.value?.map fun value => reader.total + reader.factor * value
  else none

/-- The value of an expression, with the precedence of operators in the generated code. There is
none if the text is no expression of whole numbers. -/
def evaluate? (text : List Char) : Option Int := (Reader.read {} text).bind Reader.value?

end Reader

section Reading

variable {reader : Reader} {digits blanks : List Char}

/-- A text is read up to any place, and from there on. -/
theorem Reader.read_append (reader : Reader) (first second : List Char) :
    reader.read (first ++ second) = (reader.read first).bind fun middle => middle.read second :=
  List.foldlM_append

/-- A text is read from its first character. -/
theorem Reader.read_cons (reader : Reader) (c : Char) (rest : List Char) :
    reader.read (c :: rest) = (reader.step c).bind fun middle => middle.read rest :=
  List.foldlM_cons

/-- A digit is no other character that means something. -/
theorem digit_apart {c : Char} (digit : isAsciiDigit c = true) :
    isBlank c = false ∧ c ∉ ['(', ')', '+', '-', '*'] :=
  of_isAsciiDigit (fun c => isBlank c = false ∧ c ∉ ['(', ')', '+', '-', '*']) (by decide) digit

/-- White space is no digit. -/
theorem not_digit_of_blank {c : Char} (blank : isBlank c = true) : isAsciiDigit c = false := by
  rw [← Bool.not_eq_true]
  intro digit
  rw [(digit_apart digit).1] at blank
  cases blank

/-- A digit begins a number where an operand is to come. -/
theorem Reader.step_digit_of_operand {c : Char} {signed : Bool}
    (phase : reader.phase = .operand signed) (digit : isAsciiDigit c = true) :
    reader.step c = some { reader with phase := .number (c.toNat - '0'.toNat) } := by
  rw [Reader.step, phase]
  dsimp only
  rw [(digit_apart digit).1, if_neg (by decide), if_pos digit]

/-- Behind an operand it does not matter how it was written, as long as it does not go on. -/
theorem Reader.step_of_value {value : Int} {c : Char} (given : reader.phase.value? = some value)
    (noDigit : isAsciiDigit c = false) (noMark : c ≠ 'm') :
    reader.step c = reader.behind value c := by
  rw [Reader.step]
  cases phase : reader.phase with
  | operand signed =>
      rw [phase] at given
      cases given
  | number digits =>
      rw [phase] at given
      cases given
      dsimp only
      rw [noDigit, if_neg (by decide), if_neg noMark]
  | done other =>
      rw [phase] at given
      cases given
      rfl

/-- Further digits are read into the number that has begun. -/
theorem Reader.read_digits {value : Nat} (phase : reader.phase = .number value)
    (plain : ∀ c ∈ digits, isAsciiDigit c = true) :
    reader.read digits =
      some { reader with phase := .number (Nat.ofDigitChars 10 digits value) } := by
  induction digits generalizing reader value with
  | nil =>
      rw [Nat.ofDigitChars_nil, ← phase]
      rfl
  | cons c rest ih =>
      obtain ⟨digit, others⟩ := List.forall_mem_cons.mp plain
      rw [Reader.read_cons, Reader.step, phase]
      dsimp only
      rw [if_pos digit, Option.bind_some, ih rfl others, Nat.ofDigitChars_cons]

/-- White space in front of an operand only separates minus signs. -/
theorem Reader.read_blank_operand {signed : Bool} (phase : reader.phase = .operand signed)
    (blank : Blank blanks) :
    reader.read blanks =
      some { reader with phase := .operand (signed && blanks.isEmpty) } := by
  induction blanks generalizing reader signed with
  | nil =>
      rw [List.isEmpty_nil, Bool.and_true, ← phase]
      rfl
  | cons c rest ih =>
      obtain ⟨first, others⟩ := List.forall_mem_cons.mp blank
      rw [Reader.read_cons, Reader.step, phase]
      dsimp only
      rw [if_pos first, Option.bind_some, ih rfl others, List.isEmpty_cons, Bool.and_false,
        Bool.false_and]

/-- White space behind an operand leaves its value. -/
theorem Reader.read_blank_of_value {value : Int} (given : reader.phase.value? = some value)
    (blank : Blank blanks) :
    ∃ phase : Phase, reader.read blanks = some { reader with phase := phase } ∧
      phase.value? = some value := by
  induction blanks generalizing reader with
  | nil => exact ⟨reader.phase, rfl, given⟩
  | cons c rest ih =>
      obtain ⟨first, others⟩ := List.forall_mem_cons.mp blank
      have noMark : c ≠ 'm' := ne_of_isBlank first (by decide)
      have stepped : reader.step c = some { reader with phase := .done value } := by
        rw [Reader.step_of_value given (not_digit_of_blank first) noMark, Reader.behind,
          if_pos first]
      obtain ⟨phase, read, settled⟩ := @ih { reader with phase := .done value } rfl others
      exact ⟨phase, by rw [Reader.read_cons, stepped]; exact read, settled⟩

/-- An expression was read as an operand: the sum has grown by its value times the factor in front
of it, and further factors may follow unless it is an open sum. -/
structure Reads (expression : Arithmetic) (before after : Reader) : Prop where
  read : before.read expression.text = some after
  outer : after.outer = before.outer
  value : ∃ value, after.phase.value? = some value ∧
    after.total + after.factor * value = before.total + before.factor * expression.value
  total : expression.isOpenSum = false → after.total = before.total

/-- The text is read as the tree says wherever an operand may stand. In front of an open sum there is
no factor, since it would multiply the first term only. -/
def IsOperand (expression : Arithmetic) : Prop :=
  ∀ (reader : Reader) (signed : Bool), reader.phase = .operand signed →
    (signed = true → expression.Unsigned) → (expression.isOpenSum = true → reader.factor = 1) →
      ∃ after, Reads expression reader after

section Operands

variable {left right operand inside : Arithmetic}

/-- Digits are read as their number. -/
theorem isOperand_literal (some : digits ≠ []) (plain : ∀ c ∈ digits, isAsciiDigit c = true) :
    IsOperand (literal digits) := by
  intro reader signed phase _ _
  obtain ⟨c, rest, rfl⟩ := List.exists_cons_of_ne_nil some
  obtain ⟨digit, others⟩ := List.forall_mem_cons.mp plain
  refine ⟨{ reader with phase := .number (Nat.ofDigitChars 10 rest (c.toNat - '0'.toNat)) },
    ?_, rfl, ⟨_, rfl, ?_⟩, fun _ => rfl⟩
  · rw [text, Reader.read_cons, Reader.step_digit_of_operand phase digit, Option.bind_some]
    exact Reader.read_digits rfl others
  · simp [value, Nat.ofDigitChars_cons]

/-- A minus sign negates the operand behind it. No second one may follow directly, and a sum would
come apart. -/
theorem IsOperand.negated (isOperand : IsOperand operand) (closed : operand.isOpenSum = false)
    (unsigned : operand.Unsigned) : IsOperand (negated operand) := by
  intro reader signed phase apart _
  have first : signed = false := by
    rw [← Bool.not_eq_true]
    exact fun other => apart other rfl
  have stepped : reader.step '-' =
      some { reader with factor := -reader.factor, phase := .operand true } := by
    rw [Reader.step, phase, first]
    rfl
  obtain ⟨after, reads⟩ := isOperand
    { reader with factor := -reader.factor, phase := .operand true } true rfl
    (fun _ => unsigned) (by simp [closed])
  obtain ⟨result, settled, same⟩ := reads.value
  refine ⟨after, ?_, reads.outer, ⟨result, settled, ?_⟩, fun _ => reads.total closed⟩
  · rw [text, Reader.read_cons, stepped]
    exact reads.read
  · rw [same, value]
    ring

/-- An expression is unsigned if one that begins with it is. -/
theorem Unsigned.of_append {expression whole : Arithmetic} {rest : List Char}
    (unsigned : whole.Unsigned) (begins : whole.text = expression.text ++ rest) :
    expression.Unsigned := by
  intro sign
  apply unsigned
  rw [begins, List.head?_append, sign]
  rfl

/-- What is read up to an operator behind an expression, and from there on. -/
theorem Reads.read_operator {before middle next : Reader} {operator : Char}
    (reads : Reads left before middle) (stepped : middle.step operator = some next)
    (rest : List Char) : before.read (left.text ++ operator :: rest) = next.read rest := by
  rw [Reader.read_append, reads.read, Option.bind_some, Reader.read_cons, stepped,
    Option.bind_some]

/-- Behind a term another one is read, with the sign that stands in front of it. -/
theorem Reads.exists_addend {before middle : Reader} {operator : Char} {sign : Int}
    {directly : Bool} (leftReads : Reads left before middle) (isRight : IsOperand right)
    (stepped : ∀ value, middle.phase.value? = some value → middle.step operator = some
      { middle with
        total := middle.total + middle.factor * value, factor := sign, phase := .operand directly })
    (apart : directly = true → right.Unsigned) (single : right.isOpenSum = true → sign = 1) :
    ∃ after, before.read (left.text ++ operator :: right.text) = some after ∧
      after.outer = before.outer ∧ ∃ value, after.phase.value? = some value ∧
        after.total + after.factor * value =
          before.total + before.factor * left.value + sign * right.value := by
  obtain ⟨first, settled, leftSame⟩ := leftReads.value
  obtain ⟨after, rightReads⟩ := isRight { middle with
    total := middle.total + middle.factor * first, factor := sign, phase := .operand directly }
    directly rfl apart single
  obtain ⟨second, ended, rightSame⟩ := rightReads.value
  refine ⟨after, ?_, rightReads.outer.trans leftReads.outer, second, ended, ?_⟩
  · rw [leftReads.read_operator (stepped first settled)]
    exact rightReads.read
  · rw [rightSame, leftSame]

/-- The terms of a sum are read one after the other. -/
theorem IsOperand.sum (isLeft : IsOperand left) (isRight : IsOperand right) :
    IsOperand (sum left right) := by
  intro reader signed phase apart single
  obtain ⟨middle, leftReads⟩ := isLeft reader signed phase
    (fun other => (apart other).of_append rfl) fun _ => single rfl
  have stepped (first : Int) (settled : middle.phase.value? = some first) :
      middle.step '+' = some { middle with
        total := middle.total + middle.factor * first, factor := 1, phase := .operand false } := by
    rw [Reader.step_of_value settled (by decide) (by decide)]
    rfl
  obtain ⟨after, read, outer, result, ended, same⟩ :=
    leftReads.exists_addend isRight stepped (by simp) fun _ => rfl
  refine ⟨after, read, outer, ⟨result, ended, ?_⟩, by simp [isOpenSum]⟩
  rw [same, value, single rfl]
  ring

/-- The term behind a minus sign must not come apart, nor begin with another minus sign. -/
theorem IsOperand.difference (isLeft : IsOperand left) (isRight : IsOperand right)
    (closed : right.isOpenSum = false) (unsigned : right.Unsigned) :
    IsOperand (difference left right) := by
  intro reader signed phase apart single
  obtain ⟨middle, leftReads⟩ := isLeft reader signed phase
    (fun other => (apart other).of_append rfl) fun _ => single rfl
  have stepped (first : Int) (settled : middle.phase.value? = some first) :
      middle.step '-' = some { middle with
        total := middle.total + middle.factor * first, factor := -1, phase := .operand true } := by
    rw [Reader.step_of_value settled (by decide) (by decide)]
    rfl
  obtain ⟨after, read, outer, result, ended, same⟩ :=
    leftReads.exists_addend isRight stepped (fun _ => unsigned) (by simp [closed])
  refine ⟨after, read, outer, ⟨result, ended, ?_⟩, by simp [isOpenSum]⟩
  rw [same, value, single rfl]
  ring

/-- Neither factor of a product may come apart. -/
theorem IsOperand.product (isLeft : IsOperand left) (closedLeft : left.isOpenSum = false)
    (isRight : IsOperand right) (closedRight : right.isOpenSum = false) :
    IsOperand (product left right) := by
  intro reader signed phase apart _
  obtain ⟨middle, leftReads⟩ := isLeft reader signed phase
    (fun other => (apart other).of_append rfl) (by simp [closedLeft])
  obtain ⟨first, settled, leftSame⟩ := leftReads.value
  have stepped : middle.step '*' = some { middle with
      factor := middle.factor * first, phase := .operand false } := by
    rw [Reader.step_of_value settled (by decide) (by decide)]
    rfl
  obtain ⟨after, rightReads⟩ := isRight { middle with
    factor := middle.factor * first, phase := .operand false } false rfl (by simp)
    (by simp [closedRight])
  obtain ⟨second, ended, rightSame⟩ := rightReads.value
  -- Nothing was added for the factor on the left, so the whole product is still in front.
  have leftTotal := leftReads.total closedLeft
  have factor : middle.factor * first = reader.factor * left.value := by
    rw [leftTotal] at leftSame
    exact Int.add_left_cancel leftSame
  refine ⟨after, ?_, rightReads.outer.trans leftReads.outer, ⟨second, ended, ?_⟩,
    fun _ => (rightReads.total closedRight).trans leftTotal⟩
  · rw [text, leftReads.read_operator stepped]
    exact rightReads.read
  · rw [rightSame, value]
    dsimp only
    rw [leftTotal, factor]
    ring

/-- Parentheses let any expression stand as an operand. -/
theorem IsOperand.grouped (isOperand : IsOperand inside) : IsOperand (grouped inside) := by
  intro reader signed phase _ _
  have opened : reader.step '(' =
      some { outer := (reader.total, reader.factor) :: reader.outer } := by
    rw [Reader.step, phase]
    cases signed <;> rfl
  obtain ⟨last, reads⟩ := isOperand { outer := (reader.total, reader.factor) :: reader.outer }
    false rfl (by simp) fun _ => rfl
  obtain ⟨result, settled, same⟩ := reads.value
  have closed : last.step ')' = some ⟨reader.outer, reader.total, reader.factor,
      .done (last.total + last.factor * result)⟩ := by
    rw [Reader.step_of_value settled (by decide) (by decide), Reader.behind, reads.outer]
    rfl
  refine ⟨⟨reader.outer, reader.total, reader.factor, .done (last.total + last.factor * result)⟩,
    ?_, rfl, ⟨_, rfl, ?_⟩, fun _ => rfl⟩
  · rw [text, Reader.read_cons, opened, Option.bind_some, reads.read_operator closed]
    rfl
  · rw [same, value]
    ring

/-- White space around an operand does not matter. -/
theorem IsOperand.padded {before behind : List Char} (blankBefore : Blank before)
    (isOperand : IsOperand inside) (blankBehind : Blank behind) :
    IsOperand (padded before inside behind) := by
  intro reader signed phase apart single
  have unsigned (directly : (signed && before.isEmpty) = true) : inside.Unsigned := by
    obtain ⟨sign, nothing⟩ := Bool.and_eq_true_iff.mp directly
    rw [List.isEmpty_iff] at nothing
    have begins : (Arithmetic.padded before inside behind).text = inside.text ++ behind := by
      rw [text, nothing, List.nil_append]
    exact (apart sign).of_append begins
  obtain ⟨last, reads⟩ := isOperand
    { reader with phase := .operand (signed && before.isEmpty) } _ rfl unsigned single
  obtain ⟨result, settled, same⟩ := reads.value
  obtain ⟨behindPhase, read, ended⟩ := Reader.read_blank_of_value settled blankBehind
  refine ⟨{ last with phase := behindPhase }, ?_, reads.outer, ⟨result, ended, same⟩, reads.total⟩
  rw [text, List.append_assoc, Reader.read_append, Reader.read_blank_operand phase blankBefore,
    Option.bind_some, Reader.read_append, reads.read, Option.bind_some, read]

/-- Every readable expression is read as its tree says. The induction goes over the tree, with one
lemma for each way of writing. -/
theorem Readable.isOperand {expression : Arithmetic} (readable : expression.Readable) :
    expression.IsOperand := by
  induction readable with
  | literal some plain => exact isOperand_literal some plain
  | negated _ closed unsigned ih => exact ih.negated closed unsigned
  | sum _ _ ihLeft ihRight => exact ihLeft.sum ihRight
  | difference _ _ closed unsigned ihLeft ihRight => exact ihLeft.difference ihRight closed unsigned
  | product _ closedLeft _ closedRight ihLeft ihRight =>
      exact ihLeft.product closedLeft ihRight closedRight
  | grouped _ ih => exact ih.grouped
  | padded blankBefore _ blankAfter ih => exact ih.padded blankBefore blankAfter

end Operands

/-- A readable expression has the value of its tree. -/
theorem Readable.evaluate?_text {expression : Arithmetic} (readable : expression.Readable) :
    evaluate? expression.text = some expression.value := by
  obtain ⟨after, reads⟩ := readable.isOperand {} false rfl (by simp) fun _ => rfl
  obtain ⟨result, settled, same⟩ := reads.value
  have outer : after.outer = [] := reads.outer
  rw [evaluate?, reads.read, Option.bind_some, Reader.value?, outer, settled]
  simpa using same

example : evaluate? "2 - 3*-(4 - 1)".toList = some 11 := by decide

section Ends

variable {text : List Char}

/-- White space behind a text changes nothing. -/
theorem Reader.value?_read_blank (reader : Reader) {blanks : List Char} (blank : Blank blanks) :
    (reader.read blanks).bind Reader.value? = reader.value? := by
  have settled {value : Int} (given : reader.phase.value? = some value) :
      (reader.read blanks).bind Reader.value? = reader.value? := by
    obtain ⟨phase, read, same⟩ := Reader.read_blank_of_value given blank
    rw [read, Option.bind_some, Reader.value?, Reader.value?, given, ← same]
  cases phase : reader.phase with
  | operand signed =>
      rw [Reader.read_blank_operand phase blank, Option.bind_some, Reader.value?, Reader.value?,
        phase]
      rfl
  | number value => exact settled (by rw [phase]; rfl)
  | done value => exact settled (by rw [phase]; rfl)

/-- White space around an expression does not change its value. -/
theorem evaluate?_inBlanks {before behind : List Char} (blankBefore : Blank before)
    (blankBehind : Blank behind) : evaluate? (before ++ text ++ behind) = evaluate? text := by
  have nothing := @Reader.read_blank_operand {} before false rfl blankBefore
  rw [Bool.false_and] at nothing
  rw [evaluate?, List.append_assoc, Reader.read_append, nothing, Option.bind_some,
    Reader.read_append, Option.bind_assoc, evaluate?]
  congr 1
  funext reader
  exact reader.value?_read_blank blankBehind

/-- An expression and its trimmed text have the same value. -/
theorem evaluate?_trimmed (text : List Char) : evaluate? (trimmed text) = evaluate? text := by
  obtain ⟨before, behind, blankBefore, blankBehind, same⟩ := exists_inBlanks text
  conv_rhs => rw [same]
  exact (evaluate?_inBlanks blankBefore blankBehind).symm

/-- A digit only ever continues with a number. -/
theorem Reader.step_digit (reader : Reader) {digit : Char} (isDigit : isAsciiDigit digit = true) :
    reader.step digit = none ∨
      ∃ value, reader.step digit = some { reader with phase := .number value } := by
  cases phase : reader.phase with
  | operand signed => exact .inr ⟨_, Reader.step_digit_of_operand phase isDigit⟩
  | number value =>
      refine .inr ⟨10 * value + (digit.toNat - '0'.toNat), ?_⟩
      rw [Reader.step, phase]
      dsimp only
      rw [if_pos isDigit]
  | done value =>
      obtain ⟨noBlank, apart⟩ := digit_apart isDigit
      refine .inl ?_
      rw [Reader.step, phase]
      dsimp only
      simp only [List.mem_cons, not_or] at apart
      simp [Reader.behind, noBlank, apart]

/-- The mark of a decimal number behind the last digit changes nothing. -/
theorem evaluate?_decimal {digit : Char} (isDigit : isAsciiDigit digit = true) :
    evaluate? (text ++ [digit, 'm']) = evaluate? (text ++ [digit]) := by
  rw [evaluate?, evaluate?, Reader.read_append, Reader.read_append, Option.bind_assoc,
    Option.bind_assoc]
  congr 1
  funext reader
  rw [Reader.read_cons, Reader.read_cons]
  rcases reader.step_digit isDigit with refused | ⟨value, taken⟩
  · rw [refused]
    rfl
  · rw [taken]
    rfl

example : evaluate? "1+2*3m".toList = some 7 := by decide

/-- Behind a minus sign an operand is to come. -/
theorem Reader.phase_of_minus {next : Reader} (stepped : reader.step '-' = some next) :
    next.phase = .operand true := by
  rw [Reader.step] at stepped
  cases phase : reader.phase with
  | operand signed =>
      rw [phase] at stepped
      cases signed <;> cases stepped
      rfl
  | number value =>
      rw [phase] at stepped
      cases stepped
      rfl
  | done value =>
      rw [phase] at stepped
      cases stepped
      rfl

/-- Two minus signs that meet belong to no expression. -/
theorem evaluate?_minuses (before behind : List Char) :
    evaluate? (before ++ '-' :: '-' :: behind) = none := by
  have refused (reader : Reader) : reader.read ('-' :: '-' :: behind) = none := by
    rw [Reader.read_cons, Option.bind_eq_none_iff]
    intro next stepped
    rw [Reader.read_cons, Reader.step, Reader.phase_of_minus stepped]
    rfl
  rw [evaluate?, Reader.read_append, Option.bind_assoc]
  cases Reader.read {} before with
  | none => rfl
  | some reader => rw [Option.bind_some, refused]; rfl

example : evaluate? "1--1".toList = none := by decide

end Ends

end Reading

end Arithmetic

end DataLayer.DefaultExpression
