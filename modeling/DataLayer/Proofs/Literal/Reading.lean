import DataLayer.Literal

/-!
# Reading text literals

`read?` reads one text literal of the generated language from the front of a line: what it denotes,
in UTF-16 code units, and what stands behind it. A name that was written as a literal is read back
exactly when it has none of the characters that have a meaning inside the literal. This is so
because an escape takes more characters than it denotes units.
-/

namespace DataLayer.Literal

/-- The code units of a code point: two of them for one that does not fit into one. -/
def unitsOfCode (code : Nat) : List UInt16 :=
  if code < 0x10000 then [code.toUInt16]
  else [(0xD7C0 + code / 0x400).toUInt16, (0xDC00 + code % 0x400).toUInt16]

/-- The code units of a character. -/
def unitsOf (c : Char) : List UInt16 := unitsOfCode c.toNat

/-- The code units of a text. -/
def units (text : List Char) : List UInt16 := text.flatMap unitsOf

/-- The characters that end a line, which a plain literal cannot contain. -/
def lineEnds : List Char := ['\n', '\r', '\u0085', '\u2028', '\u2029']

/-- The characters that stand for themselves in a plain literal. -/
def Ordinary (c : Char) : Prop := c ≠ '"' ∧ c ≠ '\\' ∧ c ∉ lineEnds

instance : DecidablePred Ordinary := fun _ => inferInstanceAs (Decidable (_ ∧ _))

/-- The code units that single characters stand for behind a backslash. -/
def simpleEscapes : List (Char × UInt16) :=
  [('\'', 0x27), ('"', 0x22), ('\\', 0x5C), ('0', 0x00), ('a', 0x07), ('b', 0x08), ('f', 0x0C),
   ('n', 0x0A), ('r', 0x0D), ('t', 0x09), ('v', 0x0B)]

/-- The value of a hexadecimal digit. -/
def hexValue? (c : Char) : Option Nat := "0123456789abcdef".toList.idxOf? c.toLower

/-- Where a reader is inside a plain literal. -/
inductive Mode where
  | text
  /-- Behind a backslash. -/
  | escape
  /-- Behind `\x` and up to three digits. -/
  | upToFour (digits value : Nat)
  /-- Behind `\u` or `\U`, with so many digits still to come. -/
  | exactly (left value : Nat)

/-- What a character comes to: units and the mode behind it, or the end of the literal. -/
inductive Step where
  | on (units : List UInt16) (mode : Mode)
  | ended (units : List UInt16)

/-- A character outside of escapes, behind units that are complete with it. -/
def textStep (before : List UInt16) (c : Char) : Option Step :=
  if c = '"' then some (.ended before)
  else if c = '\\' then some (.on before .escape)
  else if c ∈ lineEnds then none
  else some (.on (before ++ unitsOf c) .text)

/-- One character of a plain literal. An escape with up to four digits ends before the first
character that is no digit. -/
def step : Mode → Char → Option Step
  | .text, c => textStep [] c
  | .escape, c =>
    match simpleEscapes.lookup c with
    | some unit => some (.on [unit] .text)
    | none =>
      if c = 'x' then some (.on [] (.upToFour 0 0))
      else if c = 'u' then some (.on [] (.exactly 4 0))
      else if c = 'U' then some (.on [] (.exactly 8 0))
      else none
  | .upToFour digits value, c =>
    match hexValue? c with
    | some digit =>
      if digits = 3 then some (.on [(16 * value + digit).toUInt16] .text)
      else some (.on [] (.upToFour (digits + 1) (16 * value + digit)))
    | none => if digits = 0 then none else textStep [value.toUInt16] c
  | .exactly left value, c =>
    match hexValue? c with
    | some digit =>
      if 0x110000 ≤ 16 * value + digit then none
      else if left = 1 then some (.on (unitsOfCode (16 * value + digit)) .text)
      else some (.on [] (.exactly (left - 1) (16 * value + digit)))
    | none => none

/-- Puts units in front of those that were read. -/
def prepend (before : List UInt16) (outcome : Option (List UInt16 × List Char)) :
    Option (List UInt16 × List Char) :=
  outcome.map fun (read, after) => (before ++ read, after)

/-- Reads on inside a plain literal up to the quote that ends it. -/
def readPlain? : Mode → List Char → Option (List UInt16 × List Char)
  | _, [] => none
  | mode, c :: rest =>
    match step mode c with
    | some (.on before next) => prepend before (readPlain? next rest)
    | some (.ended before) => some (before, rest)
    | none => none

/-- Reads on inside a verbatim literal up to the quote that ends it. Two quotes stand for one. -/
def readVerbatim? : List Char → Option (List UInt16 × List Char)
  | [] => none
  | '"' :: '"' :: rest => prepend (unitsOf '"') (readVerbatim? rest)
  | '"' :: rest => some ([], rest)
  | c :: rest => prepend (unitsOf c) (readVerbatim? rest)

/-- Reads the literal at the front. -/
def read? : List Char → Option (List UInt16 × List Char)
  | '"' :: rest => readPlain? .text rest
  | '@' :: '"' :: rest => readVerbatim? rest
  | _ => none

/-- What was read with something in front was read without it. -/
theorem prepend_eq_some {before read : List UInt16} {after : List Char}
    {outcome : Option (List UInt16 × List Char)}
    (finished : prepend before outcome = some (read, after)) :
    ∃ more, outcome = some (more, after) ∧ read = before ++ more := by
  obtain ⟨⟨more, stop⟩, further, same⟩ := Option.map_eq_some_iff.mp finished
  cases same
  exact ⟨more, further, rfl⟩

@[simp] theorem units_nil : units [] = [] := rfl

@[simp] theorem units_cons (c : Char) (text : List Char) :
    units (c :: text) = unitsOf c ++ units text := List.flatMap_cons

/-- A character has one code unit or two. -/
theorem length_unitsOfCode (code : Nat) :
    1 ≤ (unitsOfCode code).length ∧ (unitsOfCode code).length ≤ 2 := by
  unfold unitsOfCode
  split <;> simp

namespace Mode

/-- How many units the characters account for that a reader has taken in without having come to
units. -/
def pending : Mode → Nat
  | text => 0
  | escape => 1
  | upToFour .. | exactly .. => 2

@[simp] theorem pending_text : text.pending = 0 := rfl

@[simp] theorem pending_escape : escape.pending = 1 := rfl

@[simp] theorem pending_upToFour (digits value : Nat) : (upToFour digits value).pending = 2 := rfl

@[simp] theorem pending_exactly (left value : Nat) : (exactly left value).pending = 2 := rfl

/-- The units that were read from characters are not more than the characters account for, and
fewer as soon as there is an escape. -/
structure Accounts (mode : Mode) (characters : List Char) (read : List UInt16) : Prop where
  atMost : read.length ≤ mode.pending + (units characters).length
  ordinary : read.length = mode.pending + (units characters).length →
    mode = .text ∧ ∀ c ∈ characters, Ordinary c

end Mode

/-- A character outside of escapes ends the literal, begins an escape or stands for itself. -/
theorem textStep_cases {before : List UInt16} {c : Char} {taken : Step}
    (stepped : textStep before c = some taken) :
    (c = '"' ∧ taken = .ended before) ∨ (c = '\\' ∧ taken = .on before .escape) ∨
      (Ordinary c ∧ taken = .on (before ++ unitsOf c) .text) := by
  unfold textStep at stepped
  split at stepped
  · exact .inl ⟨‹_›, (Option.some.inj stepped).symm⟩
  split at stepped
  · exact .inr (.inl ⟨‹_›, (Option.some.inj stepped).symm⟩)
  split at stepped
  · cases stepped
  · exact .inr (.inr ⟨⟨‹_›, ‹_›, ‹_›⟩, (Option.some.inj stepped).symm⟩)

/-- Behind a backslash comes a character that stands for one unit, or digits are to follow. -/
theorem step_escape {c : Char} {taken : Step} (stepped : step .escape c = some taken) :
    (∃ unit, taken = .on [unit] .text) ∨
      ∃ next, taken = .on [] next ∧ next.pending = 2 ∧ next ≠ .text := by
  simp only [step] at stepped
  split at stepped
  · cases stepped
    exact .inl ⟨_, rfl⟩
  · right
    split at stepped
    · cases stepped
      exact ⟨_, rfl, rfl, nofun⟩
    · split at stepped
      · cases stepped
        exact ⟨_, rfl, rfl, nofun⟩
      · split at stepped <;> cases stepped
        exact ⟨_, rfl, rfl, nofun⟩

/-- Either a step takes the character as one outside of escapes, behind the units of an escape that
ends there, or it goes on inside of an escape. -/
theorem step_cases {mode : Mode} {c : Char} {taken : Step} (stepped : step mode c = some taken) :
    (∃ before, textStep before c = some taken ∧ before.length ≤ mode.pending ∧
      (before.length = mode.pending → mode = .text)) ∨
    (∃ before next, taken = .on before next ∧ before.length + next.pending ≤ 2 ∧
      1 ≤ mode.pending ∧ (next = .text → before.length ≤ mode.pending)) := by
  cases mode with
  | text => exact .inl ⟨[], stepped, Nat.le_refl _, fun _ => rfl⟩
  | escape =>
      right
      rcases step_escape stepped with ⟨unit, rfl⟩ | ⟨next, rfl, two, others⟩
      · exact ⟨[unit], .text, rfl, by simp, by simp⟩
      · exact ⟨[], next, rfl, by simp [two], by simp, fun text => absurd text others⟩
  -- A digit goes on with the value; any other character ends it and is read as text.
  | upToFour digits value =>
      simp only [step] at stepped
      split at stepped
      · right
        split at stepped <;> cases stepped
        · exact ⟨_, _, rfl, by simp, by simp⟩
        · exact ⟨_, _, rfl, by simp, by simp⟩
      · split at stepped
        · cases stepped
        · exact .inl ⟨_, stepped, by simp, by simp⟩
  | exactly left value =>
      right
      simp only [step] at stepped
      split at stepped
      · split at stepped
        · cases stepped
        · split at stepped <;> cases stepped
          -- The last digit: a code beyond the first plane makes two units.
          · obtain ⟨-, few⟩ := length_unitsOfCode (16 * value + ‹Nat›)
            exact ⟨_, _, rfl, few, by simp, fun _ => few⟩
          · exact ⟨_, _, rfl, by simp, by simp⟩
      · cases stepped

/-- A step accounts for its units, and for no more of them only if it reads an ordinary character
outside of escapes. -/
theorem step_accounts {mode : Mode} {c : Char} {before : List UInt16} {next : Mode}
    (stepped : step mode c = some (.on before next)) :
    before.length + next.pending ≤ mode.pending + (unitsOf c).length ∧
      (next = .text → before.length = mode.pending + (unitsOf c).length →
        mode = .text ∧ Ordinary c) := by
  have counted : 1 ≤ (unitsOf c).length := (length_unitsOfCode c.toNat).1
  rcases step_cases stepped with
    ⟨complete, outside, atMost, text⟩ | ⟨_, _, on, few, pending, fewer⟩
  · rcases textStep_cases outside with ⟨-, ended⟩ | ⟨-, begun⟩ | ⟨ordinary, read⟩
    · cases ended
    · cases begun
      rw [Mode.pending_escape]
      exact ⟨by omega, nofun⟩
    · cases read
      rw [Mode.pending_text, List.length_append]
      exact ⟨by omega, fun _ all => ⟨text (by omega), ordinary⟩⟩
  · cases on
    refine ⟨by omega, fun last all => ?_⟩
    have := fewer last
    omega

/-- Only a quote ends a literal, and an open escape has at most one unit left to give. -/
theorem step_ended {mode : Mode} {c : Char} {read : List UInt16}
    (stepped : step mode c = some (.ended read)) :
    c = '"' ∧ read.length ≤ mode.pending ∧ (read.length = mode.pending → mode = .text) := by
  rcases step_cases stepped with ⟨complete, outside, atMost, text⟩ | ⟨_, _, on, -⟩
  · rcases textStep_cases outside with ⟨quote, ended⟩ | ⟨-, begun⟩ | ⟨-, read⟩
    · cases ended
      exact ⟨quote, atMost, text⟩
    · cases begun
    · cases read
  · cases on

/-- A literal takes the characters up to a quote, and its units are accounted for by them. -/
theorem readPlain?_accounts {mode : Mode} {text after : List Char} {read : List UInt16}
    (finished : readPlain? mode text = some (read, after)) :
    ∃ characters, text = characters ++ '"' :: after ∧ mode.Accounts characters read := by
  induction text generalizing mode read with
  | nil => cases finished
  | cons c rest ih =>
      simp only [readPlain?] at finished
      split at finished
      · rename_i before next stepped
        obtain ⟨more, further, rfl⟩ := prepend_eq_some finished
        obtain ⟨characters, rfl, accounts⟩ := ih further
        -- What is pending in front of the rest is what the step has left over.
        obtain ⟨atMost, ordinary⟩ := step_accounts stepped
        obtain ⟨restAtMost, restOrdinary⟩ := accounts
        refine ⟨c :: characters, rfl, ?_, fun all => ?_⟩
        · simp only [List.length_append, units_cons]
          omega
        · simp only [List.length_append, units_cons] at all
          obtain ⟨text, others⟩ := restOrdinary (by omega)
          have settled : next.pending = 0 := by rw [text, Mode.pending_text]
          obtain ⟨here, first⟩ := ordinary text (by omega)
          exact ⟨here, List.forall_mem_cons.mpr ⟨first, others⟩⟩
      · rename_i before stepped
        cases finished
        obtain ⟨rfl, atMost, text⟩ := step_ended stepped
        exact ⟨[], rfl, by simpa using atMost, fun all => ⟨text (by simpa using all), by simp⟩⟩
      · cases finished

/-- Ordinary characters are read as they stand, up to the closing quote. -/
theorem readPlain?_ordinary {text : List Char} (ordinary : ∀ c ∈ text, Ordinary c)
    (after : List Char) : readPlain? .text (text ++ '"' :: after) = some (units text, after) := by
  induction text with
  | nil => rfl
  | cons c rest ih =>
      obtain ⟨⟨noQuote, noEscape, noEnd⟩, others⟩ := List.forall_mem_cons.mp ordinary
      have stepped : step .text c = some (.on (unitsOf c) .text) := by
        rw [step, textStep, if_neg noQuote, if_neg noEscape, if_neg noEnd, List.nil_append]
      rw [List.cons_append, readPlain?, stepped]
      dsimp only
      rw [ih others]
      rfl

/-- A plain literal is read from behind its opening quote. -/
theorem read?_plain (name : String) (after : List Char) :
    read? ((plain name).toList ++ after) = readPlain? .text (name.toList ++ '"' :: after) := by
  simp [plain, read?]

/-- A name that is read from the whole of a plain literal is no longer than what was written. -/
theorem length_units_of_read?_plain {name : String} {read : List UInt16} {after : List Char}
    (finished : read? ((plain name).toList ++ after) = some (read, after)) :
    read.length ≤ (units name.toList).length := by
  rw [read?_plain] at finished
  obtain ⟨characters, same, accounts⟩ := readPlain?_accounts finished
  obtain rfl := List.append_cancel_right same
  simpa using accounts.atMost

/-- A name written as a plain literal is read back exactly when all its characters are ordinary. -/
theorem read?_plain_iff (name : String) (after : List Char) :
    read? ((plain name).toList ++ after) = some (units name.toList, after) ↔
      ∀ c ∈ name.toList, Ordinary c := by
  rw [read?_plain]
  constructor
  · intro finished
    obtain ⟨characters, same, accounts⟩ := readPlain?_accounts finished
    obtain rfl := List.append_cancel_right same
    exact (accounts.ordinary (by simp)).2
  · exact fun ordinary => readPlain?_ordinary ordinary after

example : read? ((plain "caf\\u00e9\\x9").toList ++ [')']) =
    some (units "café\t".toList, [')']) := by decide

/-- In a verbatim literal every character but the quote stands for itself. -/
theorem readVerbatim?_cons {c : Char} (noQuote : c ≠ '"') (rest : List Char) :
    readVerbatim? (c :: rest) = prepend (unitsOf c) (readVerbatim? rest) := by
  rw [readVerbatim?]
  all_goals simp_all

/-- A verbatim literal takes the characters up to a quote that is not doubled, and its units are as
many as the characters account for only if there is no quote among them. -/
theorem readVerbatim?_accounts {text after : List Char} {read : List UInt16}
    (finished : readVerbatim? text = some (read, after)) :
    ∃ characters, text = characters ++ '"' :: after ∧
      read.length ≤ (units characters).length ∧
      (read.length = (units characters).length → '"' ∉ characters) := by
  induction text using readVerbatim?.induct generalizing read with
  | case1 => cases finished
  | case2 rest ih =>
      rw [readVerbatim?] at finished
      obtain ⟨more, further, rfl⟩ := prepend_eq_some finished
      obtain ⟨characters, rfl, atMost, -⟩ := ih further
      have one : 1 ≤ (unitsOf '"').length := (length_unitsOfCode _).1
      refine ⟨'"' :: '"' :: characters, rfl, ?_, fun all => ?_⟩
      · simp only [List.length_append, units_cons]
        omega
      · simp only [List.length_append, units_cons] at all
        omega
  | case3 rest single =>
      rw [readVerbatim?] at finished
      · cases finished
        exact ⟨[], rfl, Nat.le_refl _, by simp⟩
      · exact single
  | case4 c rest notDoubled noQuote ih =>
      rw [readVerbatim?_cons noQuote] at finished
      obtain ⟨more, further, rfl⟩ := prepend_eq_some finished
      obtain ⟨characters, rfl, atMost, unquoted⟩ := ih further
      refine ⟨c :: characters, rfl, ?_, fun all => ?_⟩
      · simp only [List.length_append, units_cons]
        omega
      · simp only [List.length_append, units_cons] at all
        exact List.not_mem_cons_of_ne_of_not_mem (Ne.symm noQuote) (unquoted (by omega))

/-- So a text without quotes is read as it stands, up to a closing quote that no other follows. -/
theorem readVerbatim?_unquoted {text after : List Char} (unquoted : '"' ∉ text)
    (apart : after.head? ≠ some '"') :
    readVerbatim? (text ++ '"' :: after) = some (units text, after) := by
  induction text with
  | nil =>
      cases after with
      | nil => rfl
      | cons c after =>
          rw [List.nil_append, readVerbatim?]
          · rfl
          · rintro rest ⟨⟩
            exact apart rfl
  | cons c rest ih =>
      rw [List.mem_cons, not_or] at unquoted
      obtain ⟨noQuote, others⟩ := unquoted
      rw [List.cons_append, readVerbatim?_cons (Ne.symm noQuote), ih others]
      rfl

/-- A name written as a verbatim literal is read back exactly when it has no quote. -/
theorem read?_verbatim_iff (name : String) {after : List Char} (apart : after.head? ≠ some '"') :
    read? ((verbatim name).toList ++ after) = some (units name.toList, after) ↔
      '"' ∉ name.toList := by
  have written : read? ((verbatim name).toList ++ after) =
      readVerbatim? (name.toList ++ '"' :: after) := by
    simp [verbatim, read?]
  rw [written]
  constructor
  · intro finished
    obtain ⟨characters, same, -, unquoted⟩ := readVerbatim?_accounts finished
    obtain rfl := List.append_cancel_right same
    exact unquoted rfl
  · exact fun unquoted => readVerbatim?_unquoted unquoted apart

/-- Both literals of a name without quotes denote the same exactly when all characters are
ordinary. -/
theorem read?_plain_eq_verbatim_iff {name : String} {after : List Char}
    (unquoted : '"' ∉ name.toList) (apart : after.head? ≠ some '"') :
    read? ((plain name).toList ++ after) = read? ((verbatim name).toList ++ after) ↔
      ∀ c ∈ name.toList, Ordinary c := by
  rw [(read?_verbatim_iff name apart).mpr unquoted, read?_plain_iff]

end DataLayer.Literal
