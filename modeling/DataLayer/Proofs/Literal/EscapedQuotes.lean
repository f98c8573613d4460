import DataLayer.Proofs.Literal.Reading

/-!
# Texts with escaped quotes

A text can be put between quotes with a backslash before each quote inside. The literal denotes the
text exactly when there is no backslash of its own and no line end in it: a quote and its backslash
come to one unit, like the quote itself, while every other escape comes to fewer units than its
characters account for.
-/

namespace DataLayer.Literal

/-- The text with a backslash before each quote. -/
def escaped (text : List Char) : List Char :=
  text.flatMap fun c => if c = '"' then ['\\', '"'] else [c]

/-- The text is what reading the literal comes to, with nothing left behind it. -/
def Denotes (literal : String) (text : List Char) : Prop :=
  read? literal.toList = some (units text, [])

instance (literal : String) (text : List Char) : Decidable (Denotes literal text) :=
  inferInstanceAs (Decidable (_ = _))

/-- A double quote gets a backslash in front. -/
theorem escaped_quote (rest : List Char) :
    escaped ('"' :: rest) = '\\' :: '"' :: escaped rest := rfl

/-- Any other character stays. -/
theorem escaped_cons {c : Char} (noQuote : c ≠ '"') (rest : List Char) :
    escaped (c :: rest) = c :: escaped rest := by
  rw [escaped, List.flatMap_cons, if_neg noQuote]
  rfl

/-- A quote behind a backslash of its own adds at most one unit to those that are pending. Behind an
open backslash it is not escaped and ends the literal. -/
theorem readPlain?_escapedQuote {mode : Mode} {rest after : List Char} {read : List UInt16}
    (finished : readPlain? mode ('\\' :: '"' :: rest) = some (read, after)) :
    after = rest ∨ ∃ before more, readPlain? .text rest = some (more, after) ∧
      read = before ++ more ∧ before.length ≤ mode.pending + 1 ∧
      (before.length = mode.pending + 1 → mode = .text) := by
  have quoted : readPlain? .escape ('"' :: rest) = prepend [0x22] (readPlain? .text rest) := rfl
  cases mode with
  | text =>
      right
      obtain ⟨more, further, rfl⟩ := prepend_eq_some finished
      rw [quoted] at further
      obtain ⟨last, behind, rfl⟩ := prepend_eq_some further
      exact ⟨[0x22], last, behind, rfl, by simp, fun _ => rfl⟩
  | escape =>
      left
      obtain ⟨more, further, rfl⟩ := prepend_eq_some finished
      cases further
      rfl
  -- The backslash is no digit, so a value that has begun ends in front of it.
  | upToFour digits value =>
      right
      have noDigit : hexValue? '\\' = none := by decide
      simp only [readPlain?, step, noDigit] at finished
      split at finished
      · rename_i before next stepped
        split at stepped
        · cases stepped
        · cases stepped
          obtain ⟨more, further, rfl⟩ := prepend_eq_some finished
          change readPlain? .escape ('"' :: rest) = _ at further
          rw [quoted] at further
          obtain ⟨last, behind, rfl⟩ := prepend_eq_some further
          exact ⟨[value.toUInt16, 0x22], last, behind, rfl, by simp, by simp⟩
      · rename_i stepped
        split at stepped <;> cases stepped
      · cases finished
  -- Here a digit is missing, and nothing is read at all.
  | exactly left value =>
      have noDigit : hexValue? '\\' = none := by decide
      simp [readPlain?, step, noDigit] at finished

/-- The units that are read from an escaped text, and from a quote that ends it and everything, are
at most those of the text, and fewer when the text has a backslash or a line end. -/
theorem readPlain?_escaped_accounts {mode : Mode} {text : List Char} {read : List UInt16}
    (finished : readPlain? mode (escaped text ++ ['"']) = some (read, [])) :
    read.length ≤ mode.pending + (units text).length ∧
      (read.length = mode.pending + (units text).length →
        mode = .text ∧ ∀ c ∈ text, c ≠ '\\' ∧ c ∉ lineEnds) := by
  induction text generalizing mode read with
  | nil =>
      obtain ⟨characters, same, atMost, ordinary⟩ := readPlain?_accounts finished
      obtain rfl : [] = characters := List.append_cancel_right same
      exact ⟨atMost, fun all => ⟨(ordinary all).1, by simp⟩⟩
  | cons c rest ih =>
      have counted : 1 ≤ (unitsOf c).length := (length_unitsOfCode c.toNat).1
      rw [units_cons, List.length_append]
      by_cases quote : c = '"'
      · -- The quote and its backslash are read together: one by one they account for two units.
        subst quote
        rw [escaped_quote, List.cons_append, List.cons_append] at finished
        rcases readPlain?_escapedQuote finished with ended | ⟨before, more, further, rfl, few, text⟩
        · simp at ended
        obtain ⟨atMost, others⟩ := ih further
        rw [Mode.pending_text, Nat.zero_add] at atMost others
        rw [List.length_append]
        refine ⟨by omega, fun all => ⟨text (by omega), List.forall_mem_cons.mpr ⟨by decide, ?_⟩⟩⟩
        exact (others (by omega)).2
      · rw [escaped_cons quote, List.cons_append, readPlain?] at finished
        split at finished
        · rename_i before next stepped
          obtain ⟨more, further, rfl⟩ := prepend_eq_some finished
          obtain ⟨atMost, ordinary⟩ := step_accounts stepped
          obtain ⟨restAtMost, others⟩ := ih further
          rw [List.length_append]
          refine ⟨by omega, fun all => ?_⟩
          obtain ⟨text, others⟩ := others (by omega)
          have settled : next.pending = 0 := by rw [text, Mode.pending_text]
          obtain ⟨here, -, first⟩ := ordinary text (by omega)
          exact ⟨here, List.forall_mem_cons.mpr ⟨first, others⟩⟩
        · rename_i before stepped
          exact absurd (step_ended stepped).1 quote
        · cases finished

/-- Escaping its quotes is enough for a text without backslashes and line ends. -/
theorem readPlain?_escaped {text : List Char} (free : ∀ c ∈ text, c ≠ '\\' ∧ c ∉ lineEnds) :
    readPlain? .text (escaped text ++ ['"']) = some (units text, []) := by
  induction text with
  | nil => rfl
  | cons c rest ih =>
      obtain ⟨⟨noEscape, noEnd⟩, others⟩ := List.forall_mem_cons.mp free
      by_cases quote : c = '"'
      · subst quote
        -- The backslash adds nothing, and the quote behind it stands for itself.
        have read : readPlain? .text (escaped ('"' :: rest) ++ ['"']) =
            prepend (unitsOf '"') (readPlain? .text (escaped rest ++ ['"'])) := by
          rw [escaped_quote, List.cons_append, List.cons_append]
          change prepend [] (prepend [0x22] _) = _
          cases readPlain? .text (escaped rest ++ ['"']) <;> rfl
        rw [read, ih others]
        rfl
      · have stepped : step .text c = some (.on (unitsOf c) .text) := by
          rw [step, textStep, if_neg quote, if_neg noEscape, if_neg noEnd, List.nil_append]
        rw [escaped_cons quote, List.cons_append, readPlain?, stepped]
        dsimp only
        rw [ih others]
        rfl

/-- A literal with escaped quotes denotes the text exactly when the text has no backslash and no
line end. -/
theorem readPlain?_escaped_iff (text : List Char) :
    readPlain? .text (escaped text ++ ['"']) = some (units text, []) ↔
      ∀ c ∈ text, c ≠ '\\' ∧ c ∉ lineEnds :=
  ⟨fun finished => ((readPlain?_escaped_accounts finished).2 (by simp)).2, readPlain?_escaped⟩

/-- A single quote comes to a unit in every mode in which it can be read. -/
theorem step_apostrophe {mode next : Mode} {before : List UInt16}
    (stepped : step mode '\'' = some (.on before next)) : 0x27 ∈ before := by
  have noDigit : hexValue? '\'' = none := by decide
  cases mode with
  | text => cases stepped; decide
  | escape => cases stepped; decide
  | upToFour digits value =>
      simp only [step, noDigit] at stepped
      split at stepped
      · cases stepped
      · cases stepped
        exact List.mem_append_right _ (by decide)
  | exactly left value => simp [step, noDigit] at stepped

/-- What is read has a unit for each single quote of the characters. -/
theorem readPlain?_apostrophes {mode : Mode} {text after : List Char} {read : List UInt16}
    (finished : readPlain? mode text = some (read, after)) :
    text.count '\'' ≤ read.count 0x27 + after.count '\'' := by
  induction text generalizing mode read with
  | nil => cases finished
  | cons c rest ih =>
      rw [readPlain?] at finished
      split at finished
      · rename_i before next stepped
        obtain ⟨more, further, rfl⟩ := prepend_eq_some finished
        have others := ih further
        rw [List.count_append]
        -- A single quote is never part of an escape, so each one that is read leaves its unit.
        by_cases apostrophe : c = '\''
        · subst apostrophe
          have one : 1 ≤ before.count 0x27 := List.count_pos_iff.mpr (step_apostrophe stepped)
          rw [List.count_cons_self]
          omega
        · rw [List.count_cons_of_ne apostrophe]
          omega
      · rename_i before stepped
        cases finished
        obtain ⟨rfl, -⟩ := step_ended stepped
        rw [List.count_cons_of_ne (by decide)]
        omega
      · cases finished

private theorem toUInt16_eq_apostrophe_iff (code : Nat) (small : code < 0x10000) :
    code.toUInt16 = 0x27 ↔ code = 0x27 := by
  rw [← UInt16.toNat_inj, Nat.toUInt16_eq, UInt16.toNat_ofNat_of_lt' small]
  rfl

/-- Only a single quote has its unit: no unit of a surrogate pair is this one. -/
theorem count_unitsOf (c : Char) : (unitsOf c).count 0x27 = if c = '\'' then 1 else 0 := by
  have scalar : c.toNat < 0xD800 ∨ 0xDFFF < c.toNat ∧ c.toNat < 0x110000 := c.valid
  have same : c = '\'' ↔ c.toNat = 0x27 := Char.toNat_inj.symm
  unfold unitsOf unitsOfCode
  split
  · rw [List.count_singleton]
    simp only [beq_iff_eq, toUInt16_eq_apostrophe_iff _ ‹_›, same]
  · have high : (0xD7C0 + c.toNat / 0x400).toUInt16 ≠ 0x27 := by
      rw [ne_eq, toUInt16_eq_apostrophe_iff _ (by omega)]
      omega
    have low : (0xDC00 + c.toNat % 0x400).toUInt16 ≠ 0x27 := by
      rw [ne_eq, toUInt16_eq_apostrophe_iff _ (by omega)]
      omega
    rw [if_neg (by rw [same]; omega), List.count_cons_of_ne high, List.count_cons_of_ne low,
      List.count_nil]

/-- A single quote is one code unit, and no other character has this unit. -/
theorem count_units (text : List Char) : (units text).count 0x27 = text.count '\'' := by
  induction text with
  | nil => rfl
  | cons c rest ih =>
      rw [units_cons, List.count_append, ih, count_unitsOf, List.count_cons, Nat.add_comm]
      simp only [beq_iff_eq]

end DataLayer.Literal
