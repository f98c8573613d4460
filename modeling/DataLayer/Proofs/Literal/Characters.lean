import DataLayer.Proofs.Literal.EscapedQuotes

/-!
# Literals of texts and of characters

A literal of a character stands between single quotes and comes to one code unit. It is read like
the literal of a text, but for the quotes, which change places. So both kinds are told by one reader,
and neither can contain a line end.
-/

namespace DataLayer.Literal

/-- The other kind of quote; any other character stays. -/
def otherQuote (c : Char) : Char := if c = '"' then '\'' else if c = '\'' then '"' else c

/-- Whether this is one plain literal of a text, between double quotes. -/
def isText (literal : String) : Bool :=
  match literal.toList with
  | '"' :: content => (readPlain? .text content).any fun (_, after) => after.isEmpty
  | _ => false

/-- Whether this is one literal of a character, between single quotes. -/
def isCharacter (literal : String) : Bool :=
  match literal.toList with
  | '\'' :: content =>
    (readPlain? .text (content.map otherQuote)).any fun (read, after) =>
      read.length == 1 && after.isEmpty
  | _ => false

example : isText "\"say \\\"hi\\\"\"" = true ∧ isText "\"a\\\"" = false ∧ isText "'a'" = false := by
  decide

example : isCharacter "'\\''" = true ∧ isCharacter "'\"'" = true ∧ isCharacter "'ab'" = false := by
  decide

section Kinds

variable {literal : String} {content : List Char}

/-- A literal of a text ends with the quote that closes it. -/
theorem isText_iff (opened : literal.toList = '"' :: content) :
    isText literal = true ↔ ∃ read, readPlain? .text content = some (read, []) := by
  rw [isText, opened]
  change Option.any _ _ = true ↔ _
  rw [Option.any_eq_true]
  constructor
  · rintro ⟨⟨read, after⟩, finished, ended⟩
    exact ⟨read, by rw [finished, List.isEmpty_iff.mp ended]⟩
  · rintro ⟨read, finished⟩
    exact ⟨_, finished, rfl⟩

/-- A literal of a character is read like one of a text, with the two quotes exchanged, and denotes
one code unit. -/
theorem isCharacter_iff (opened : literal.toList = '\'' :: content) :
    isCharacter literal = true ↔
      ∃ read, readPlain? .text (content.map otherQuote) = some (read, []) ∧ read.length = 1 := by
  rw [isCharacter, opened]
  change Option.any _ _ = true ↔ _
  rw [Option.any_eq_true]
  constructor
  · rintro ⟨⟨read, after⟩, finished, ended⟩
    rw [Bool.and_eq_true, beq_iff_eq, List.isEmpty_iff] at ended
    exact ⟨read, by rw [finished, ended.2], ended.1⟩
  · rintro ⟨read, finished, single⟩
    exact ⟨_, finished, by simp [single]⟩

/-- Without a double quote in front there is no literal of a text. -/
theorem isText_eq_false {first : Char} (opened : literal.toList = first :: content)
    (other : first ≠ '"') : isText literal = false := by
  rw [isText, opened]
  split
  · rename_i same
    exact absurd (List.cons.inj same).1 other
  · rfl

/-- Only the single quote becomes a double one. -/
theorem otherQuote_eq_quote_iff {c : Char} : otherQuote c = '"' ↔ c = '\'' := by
  unfold otherQuote
  split
  · simp_all
  · split <;> simp_all

/-- What holds of both quotes or of none holds of the other quote as well. -/
theorem otherQuote_iff (property : Char → Prop) (both : property '"' ↔ property '\'') (c : Char) :
    property (otherQuote c) ↔ property c := by
  unfold otherQuote
  split
  · rename_i quote
    rw [quote, both]
  · split
    · rename_i quote
      rw [quote, both]
    · rfl

/-- With the other quotes, a text with escaped single quotes is one with escaped double quotes. -/
theorem map_otherQuote_escaped (text : List Char) :
    (text.flatMap fun c => if c = '\'' then ['\\', '\''] else [c]).map otherQuote =
      escaped (text.map otherQuote) := by
  rw [List.map_flatMap, escaped, List.flatMap_map]
  congr 1
  funext c
  by_cases quote : c = '\''
  · subst quote
    rfl
  · have other : otherQuote c ≠ '"' := fun same => quote (otherQuote_eq_quote_iff.mp same)
    rw [if_neg quote, if_neg other]
    rfl

end Kinds

/-- No step leads over a line end. -/
theorem not_lineEnd_of_step {mode : Mode} {c : Char} {taken : Step}
    (stepped : step mode c = some taken) : c ∉ lineEnds := by
  intro lineEnd
  have blocked : lineEnds.all (fun d => (hexValue? d).isNone && (step .text d).isNone &&
      (step .escape d).isNone) = true := by decide
  have answers := List.all_eq_true.mp blocked c lineEnd
  simp only [Bool.and_eq_true, Option.isNone_iff_eq_none] at answers
  obtain ⟨⟨noDigit, inText⟩, inEscape⟩ := answers
  cases mode with
  | text => simp [inText] at stepped
  | escape => simp [inEscape] at stepped
  | upToFour digits value =>
      simp only [step, noDigit] at stepped
      split at stepped
      · cases stepped
      · obtain ⟨rfl, -⟩ | ⟨rfl, -⟩ | ⟨ordinary, -⟩ := textStep_cases stepped
        · exact absurd lineEnd (by decide)
        · exact absurd lineEnd (by decide)
        · exact ordinary.2.2 lineEnd
  | exactly left value => simp [step, noDigit] at stepped

/-- A literal that is read to its end has no line end in it. -/
theorem not_lineEnd_of_readPlain? {mode : Mode} {text : List Char} {read : List UInt16}
    (finished : readPlain? mode text = some (read, [])) : ∀ c ∈ text, c ∉ lineEnds := by
  induction text generalizing mode read with
  | nil => simp
  | cons c rest ih =>
      rw [readPlain?] at finished
      split at finished
      · obtain ⟨more, further, -⟩ := prepend_eq_some finished
        exact List.forall_mem_cons.mpr ⟨not_lineEnd_of_step ‹_›, ih further⟩
      · cases finished
        exact List.forall_mem_cons.mpr ⟨not_lineEnd_of_step ‹_›, by simp⟩
      · cases finished

section Escaped

variable {text : List Char}

/-- Escaping loses no character. -/
theorem mem_escaped {c : Char} (member : c ∈ text) : c ∈ escaped text :=
  List.mem_flatMap.mpr ⟨c, member, by split <;> simp_all⟩

/-- A text without a backslash of its own is read to the end exactly when there is no line end in
it. -/
theorem exists_readPlain?_escaped_iff (noEscape : '\\' ∉ text) :
    (∃ read, readPlain? .text (escaped text ++ ['"']) = some (read, [])) ↔
      ∀ c ∈ text, c ∉ lineEnds := by
  constructor
  · rintro ⟨read, finished⟩ c member
    exact not_lineEnd_of_readPlain? finished c (List.mem_append_left _ (mem_escaped member))
  · intro noEnd
    exact ⟨units text, readPlain?_escaped fun c member =>
      ⟨fun escape => noEscape (escape ▸ member), noEnd c member⟩⟩

/-- One code unit is what a single character has when its code is small enough. -/
theorem length_units_eq_one_iff :
    (units text).length = 1 ↔ ∃ c, text = [c] ∧ c.toNat < 0x10000 := by
  have one (c : Char) : (unitsOf c).length = 1 ↔ c.toNat < 0x10000 := by
    unfold unitsOf unitsOfCode
    split <;> simp_all
  cases text with
  | nil => simp
  | cons c rest =>
      cases rest with
      | nil => simp [one]
      | cons d rest =>
          have first : 1 ≤ (unitsOf c).length := (length_unitsOfCode c.toNat).1
          have second : 1 ≤ (unitsOf d).length := (length_unitsOfCode d.toNat).1
          simp only [units_cons, List.length_append, List.cons.injEq, reduceCtorEq, and_false,
            false_and, exists_false, iff_false]
          omega

/-- It comes to one unit exactly when it is one character that has one unit. -/
theorem exists_readPlain?_escaped_single_iff (noEscape : '\\' ∉ text) :
    (∃ read, readPlain? .text (escaped text ++ ['"']) = some (read, []) ∧ read.length = 1) ↔
      ∃ c, text = [c] ∧ c ∉ lineEnds ∧ c.toNat < 0x10000 := by
  have read_ (noEnd : ∀ c ∈ text, c ∉ lineEnds) :
      readPlain? .text (escaped text ++ ['"']) = some (units text, []) :=
    readPlain?_escaped fun c member =>
      ⟨fun escape => noEscape (escape ▸ member), noEnd c member⟩
  constructor
  · rintro ⟨read, finished, single⟩
    have noEnd := (exists_readPlain?_escaped_iff noEscape).mp ⟨read, finished⟩
    rw [read_ noEnd] at finished
    obtain ⟨rfl, -⟩ := Prod.mk.inj (Option.some.inj finished)
    obtain ⟨c, rfl, small⟩ := length_units_eq_one_iff.mp single
    exact ⟨c, rfl, noEnd c List.mem_cons_self, small⟩
  · rintro ⟨c, rfl, noEnd, small⟩
    exact ⟨_, read_ (by simpa using noEnd), length_units_eq_one_iff.mpr ⟨c, rfl, small⟩⟩

/-- A text without a backslash, with its single quotes escaped and between single quotes, is a
literal of a character exactly when it is one character that has one unit and ends no line. -/
theorem isCharacter_escaped_iff {literal : String} (noEscape : '\\' ∉ text)
    (written : literal.toList =
      '\'' :: ((text.flatMap fun c => if c = '\'' then ['\\', '\''] else [c]) ++ ['\''])) :
    isCharacter literal = true ↔ ∃ c, text = [c] ∧ c ∉ lineEnds ∧ c.toNat < 0x10000 := by
  have noEscapeOther : '\\' ∉ text.map otherQuote := by
    intro member
    obtain ⟨c, among, escape⟩ := List.mem_map.mp member
    exact noEscape ((otherQuote_iff (· = '\\') (by decide) c).mp escape ▸ among)
  rw [isCharacter_iff written, List.map_append, map_otherQuote_escaped]
  refine (exists_readPlain?_escaped_single_iff noEscapeOther).trans ⟨?_, ?_⟩
  · rintro ⟨d, same, noEnd, small⟩
    obtain ⟨c, rfl, rfl⟩ := List.map_eq_singleton_iff.mp same
    exact ⟨c, rfl, (otherQuote_iff (· ∉ lineEnds) (by decide) c).mp noEnd,
      (otherQuote_iff (fun c => c.toNat < 0x10000) (by decide) c).mp small⟩
  · rintro ⟨c, rfl, noEnd, small⟩
    exact ⟨otherQuote c, rfl, (otherQuote_iff (· ∉ lineEnds) (by decide) c).mpr noEnd,
      (otherQuote_iff (fun c => c.toNat < 0x10000) (by decide) c).mpr small⟩

end Escaped

end DataLayer.Literal
