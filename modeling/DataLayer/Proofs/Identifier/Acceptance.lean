import DataLayer.Proofs.Identifier.Cleanup
import DataLayer.Proofs.Text.Letters
import DataLayer.Proofs.Text.Words

/-!
# Which cleaned texts are identifiers

The identifier for a text has only characters that can stand in an identifier. So it has no dot, it
is no reserved word, and making it an identifier once more changes nothing. Only ASCII digits get an
underscore in front, so a text that begins with another numeral becomes no identifier:
`ofText_cleanedUp` says that all others do, the empty text apart.
-/

namespace DataLayer.Identifier

open Text (isAlphabetic isAlphanumeric isAsciiDigit isNumeric)

section Accepted

/-- An identifier has a character that may begin one and then others that may stand in it. -/
theorem isSimple_eq (text : List Char) :
    isSimple text = (text.head?.any isStart && text.all isPart) := by
  cases text with
  | nil => rfl
  | cons c rest =>
      rw [isSimple, List.head?_cons, Option.any_some, List.all_cons]
      cases start : isStart c with
      | false => rfl
      | true => rw [isPart_of_isStart start, Bool.true_and, Bool.true_and]

/-- A dot cannot stand in an identifier. -/
theorem dot_not_mem {text : List Char} (parts : text.all isPart = true) : '.' ∉ text := by
  have dot : isPart '.' = false := by decide +kernel
  intro member
  have part := List.all_eq_true.mp parts '.' member
  rw [dot] at part
  cases part

/-- Without dots, a path is a single identifier. -/
theorem isPath_of_dotless {text : String} (dotless : '.' ∉ text.toList) :
    isPath text = isSimple text.toList := by
  have free : ∀ c ∈ text.toList, (c == '.') = false := by
    intro c member
    rw [beq_eq_false_iff_ne]
    rintro rfl
    exact dotless member
  rw [isPath, Text.splitWhere_of_free free, List.all_cons, List.all_nil, Bool.and_true]

/-- Reserved words are identifiers, at least at their beginning. -/
theorem isStart_of_isReserved {name : String} (reserved : isReserved name = true) :
    name.toList.head?.any isStart = true := by
  obtain ⟨nonempty, small⟩ := small_of_isReserved reserved
  obtain ⟨c, rest, characters⟩ := List.exists_cons_of_ne_nil nonempty
  rw [characters] at small ⊢
  have first := Text.isAlphabetic_of_isLower (small c List.mem_cons_self)
  rw [List.head?_cons, Option.any_some, isStart, first, Bool.true_or]

end Accepted

/-- Numerals that are neither letters nor ASCII digits. They can stand in an identifier, but not
begin one. -/
def isOtherNumeral (c : Char) : Bool := isNumeric c && !isAlphabetic c && !isAsciiDigit c

/-- What may stand in an identifier may begin it too, except for digits and other numerals. -/
theorem isStart_of_isPart {c : Char} (part : isPart c = true) (noDigit : isAsciiDigit c = false) :
    isStart c = !isOtherNumeral c := by
  have underscore : isNumeric '_' = false := by decide +kernel
  unfold isPart isAlphanumeric at part
  unfold isStart isOtherNumeral
  rw [noDigit]
  by_cases same : c = '_'
  · rw [same, underscore]
    simp
  · have other : (c == '_') = false := beq_eq_false_iff_ne.mpr same
    rw [other, Bool.or_false] at part ⊢
    cases letter : isAlphabetic c with
    | true => simp
    | false =>
        rw [letter, Bool.false_or] at part
        rw [part]
        rfl

/-- Behind cleaning, the first character can begin an identifier unless it is such a numeral or a
digit. -/
theorem isStart_cleaned {text : String} {c : Char} {rest : List Char}
    (characters : text.toList = c :: rest) (usable : beginsWithDigit (cleaned text) = false) :
    (cleaned text).toList.head?.any isStart = !isOtherNumeral c := by
  unfold beginsWithDigit at usable
  rw [cleaned, String.toList_ofList, characters, clean, List.map_cons, List.head?_cons,
    Option.any_some] at usable ⊢
  cases part : isPart c with
  | true =>
      rw [part, if_pos rfl] at usable
      rw [if_pos rfl, isStart_of_isPart part usable]
  | false =>
      obtain ⟨plain, -⟩ := Bool.or_eq_false_iff.mp part
      obtain ⟨-, noNumeral⟩ := Bool.or_eq_false_iff.mp plain
      have underscore : isStart '_' = true := by simp [isStart]
      rw [if_neg Bool.false_ne_true, isOtherNumeral, noNumeral, underscore]
      rfl

/-- A text that begins with such a numeral gets no underscore. -/
theorem needsUnderscore_of_isOtherNumeral {text : String} {c : Char} {rest : List Char}
    (characters : text.toList = c :: rest) (numeral : isOtherNumeral c = true) :
    needsUnderscore (cleaned text) = false := by
  have noDigit : beginsWithDigit (cleaned text) = false := by
    simp only [isOtherNumeral, Bool.and_eq_true, Bool.not_eq_true'] at numeral
    obtain ⟨⟨numeric, -⟩, noDigit⟩ := numeral
    have part : isPart c = true := by rw [isPart, isAlphanumeric, numeric, Bool.or_true, Bool.true_or]
    rw [beginsWithDigit, cleaned, String.toList_ofList, characters, clean, List.map_cons,
      if_pos part, List.head?_cons, Option.any_some, noDigit]
  rw [needsUnderscore, noDigit, Bool.false_or, ← Bool.not_eq_true]
  intro reserved
  have start := isStart_of_isReserved reserved
  rw [isStart_cleaned characters noDigit, numeral] at start
  cases start

/-- The identifier for a text begins like one unless the text begins with such a numeral. -/
theorem isStart_ofText {text : String} {c : Char} {rest : List Char}
    (characters : text.toList = c :: rest) :
    (ofText text).toList.head?.any isStart = !isOtherNumeral c := by
  rw [ofText_eq]
  rcases underscored_eq_or needsUnderscore (cleaned text) with ⟨usable, same⟩ | ⟨unusable, marked⟩
  · rw [same, isStart_cleaned characters (Bool.or_eq_false_iff.mp usable).1]
  · have begins : ("_" ++ cleaned text).toList.head?.any isStart = true := by
      simp [String.toList_append, isStart]
    rw [marked, begins]
    cases numeral : isOtherNumeral c with
    | false => rfl
    | true =>
        rw [needsUnderscore_of_isOtherNumeral characters numeral] at unusable
        cases unusable

/-- Making a text an identifier twice is making it one. -/
theorem ofText_ofText (text : String) : ofText (ofText text) = ofText text := by
  have same : cleaned (ofText text) = ofText text := by
    rw [cleaned, clean_eq_self (all_isPart_ofText text), String.ofList_toList]
  rw [ofText_eq (ofText text), same, underscored, needsUnderscore_ofText]
  rfl

/-- What the identifier for a text is, and when it is an identifier. -/
structure CleanedUp (text : String) : Prop where
  /-- It is one when the text is not empty and does not begin with a numeral that is neither a letter
  nor an ASCII digit. -/
  accepted : isPath (ofText text) = true ↔
    text ≠ "" ∧ text.toList.head?.any isOtherNumeral = false
  dotless : '.' ∉ (ofText text).toList
  free : isReserved (ofText text) = false
  stable : ofText (ofText text) = ofText text

/-- Every text that is not empty is made an identifier, unless it begins with a numeral that the
guard against digits does not know. -/
theorem ofText_cleanedUp (text : String) : CleanedUp text where
  accepted := by
    rw [isPath_of_dotless (dot_not_mem (all_isPart_ofText text)), isSimple_eq, all_isPart_ofText,
      Bool.and_true]
    cases characters : text.toList with
    | nil =>
        obtain rfl : text = "" := String.toList_eq_nil_iff.mp characters
        decide
    | cons c rest =>
        have nonempty : text ≠ "" := by
          rintro rfl
          cases characters
        rw [isStart_ofText characters, List.head?_cons, Option.any_some, Bool.not_eq_true']
        exact ⟨fun other => ⟨nonempty, other⟩, And.right⟩
  dotless := dot_not_mem (all_isPart_ofText text)
  free := isReserved_ofText text
  stable := ofText_ofText text

/-- A wide digit at the beginning gets no underscore, although no identifier begins with one. -/
theorem ofText_not_always_accepted : ¬ ∀ text, text ≠ "" → isPath (ofText text) = true := by
  intro claimed
  exact absurd (claimed "１st" (by decide)) (by decide +kernel)

example : ofText "1st" = "_1st" ∧ ofText "１st" = "１st" := by decide +kernel

end DataLayer.Identifier
