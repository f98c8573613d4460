import DataLayer.Proofs.Identifier.Underscore
import DataLayer.Proofs.Text.Case

/-!
# Identifiers for arbitrary texts

A text becomes an identifier in two steps: each character that cannot stand in an identifier becomes
an underscore, and a text that is then a reserved word or begins with a digit gets one in front.
-/

namespace DataLayer.Identifier

open Text (isAsciiDigit)

/-- The text with an underscore for each character that cannot stand in an identifier. -/
def cleaned (text : String) : String := String.ofList (clean text.toList)

/-- Whether the first character is an ASCII digit. -/
def beginsWithDigit (text : String) : Bool := text.toList.head?.any isAsciiDigit

/-- The text is no identifier although all its characters can stand in one. -/
def needsUnderscore (text : String) : Bool := beginsWithDigit text || isReserved text

/-- One underscore in front is enough. -/
theorem needsUnderscore_underscore (text : String) : needsUnderscore ("_" ++ text) = false := by
  have noDigit : beginsWithDigit ("_" ++ text) = false := by
    rw [beginsWithDigit, String.toList_append]
    rfl
  rw [needsUnderscore, noDigit, isReserved_underscore, Bool.or_self]

/-- Digits at the beginning are guarded by an underscore. -/
theorem guardDigit_eq (text : String) :
    String.ofList (guardDigit text.toList) = underscored beginsWithDigit text := by
  unfold underscored beginsWithDigit
  apply String.toList_inj.mp
  cases characters : text.toList with
  | nil => simp [guardDigit, characters]
  | cons c rest => cases digit : isAsciiDigit c <;> simp [guardDigit, characters, digit]

/-- The identifier for a text is the cleaned text, with an underscore where it needs one. -/
theorem ofText_eq (text : String) : ofText text = underscored needsUnderscore (cleaned text) := by
  have guarded := guardDigit_eq (cleaned text)
  rw [cleaned, String.toList_ofList] at guarded
  rw [ofText, guarded, escapeReserved_eq]
  exact underscored_underscored isReserved_underscore (cleaned text)

/-- No identifier for a text needs an underscore. -/
theorem needsUnderscore_ofText (text : String) : needsUnderscore (ofText text) = false := by
  rw [ofText_eq]
  rcases underscored_eq_or needsUnderscore (cleaned text) with ⟨usable, same⟩ | ⟨-, marked⟩
  · rw [same, usable]
  · rw [marked, needsUnderscore_underscore]

/-- The identifier for a text is no reserved word. -/
theorem isReserved_ofText (text : String) : isReserved (ofText text) = false :=
  (Bool.or_eq_false_iff.mp (needsUnderscore_ofText text)).2

/-- What may begin an identifier may stand in it. -/
theorem isPart_of_isStart {c : Char} (start : isStart c = true) : isPart c = true := by
  rw [isPart, Text.isAlphanumeric]
  rcases Bool.or_eq_true_iff.mp start with letter | underscore
  · rw [letter, Bool.true_or, Bool.true_or]
  · rw [underscore, Bool.or_true]

/-- Cleaning leaves text alone that can stand in an identifier. -/
theorem clean_eq_self {text : List Char} (parts : text.all isPart = true) : clean text = text :=
  (List.map_congr_left fun c member => if_pos (List.all_eq_true.mp parts c member)).trans
    (List.map_id' text)

/-- Everything in the identifier for a text can stand in an identifier. -/
theorem all_isPart_ofText (text : String) : (ofText text).toList.all isPart = true := by
  have underscore : isPart '_' = true := by simp [isPart]
  have parts : (cleaned text).toList.all isPart = true := by
    rw [cleaned, String.toList_ofList, clean, List.all_map, List.all_eq_true]
    intro c _
    simp only [Function.comp_apply]
    split
    · assumption
    · exact underscore
  rw [ofText_eq]
  rcases underscored_eq_or needsUnderscore (cleaned text) with ⟨-, same⟩ | ⟨-, marked⟩
  · rw [same, parts]
  · rw [marked, String.toList_append, List.all_append, parts, Bool.and_true]
    simpa using underscore

/-- No identifier begins with a digit. -/
theorem beginsWithDigit_of_isSimple {text : String} (simple : isSimple text.toList = true) :
    beginsWithDigit text = false := by
  have apart {c : Char} (digit : isAsciiDigit c = true) : isStart c = false := by
    obtain ⟨low, high⟩ := Text.codes_of_isAsciiDigit digit
    have plain : Text.isAlphabetic c = false := Text.inRanges_of_apart (by decide +kernel) low high
    rw [isStart, plain, Bool.false_or, beq_eq_false_iff_ne]
    rintro rfl
    exact absurd high (by decide)
  unfold beginsWithDigit
  cases characters : text.toList with
  | nil => rfl
  | cons c rest =>
      rw [characters, isSimple, Bool.and_eq_true] at simple
      cases digit : isAsciiDigit c with
      | false => exact digit
      | true =>
          rw [apart digit] at simple
          cases simple.1

/-- All characters of an identifier may stand in one. -/
theorem parts_of_isSimple {text : List Char} (simple : isSimple text = true) :
    text.all isPart = true := by
  cases text with
  | nil => cases simple
  | cons c rest =>
      obtain ⟨start, parts⟩ := Bool.and_eq_true_iff.mp simple
      rw [List.all_cons, isPart_of_isStart start, parts]
      rfl

/-- Behind an identifier stands what can stand in one. -/
theorem isSimple_append {start : List Char} (simple : isSimple start = true) (rest : List Char) :
    isSimple (start ++ rest) = rest.all isPart := by
  cases start with
  | nil => cases simple
  | cons c more =>
      obtain ⟨first, parts⟩ := Bool.and_eq_true_iff.mp simple
      rw [List.cons_append, isSimple, List.all_append, first, parts, Bool.true_and, Bool.true_and]

/-- An underscore in front makes no difference to a text that begins like an identifier. -/
theorem isSimple_underscored {unusable : String → Bool}
    (begins : ∀ name, unusable name = true → name.toList.head?.any isStart = true) (name : String) :
    isSimple (underscored unusable name).toList = isSimple name.toList := by
  rcases underscored_eq_or unusable name with ⟨-, same⟩ | ⟨unusableName, marked⟩
  · rw [same]
  · have started := begins name unusableName
    have underscore : isSimple "_".toList = true := by simp [isSimple, isStart]
    rw [marked, String.toList_append, isSimple_append underscore]
    cases characters : name.toList with
    | nil =>
        rw [characters] at started
        cases started
    | cons c rest =>
        rw [characters, List.head?_cons, Option.any_some] at started
        rw [List.all_cons, isPart_of_isStart started, isSimple, started]

/-- Of an identifier nothing is cleaned, so it is only escaped. -/
theorem ofText_eq_escapeReserved {text : String} (simple : isSimple text.toList = true) :
    ofText text = escapeReserved text := by
  have same : cleaned text = text := by
    rw [cleaned, clean_eq_self (parts_of_isSimple simple), String.ofList_toList]
  rw [ofText_eq, same, escapeReserved_eq, underscored, needsUnderscore,
    beginsWithDigit_of_isSimple simple, Bool.false_or]
  rfl

/-- An identifier that is not reserved stays as it is. -/
theorem ofText_of_isSimple {text : String} (simple : isSimple text.toList = true)
    (free : isReserved text = false) : ofText text = text := by
  rw [ofText_eq_escapeReserved simple, escapeReserved, free]
  rfl

end DataLayer.Identifier
