import DataLayer.Naming

/-!
# Starts, ends and parts of texts

Texts with different starts are different, whatever stands behind the starts, and a text without a
part is different from every text around it. A number behind a text can be read back.
-/

namespace DataLayer

namespace Text

/-- Whether the text ends with the given end. -/
def endsWith (ending text : String) : Bool := ending.toList.isSuffixOf text.toList

/-- Neither of two starts begins the other. -/
def startsApart (first second : String) : Bool :=
  !startsWith first second && !startsWith second first

/-- Starts that are apart do not begin one text. -/
theorem append_ne_append {first second : String} (apart : startsApart first second = true)
    (rest others : String) : first ++ rest ≠ second ++ others := by
  intro same
  have characters := congrArg String.toList same
  rw [String.toList_append, String.toList_append] at characters
  have begins : first.toList <+: second.toList ++ others.toList := ⟨rest.toList, characters⟩
  simp only [startsApart, startsWith, Bool.and_eq_true, Bool.not_eq_true', ← Bool.not_eq_true,
    List.isPrefixOf_iff_prefix] at apart
  rcases List.prefix_or_prefix_of_prefix begins (List.prefix_append _ _) with shorter | longer
  · exact apart.1 shorter
  · exact apart.2 longer

/-- A text that starts so does so with anything after it. -/
theorem startsWith_append {start first : String} (begins : startsWith start first = true)
    (rest : String) : startsWith start (first ++ rest) = true := by
  rw [startsWith, List.isPrefixOf_iff_prefix] at begins ⊢
  rw [String.toList_append]
  exact begins.trans (List.prefix_append _ _)

/-- A text that starts otherwise is no continuation of the start. -/
theorem append_ne {start text : String} (apart : startsWith start text = false) (rest : String) :
    start ++ rest ≠ text := by
  rintro rfl
  have itself : startsWith start start = true := List.isPrefixOf_iff_prefix.mpr (List.prefix_refl _)
  rw [startsWith_append itself] at apart
  cases apart

/-- A text that is apart from a start stays so with anything after it. -/
theorem startsWith_of_apart {start first : String} (apart : startsApart start first = true)
    (rest : String) : startsWith start (first ++ rest) = false := by
  rw [← Bool.not_eq_true, startsWith, List.isPrefixOf_iff_prefix]
  rintro ⟨others, same⟩
  apply append_ne_append apart (String.ofList others) rest
  apply String.toList_inj.mp
  rw [String.toList_append, String.toList_ofList, same]

/-- A text does not begin with a character that is missing in a longer part at its beginning. -/
theorem startsWith_of_not_mem {start first : String} {c : Char} (member : c ∈ start.toList)
    (missing : c ∉ first.toList) (long : start.toList.length ≤ first.toList.length)
    (rest : String) : startsWith start (first ++ rest) = false := by
  rw [← Bool.not_eq_true, startsWith, List.isPrefixOf_iff_prefix, String.toList_append]
  intro begins
  have within := List.prefix_of_prefix_length_le begins (List.prefix_append _ _) long
  exact missing (within.subset member)

/-- What is common in front decides nothing. -/
theorem startsWith_append_append (common start text : String) :
    startsWith (common ++ start) (common ++ text) = startsWith start text := by
  rw [startsWith, startsWith, String.toList_append, String.toList_append, Bool.eq_iff_iff,
    List.isPrefixOf_iff_prefix, List.isPrefixOf_iff_prefix, List.prefix_append_right_inj]

/-- What stands behind a start. -/
def behind? (start text : String) : Option String :=
  if startsWith start text then some (String.ofList (text.toList.drop start.toList.length)) else none

/-- Behind the start of a text stands the rest. -/
theorem behind?_append (start rest : String) : behind? start (start ++ rest) = some rest := by
  have begins := startsWith_append_append start "" rest
  rw [String.append_empty] at begins
  rw [behind?, begins, String.toList_append, List.drop_left, String.ofList_toList]
  rfl

/-- Nothing stands behind a start that the text is apart from. -/
theorem behind?_of_apart {start first : String} (apart : startsApart start first = true)
    (rest : String) : behind? start (first ++ rest) = none := by
  rw [behind?, startsWith_of_apart apart]
  rfl

/-- A text ends with what it was ended with. -/
theorem endsWith_append (before ending : String) : endsWith ending (before ++ ending) = true := by
  rw [endsWith, List.isSuffixOf_iff_suffix, String.toList_append]
  exact List.suffix_append _ _

/-- Neither of two ends ends the other. -/
def endsApart (first second : String) : Bool := !endsWith first second && !endsWith second first

/-- A text that is apart from an ending stays so with anything before it. -/
theorem endsWith_of_apart {ending last : String} (apart : endsApart ending last = true)
    (before : String) : endsWith ending (before ++ last) = false := by
  simp only [endsApart, endsWith, Bool.and_eq_true, Bool.not_eq_true', ← Bool.not_eq_true,
    List.isSuffixOf_iff_suffix] at apart
  rw [← Bool.not_eq_true, endsWith, List.isSuffixOf_iff_suffix, String.toList_append]
  intro ends
  rcases List.suffix_or_suffix_of_suffix ends (List.suffix_append _ _) with shorter | longer
  · exact apart.1 shorter
  · exact apart.2 longer

end Text

namespace Naming

open Text (isAsciiDigit)

/-- A number is spelled in ASCII digits. -/
theorem isAsciiDigit_of_mem_repr {number : Nat} {c : Char} (member : c ∈ number.repr.toList) :
    isAsciiDigit c = true := by
  rw [Nat.toList_repr] at member
  have digit := Nat.isDigit_of_mem_toDigits (by decide) (by decide) member
  simpa [isAsciiDigit, Char.isDigit, Char.le_def] using digit

/-- A number is written with at least one digit. -/
theorem exists_digit_repr (number : Nat) :
    ∃ digit rest, number.repr.toList = digit :: rest ∧ isAsciiDigit digit = true := by
  have written : number.repr.toList ≠ [] := by simp [Nat.toList_repr]
  obtain ⟨digit, rest, first⟩ := List.exists_cons_of_ne_nil written
  exact ⟨digit, rest, first, isAsciiDigit_of_mem_repr (first ▸ List.mem_cons_self)⟩

/-- The same base has different names under different numbers. -/
theorem numbered_injective {base : String} {first second : Nat}
    (same : numbered base first = numbered base second) : first = second := by
  have characters := congrArg String.toList same
  simp only [numbered, String.toList_append, Nat.toList_repr] at characters
  have value := congrArg (Nat.ofDigitChars 10 · 0) (List.append_cancel_left characters)
  simpa [Nat.ofDigitChars_toDigits] using value

/-- A number is spelled without underscores. -/
theorem underscore_not_mem_repr (number : Nat) : '_' ∉ number.repr.toList := by
  intro member
  exact absurd (isAsciiDigit_of_mem_repr member) (by decide)

/-- The last underscore is where two texts have it. -/
private theorem eq_of_lastUnderscore {left right digits others : List Char} (last : '_' ∉ digits)
    (lastOther : '_' ∉ others) (same : left ++ '_' :: digits = right ++ '_' :: others) :
    left = right := by
  rcases List.append_eq_append_iff.mp same with
    ⟨between, extended, rest⟩ | ⟨between, extended, rest⟩ <;>
    rcases List.cons_eq_append_iff.mp rest with ⟨rfl, -⟩ | ⟨more, rfl, written⟩
  · rw [extended, List.append_nil]
  · rw [written] at last
    exact absurd (List.mem_append_right _ List.mem_cons_self) last
  · rw [extended, List.append_nil]
  · rw [written] at lastOther
    exact absurd (List.mem_append_right _ List.mem_cons_self) lastOther

/-- A number behind an underscore can be read back together with what stands before it. -/
theorem numbered_underscore_inj {left right : String} {first second : Nat}
    (same : numbered (left ++ "_") first = numbered (right ++ "_") second) :
    left = right ∧ first = second := by
  have characters : left.toList ++ '_' :: first.repr.toList =
      right.toList ++ '_' :: second.repr.toList := by
    simpa [numbered] using congrArg String.toList same
  obtain rfl : left = right := String.toList_inj.mp
    (eq_of_lastUnderscore (underscore_not_mem_repr _) (underscore_not_mem_repr _) characters)
  exact ⟨rfl, numbered_injective same⟩

end Naming

end DataLayer
