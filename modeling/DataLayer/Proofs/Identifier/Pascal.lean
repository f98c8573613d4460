import DataLayer.Proofs.Identifier.Cleanup
import DataLayer.Proofs.Text.Letters

/-!
# Names in Pascal case

Pascal case changes the case of letters and leaves underscores out, so two names have one Pascal case
only when they agree up to letter case without their underscores. A capital stands in front, so no
name in Pascal case is a reserved word, alone or behind something else.
-/

namespace DataLayer.Identifier

open Text

/-- The name without its underscores. -/
def withoutUnderscores (name : String) : String :=
  String.ofList (name.toList.filter (· ≠ '_'))

/-- Without case, all that Pascal case takes from a text are its underscores. -/
theorem caseless_pascalAfter (capitalNext : Bool) (text : List Char) :
    caseless (pascalAfter capitalNext text) = caseless (text.filter (· ≠ '_')) := by
  induction text generalizing capitalNext with
  | nil => rfl
  | cons c rest ih =>
      rw [pascalAfter]
      split
      case isTrue underscore =>
        rw [ih true, List.filter_cons_of_neg (by simpa using underscore)]
      case isFalse other =>
        have changed : caseless (if capitalNext then upperOf c else lowerOf c) = caselessOf c := by
          cases capitalNext with
          | false => exact caseless_lowerOf c
          | true => exact caseless_upperOf c
        rw [List.filter_cons_of_pos (by simpa using other), caseless_append, changed, ih false]
        rfl

/-- No underscore is left behind the first character. -/
theorem underscore_not_mem_pascalAfter (capitalNext : Bool) (text : List Char) :
    '_' ∉ pascalAfter capitalNext text := by
  induction text generalizing capitalNext with
  | nil => exact List.not_mem_nil
  | cons c rest ih =>
      rw [pascalAfter]
      split
      case isTrue => exact ih true
      case isFalse other =>
        intro member
        rcases List.mem_append.mp member with here | later
        · refine other (eq_of_underscore_mem ?_)
          split at here
          · exact .inr here
          · exact .inl here
        · exact ih false later

/-- A name in Pascal case is what its pieces yield, with an underscore in front or not. -/
theorem toList_pascalCase (name : String) :
    (pascalCase name).toList = pascalAfter true name.toList ∨
      (pascalCase name).toList = '_' :: pascalAfter true name.toList := by
  unfold pascalCase
  split
  case h_1 rest characters =>
    rw [characters]
    exact .inr (String.toList_ofList ..)
  case h_2 => exact .inl (String.toList_ofList ..)

/-- A name in Pascal case has an underscore nowhere but in front. -/
theorem underscore_not_mem_tail_pascalCase (name : String) :
    '_' ∉ (pascalCase name).toList.tail := by
  have none := underscore_not_mem_pascalAfter true name.toList
  rcases toList_pascalCase name with plain | marked
  · rw [plain]
    exact fun member => none (List.mem_of_mem_tail member)
  · rw [marked]
    exact none

/-- Without the underscore in front a name in Pascal case is what its pieces yield. -/
theorem filter_pascalCase (name : String) :
    (pascalCase name).toList.filter (· ≠ '_') = pascalAfter true name.toList := by
  have kept : (pascalAfter true name.toList).filter (· ≠ '_') = pascalAfter true name.toList :=
    List.filter_eq_self.mpr fun c member => decide_eq_true fun same =>
      underscore_not_mem_pascalAfter true name.toList (same ▸ member)
  rcases toList_pascalCase name with plain | marked
  · rw [plain, kept]
  · rw [marked, List.filter_cons_of_neg (by simp), kept]

/-- Names with one Pascal case agree up to letter case without their underscores. -/
theorem upper_lower_eq_of_pascalCase {left right : String}
    (same : pascalCase left = pascalCase right) :
    upper (lower (withoutUnderscores left)) = upper (lower (withoutUnderscores right)) := by
  have pieces : pascalAfter true left.toList = pascalAfter true right.toList := by
    rw [← filter_pascalCase, ← filter_pascalCase, same]
  have agreed := congrArg caseless pieces
  rw [caseless_pascalAfter, caseless_pascalAfter] at agreed
  rw [upper_lower, upper_lower, withoutUnderscores, withoutUnderscores, String.toList_ofList,
    String.toList_ofList, agreed]

section Letters

/-- An underscore is no letter. -/
theorem letters_underscore : letters ['_'] = [] :=
  letters_of_not_alphanumeric (by decide +kernel)

/-- Leaving out underscores loses no letters. -/
theorem letters_filter (text : List Char) : letters (text.filter (· ≠ '_')) = letters text := by
  induction text with
  | nil => rfl
  | cons c rest ih =>
      rw [letters_cons, ← ih]
      by_cases underscore : c = '_'
      · rw [underscore, letters_underscore]
        rfl
      · rw [List.filter_cons_of_pos (by simpa using underscore), letters_cons]

/-- Cleaning replaces only what is no letter. -/
theorem letters_clean (text : List Char) : letters (clean text) = letters text := by
  induction text with
  | nil => rfl
  | cons c rest ih =>
      have first : letters [if isPart c then c else '_'] = letters [c] := by
        split
        case isTrue => rfl
        case isFalse other =>
          rw [Bool.not_eq_true, isPart, Bool.or_eq_false_iff] at other
          rw [letters_underscore, letters_of_not_alphanumeric other.1]
      rw [letters_cons, ← ih, ← first]
      exact letters_cons ..

/-- An underscore in front adds no letter. -/
theorem letters_underscored (unusable : String → Bool) (name : String) :
    letters (underscored unusable name).toList = letters name.toList := by
  rcases underscored_eq_or unusable name with ⟨-, same⟩ | ⟨-, marked⟩
  · rw [same]
  · rw [marked, String.toList_append]
    exact (letters_cons '_' _).trans (congrArg (· ++ letters name.toList) letters_underscore)

/-- Pascal case keeps all letters and digits, up to letter case. -/
theorem letters_pascalCase (name : String) :
    letters (pascalCase name).toList = letters name.toList := by
  rw [← letters_filter, filter_pascalCase, letters_eq_of_caseless (caseless_pascalAfter true _),
    letters_filter]

/-- The identifier for a text has the letters and digits of the text. -/
theorem letters_ofText (text : String) : letters (ofText text).toList = letters text.toList := by
  rw [ofText_eq, letters_underscored, cleaned, String.toList_ofList, letters_clean]

end Letters

section Reserved

/-- A name in Pascal case begins with an underscore, or a character that is no small ASCII letter. -/
theorem exists_first_pascalCase {name : String} (nonempty : name ≠ "") :
    ∃ c rest, (pascalCase name).toList = c :: rest ∧ c.isLower = false := by
  unfold pascalCase
  split
  case h_1 rest characters =>
    exact ⟨'_', _, String.toList_ofList .., rfl⟩
  case h_2 other =>
    cases characters : name.toList with
    | nil => exact absurd (String.toList_eq_nil_iff.mp characters) nonempty
    | cons c rest =>
        have plain : c ≠ '_' := fun underscore => other rest (underscore ▸ characters)
        obtain ⟨first, more, raised⟩ := List.exists_cons_of_ne_nil (upperOf_ne_nil c)
        refine ⟨first, more ++ pascalAfter false rest, ?_, ?_⟩
        · rw [String.toList_ofList, pascalAfter, if_neg plain, if_pos rfl, raised, List.cons_append]
        · exact isLower_of_mem_upperOf (raised ▸ List.mem_cons_self)

/-- Nothing in front of a name in Pascal case makes it a reserved word. -/
theorem isReserved_append_pascalCase (start : String) {name : String} (nonempty : name ≠ "") :
    isReserved (start ++ pascalCase name) = false := by
  obtain ⟨c, rest, characters, other⟩ := exists_first_pascalCase nonempty
  refine isReserved_of_mem (c := c) ?_ other
  rw [String.toList_append, characters]
  exact List.mem_append_right _ List.mem_cons_self

/-- No name in Pascal case is reserved: it is empty, or it begins with something else than a small
letter. -/
theorem isReserved_pascalCase (name : String) : isReserved (pascalCase name) = false := by
  by_cases empty : name = ""
  · rw [empty]
    decide
  · exact isReserved_append_pascalCase "" empty

end Reserved

section Parts

private theorem codes_of_isAsciiWord {c : Char} (word : isAsciiWord c = true) :
    ((97 ≤ c.toNat ∧ c.toNat ≤ 122 ∨ 65 ≤ c.toNat ∧ c.toNat ≤ 90) ∨
      48 ≤ c.toNat ∧ c.toNat ≤ 57) ∨ c = '_' := by
  simp only [isAsciiWord, isAsciiLetter, isAsciiDigit, Bool.or_eq_true, Bool.and_eq_true,
    decide_eq_true_eq, beq_iff_eq, Char.le_def, UInt32.le_iff_toNat_le] at word
  exact word

/-- ASCII letters, digits and underscores can stand in an identifier. -/
theorem isPart_of_isAsciiWord {c : Char} (word : isAsciiWord c = true) : isPart c = true := by
  simp only [isPart, isAlphanumeric, Bool.or_eq_true, beq_iff_eq]
  rcases codes_of_isAsciiWord word with ((⟨low, high⟩ | ⟨low, high⟩) | ⟨low, high⟩) | underscore
  · exact .inl (.inl (inRanges_of_mem (List.mem_cons_of_mem _ List.mem_cons_self) low high))
  · exact .inl (.inl (inRanges_of_mem List.mem_cons_self low high))
  · exact .inl (.inr (inRanges_of_mem List.mem_cons_self low high))
  · exact .inr underscore

/-- ASCII letters, digits and underscores stay such that they can stand in an identifier. -/
theorem all_isPart_of_isAsciiWord {c : Char} (word : isAsciiWord c = true) :
    (lowerOf c).all isPart = true ∧ (upperOf c).all isPart = true := by
  have ascii : c.toNat < 0x80 := by
    rcases codes_of_isAsciiWord word with codes | rfl
    · omega
    · decide
  obtain ⟨small, capital⟩ := of_ascii
    (fun c => isAsciiWord c = true → isAsciiWord c.toLower = true ∧ isAsciiWord c.toUpper = true)
    (by decide +kernel) ascii word
  rw [lowerOf, upperOf, if_pos ascii, if_pos ascii]
  simp only [List.all_cons, List.all_nil, isPart_of_isAsciiWord small,
    isPart_of_isAsciiWord capital, Bool.and_self, and_self]

/-- The cases of ASCII letters and digits may stand in an identifier. -/
theorem all_isPart_pascalAfter {text : List Char} (words : ∀ c ∈ text, isAsciiWord c = true)
    (capitalNext : Bool) : (pascalAfter capitalNext text).all isPart = true := by
  induction text generalizing capitalNext with
  | nil => rfl
  | cons c rest ih =>
      obtain ⟨word, others⟩ := List.forall_mem_cons.mp words
      obtain ⟨lowered, raised⟩ := all_isPart_of_isAsciiWord word
      rw [pascalAfter]
      split
      case isTrue => exact ih others true
      case isFalse =>
        rw [List.all_append, ih others, Bool.and_true]
        split
        · exact raised
        · exact lowered

/-- A character that cannot stand in an identifier has no case, so it stays. -/
theorem mem_pascalAfter {text : List Char} {c : Char} (member : c ∈ text)
    (unfit : isPart c = false) (capitalNext : Bool) : c ∈ pascalAfter capitalNext text := by
  induction text generalizing capitalNext with
  | nil => cases member
  | cons first rest ih =>
      obtain ⟨plain, noUnderscore⟩ := Bool.or_eq_false_iff.mp unfit
      have uncased := (Bool.or_eq_false_iff.mp plain).1
      rw [pascalAfter]
      rcases List.mem_cons.mp member with rfl | later
      · rw [if_neg (by simpa using noUnderscore), lowerOf_of_not_alphabetic uncased,
          upperOf_of_not_alphabetic uncased, ite_self]
        exact List.mem_append_left _ (List.mem_singleton_self c)
      · split
        · exact ih later true
        · exact List.mem_append_right _ (ih later false)

/-- So may all characters of a name in Pascal case that is made from them. -/
theorem all_isPart_pascalCase {name : String}
    (words : ∀ c ∈ name.toList, isAsciiWord c = true) :
    (pascalCase name).toList.all isPart = true := by
  have pieces := all_isPart_pascalAfter words true
  rcases toList_pascalCase name with plain | marked
  · rw [plain, pieces]
  · have underscore : isPart '_' = true := by simp [isPart]
    rw [marked, List.all_cons, pieces, underscore]
    rfl

/-- A character that may not stand in an identifier has no case to change, so it stays. -/
theorem mem_pascalCase {name : String} {c : Char} (member : c ∈ name.toList)
    (unfit : isPart c = false) : c ∈ (pascalCase name).toList := by
  have among := mem_pascalAfter member unfit true
  rcases toList_pascalCase name with plain | marked
  · rw [plain]
    exact among
  · rw [marked]
    exact List.mem_cons_of_mem _ among

end Parts

end DataLayer.Identifier
