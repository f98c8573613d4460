import DataLayer.Text.Edit

/-!
# Pieces and words

Cutting a text at separators undoes joining: a separator between two texts cuts the whole into the
pieces of both. Words are the pieces between white space that are not empty.
-/

namespace DataLayer.Text

/-- The text has no white space. -/
def Solid (text : String) : Prop := ∀ c ∈ text.toList, isBlank c = false

instance decidableSolid (text : String) : Decidable (Solid text) :=
  decidable_of_iff (text.toList.all fun c => !isBlank c) (by simp [Solid])

/-- Solid texts are solid together. -/
theorem Solid.append {left right : String} (solidLeft : Solid left) (solidRight : Solid right) :
    Solid (left ++ right) := by
  intro c member
  rw [String.toList_append] at member
  exact (List.mem_append.mp member).elim (solidLeft c) (solidRight c)

section Split

variable {isSeparator : Char → Bool}

/-- Splitting a text gives at least one piece. -/
theorem splitWhere_ne_nil (text : List Char) : splitWhere isSeparator text ≠ [] := by
  cases text with
  | nil => exact List.cons_ne_nil _ _
  | cons c rest =>
      unfold splitWhere
      split
      · exact List.cons_ne_nil _ _
      · cases splitWhere isSeparator rest <;> exact List.cons_ne_nil _ _

private theorem consFirst_append {c : Char} {pieces others : List (List Char)}
    (some : pieces ≠ []) : consFirst c (pieces ++ others) = consFirst c pieces ++ others := by
  cases pieces with
  | nil => exact absurd rfl some
  | cons piece rest => rfl

/-- A separator ends the pieces before it. -/
theorem splitWhere_append_cons {separator : Char} (separates : isSeparator separator = true)
    (before after : List Char) :
    splitWhere isSeparator (before ++ separator :: after) =
      splitWhere isSeparator before ++ splitWhere isSeparator after := by
  induction before with
  | nil => simp [splitWhere, separates]
  | cons c rest ih =>
      simp only [List.cons_append, splitWhere, ih]
      split
      · rfl
      · exact consFirst_append (splitWhere_ne_nil rest)

/-- A text without separators is one piece. -/
theorem splitWhere_of_free {text : List Char} (free : ∀ c ∈ text, isSeparator c = false) :
    splitWhere isSeparator text = [text] := by
  induction text with
  | nil => rfl
  | cons c rest ih =>
      obtain ⟨plain, others⟩ := List.forall_mem_cons.mp free
      rw [splitWhere, plain, ih others]
      rfl

/-- Around a separator the pieces are those of both sides. -/
theorem pieces_append {left right separator : String} {c : Char} (one : separator.toList = [c])
    (separates : isSeparator c = true) :
    pieces isSeparator (left ++ separator ++ right) =
      pieces isSeparator left ++ pieces isSeparator right := by
  simp only [pieces, String.toList_append, one, List.append_assoc, List.singleton_append,
    splitWhere_append_cons separates, List.map_append]

/-- A text without separators is its own only piece. -/
theorem pieces_of_free {text : String} (free : ∀ c ∈ text.toList, isSeparator c = false) :
    pieces isSeparator text = [text] := by
  rw [pieces, splitWhere_of_free free, List.map_singleton, String.ofList_toList]

/-- Cutting at the separators undoes joining texts that have none. -/
theorem pieces_joinWith {separator : String} {c : Char} (one : separator.toList = [c])
    (separates : isSeparator c = true) {texts : List String} (nonempty : texts ≠ [])
    (free : ∀ text ∈ texts, ∀ d ∈ text.toList, isSeparator d = false) :
    pieces isSeparator (joinWith separator texts) = texts := by
  induction texts with
  | nil => exact absurd rfl nonempty
  | cons first rest ih =>
      obtain ⟨plain, others⟩ := List.forall_mem_cons.mp free
      cases rest with
      | nil => exact pieces_of_free plain
      | cons next rest =>
          rw [joinWith, pieces_append one separates, pieces_of_free plain,
            ih (List.cons_ne_nil _ _) others, List.singleton_append]

end Split

/-- A blank ends the words before it. -/
theorem words_append (left right : String) :
    words (left ++ " " ++ right) = words left ++ words right := by
  rw [words, pieces_append rfl (by decide), List.filter_append]
  rfl

/-- A solid text that is not empty is its own only word. -/
theorem words_of_solid {text : String} (solid : Solid text) (visible : text ≠ "") :
    words text = [text] := by
  rw [words, pieces_of_free solid]
  simp [visible]

/-- Leading white space belongs to no word. -/
theorem words_dropStart (text : String) : words (dropStart isBlank text) = words text := by
  unfold words dropStart pieces
  rw [String.toList_ofList]
  induction text.toList with
  | nil => rfl
  | cons c rest ih =>
      by_cases blank : isBlank c = true
      · rw [List.dropWhile_cons_of_pos blank, ih, splitWhere, if_pos blank]
        rfl
      · rw [List.dropWhile_cons_of_neg blank]

/-- What is dropped at the start of a text ends at the first character that is kept. -/
theorem dropStart_append {p : Char → Bool} {left right : String} {c : Char} {rest : List Char}
    (first : right.toList = c :: rest) (kept : p c = false) :
    dropStart p (left ++ right) = dropStart p left ++ right := by
  rw [dropStart, dropStart, ← String.toList_inj, String.toList_append, String.toList_ofList,
    String.toList_append, String.toList_ofList, first]
  induction left.toList with
  | nil => rw [List.nil_append, List.dropWhile_cons_of_neg (by simp [kept])]; rfl
  | cons d others ih =>
      rw [List.cons_append, List.dropWhile_cons, List.dropWhile_cons]
      split
      · exact ih
      · rfl

end DataLayer.Text
