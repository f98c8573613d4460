import DataLayer.DefaultExpression
import Mathlib.Data.List.DropRight
import Mathlib.Data.List.TakeWhile

/-!
# Parentheses around a default

A default comes in layers of parentheses and white space. `stripParentheses` removes nothing but
such layers, and whatever stands in them comes out as it would without them, as long as its
parentheses balance outside of single quotes.
-/

namespace DataLayer.DefaultExpression

open Text

/-- Neither the first nor the last character is white space. -/
structure Unpadded (text : List Char) : Prop where
  first : ∀ c ∈ text.head?, isBlank c = false
  last : ∀ c ∈ text.getLast?, isBlank c = false

/-- All characters are white space. -/
def Blank (text : List Char) : Prop := ∀ c ∈ text, isBlank c = true

instance : DecidablePred Blank := List.decidableBAll fun c => isBlank c = true

/-- A text around a core from which only white space and pairs of parentheses separate it. -/
inductive Enclosed (core : List Char) : List Char → Prop
  | core : Enclosed core core
  | inBlanks {before text after : List Char} : Blank before → Enclosed core text → Blank after →
      Enclosed core (before ++ text ++ after)
  | inParentheses {text : List Char} : Enclosed core text →
      Enclosed core ('(' :: (text ++ [')']))

/-- The depth behind a text, and whether a quote is open there. There is none when a parenthesis
closes that was not opened. -/
def follow (depth : Nat) (quoted : Bool) : List Char → Option (Nat × Bool)
  | [] => some (depth, quoted)
  | c :: rest =>
    if c = '\'' then follow depth (!quoted) rest
    else if c = '(' ∧ quoted = false then follow (depth + 1) quoted rest
    else if c = ')' ∧ quoted = false then
      if depth = 0 then none else follow (depth - 1) quoted rest
    else follow depth quoted rest

/-- Every parenthesis outside of quotes is opened and closed, and every quote is closed. -/
def Balanced (text : List Char) : Prop := follow 0 false text = some (0, false)

instance : DecidablePred Balanced := fun _ => inferInstanceAs (Decidable (_ = _))

section Blanks

variable {before text after : List Char}

/-- White space is no visible character. -/
theorem ne_of_isBlank {c other : Char} (blank : isBlank c = true)
    (visible : isBlank other = false) : c ≠ other := by
  rintro rfl
  rw [blank] at visible
  cases visible

/-- Trimming drops white space in front and then behind. -/
theorem trimmed_eq_rdropWhile (text : List Char) :
    trimmed text = (text.dropWhile isBlank).rdropWhile isBlank := rfl

/-- White space around a text does not change what is left without it. -/
theorem trimmed_inBlanks (blankBefore : Blank before) (blankAfter : Blank after) :
    trimmed (before ++ text ++ after) = trimmed text := by
  rw [trimmed, trimmed, List.append_assoc, List.dropWhile_append_of_pos blankBefore,
    List.dropWhile_append]
  split
  · -- The text is white space as well.
    have nothing : text.dropWhile isBlank = [] := List.isEmpty_iff.mp ‹_›
    rw [nothing, List.dropWhile_eq_nil_iff.mpr blankAfter]
  · have blankReverse : ∀ c ∈ after.reverse, isBlank c = true :=
      fun c member => blankAfter c (List.mem_reverse.mp member)
    rw [List.reverse_append, List.dropWhile_append_of_pos blankReverse]

/-- Without white space around it, a text is not trimmed. -/
theorem Unpadded.trimmed_eq (unpadded : Unpadded text) : trimmed text = text := by
  have kept {part : List Char} (first : ∀ c ∈ part.head?, isBlank c = false) :
      part.dropWhile isBlank = part := by
    cases part with
    | nil => rfl
    | cons c rest => rw [List.dropWhile_cons_of_neg (by simp [first c rfl])]
  rw [trimmed, kept unpadded.first, kept (by rw [List.head?_reverse]; exact unpadded.last),
    List.reverse_reverse]

private theorem head?_dropWhile (text : List Char) :
    ∀ c ∈ (text.dropWhile isBlank).head?, isBlank c = false := by
  intro c member
  simpa [Option.mem_def.mp member] using List.head?_dropWhile_not isBlank text

/-- A trimmed text has no white space around it. -/
theorem unpadded_trimmed (text : List Char) : Unpadded (trimmed text) where
  first := by
    obtain ⟨blanks, whole⟩ := List.rdropWhile_prefix isBlank (text.dropWhile isBlank)
    rw [← trimmed_eq_rdropWhile] at whole
    intro c member
    apply head?_dropWhile text c
    rw [← whole, List.head?_append, Option.mem_def.mp member]
    rfl
  last := by
    rw [trimmed, List.getLast?_reverse]
    exact head?_dropWhile _

/-- A text between two visible characters has no white space around it. -/
theorem unpadded_between {first last : Char} (visibleFirst : isBlank first = false)
    (visibleLast : isBlank last = false) (text : List Char) :
    Unpadded (first :: (text ++ [last])) where
  first := by
    rintro c ⟨⟩
    exact visibleFirst
  last := by
    rw [← List.cons_append, List.getLast?_concat]
    rintro c ⟨⟩
    exact visibleLast

/-- A text is what is left of it between white space. -/
theorem exists_inBlanks (text : List Char) :
    ∃ before after, Blank before ∧ Blank after ∧ text = before ++ trimmed text ++ after := by
  refine ⟨text.takeWhile isBlank, (text.dropWhile isBlank).rtakeWhile isBlank,
    fun c => List.mem_takeWhile_imp, fun c => List.mem_rtakeWhile_imp, ?_⟩
  rw [trimmed_eq_rdropWhile, List.append_assoc, List.rdropWhile_append_rtakeWhile,
    List.takeWhile_append_dropWhile]

/-- Trimming adds no characters. -/
theorem trimmed_subset (text : List Char) : trimmed text ⊆ text := by
  obtain ⟨before, after, -, -, same⟩ := exists_inBlanks text
  intro c member
  rw [same]
  exact List.mem_append_left _ (List.mem_append_right _ member)

end Blanks

section Depth

variable {depth after : Nat} {quoted inside : Bool} {text : List Char}

/-- Inside of open parentheses the depths are higher, and what stands behind goes on from the last
of them. -/
theorem follow_append (followed : follow depth quoted text = some (after, inside)) (above : Nat)
    (rest : List Char) :
    follow (depth + above) quoted (text ++ rest) = follow (after + above) inside rest := by
  induction text generalizing depth quoted with
  | nil => cases followed; rfl
  | cons c text ih =>
      simp only [List.cons_append, follow] at followed ⊢
      split at followed
      · rw [if_pos ‹_›, ih followed]
      split at followed
      · rw [if_neg ‹_›, if_pos ‹_›, Nat.add_right_comm, ih followed]
      split at followed
      · split at followed
        · cases followed
        have below : depth + above - 1 = depth - 1 + above := by omega
        rw [if_neg ‹_›, if_neg ‹_›, if_pos ‹_›, if_neg (by omega), below, ih followed]
      · rw [if_neg ‹_›, if_neg ‹_›, if_neg ‹_›, ih followed]

/-- Inside of an open parenthesis none of those that close is the last one. -/
theorem staysOpen_append (followed : follow depth quoted text = some (after, inside))
    (rest : List Char) :
    staysOpen (depth + 1) quoted (text ++ rest) = staysOpen (after + 1) inside rest := by
  induction text generalizing depth quoted with
  | nil => cases followed; rfl
  | cons c text ih =>
      simp only [follow] at followed
      simp only [List.cons_append, staysOpen]
      split at followed
      · rw [if_pos ‹_›, ih followed]
      split at followed
      · rw [if_neg ‹_›, if_pos ‹_›, ih followed]
      split at followed
      · split at followed
        · cases followed
        -- It was opened inside of the text, so the one around it stays open.
        obtain ⟨below, rfl⟩ : ∃ below, depth = below + 1 := ⟨depth - 1, by omega⟩
        rw [if_neg ‹_›, if_neg ‹_›, if_pos ‹_›, if_neg (by omega)]
        exact ih followed
      · rw [if_neg ‹_›, if_neg ‹_›, if_neg ‹_›, ih followed]

/-- Balanced texts may follow each other. -/
theorem Balanced.append {left right : List Char} (balancedLeft : Balanced left)
    (balancedRight : Balanced right) : Balanced (left ++ right) :=
  (follow_append balancedLeft 0 right).trans balancedRight

/-- A balanced text may be put in parentheses. -/
theorem Balanced.inParentheses (balanced : Balanced text) : Balanced ('(' :: (text ++ [')'])) :=
  follow_append balanced 1 [')']

example : Balanced "left(')', 1) + '('".toList := by decide

/-- White space opens and closes nothing, inside quotes or outside. -/
theorem follow_blank (blank : Blank text) : follow depth quoted text = some (depth, quoted) := by
  induction text with
  | nil => rfl
  | cons c text ih =>
      obtain ⟨first, others⟩ := List.forall_mem_cons.mp blank
      have other {d : Char} : isBlank d = false → c ≠ d := ne_of_isBlank first
      rw [follow, if_neg (other (by decide)), if_neg fun opens => other (by decide) opens.1,
        if_neg fun closes => other (by decide) closes.1, ih others]

/-- White space may be put around a balanced text. -/
theorem Balanced.inBlanks {before behind : List Char} (blankBefore : Blank before)
    (balanced : Balanced text) (blankBehind : Blank behind) :
    Balanced (before ++ text ++ behind) :=
  (Balanced.append (follow_blank blankBefore) balanced).append (follow_blank blankBehind)

/-- What is put around a balanced text leaves it balanced. -/
theorem Enclosed.balanced {core : List Char} (balanced : Balanced core)
    (enclosed : Enclosed core text) : Balanced text := by
  induction enclosed with
  | core => exact balanced
  | inBlanks blankBefore _ blankAfter ih => exact ih.inBlanks blankBefore blankAfter
  | inParentheses _ ih => exact ih.inParentheses

/-- One pair of parentheses encloses a whole balanced text between them. -/
theorem isWrapped_inParentheses (balanced : Balanced text) :
    isWrapped ('(' :: (text ++ [')'])) = true := by
  have kept : staysOpen 0 false ('(' :: (text ++ [')'])) = true := staysOpen_append balanced [')']
  rw [isWrapped, kept, List.head?_cons, ← List.cons_append, List.getLast?_concat]
  rfl

end Depth

section Strip

variable {text : List Char}

/-- Stripping begins with trimming, so a trimmed text is stripped alike. -/
theorem stripParentheses_trimmed (text : List Char) :
    stripParentheses (trimmed text) = stripParentheses text := by
  rw [stripParentheses, (unpadded_trimmed text).trimmed_eq, stripParentheses.eq_def text]

/-- Nothing is stripped from a text with neither parentheses nor white space around it. -/
theorem stripParentheses_eq_self (unpadded : Unpadded text) (bare : isWrapped text = false) :
    stripParentheses text = text := by
  rw [stripParentheses, unpadded.trimmed_eq, bare]
  rfl

/-- Parentheses around a balanced text are stripped. -/
theorem stripParentheses_inParentheses (balanced : Balanced text) :
    stripParentheses ('(' :: (text ++ [')'])) = stripParentheses text := by
  have unpadded : Unpadded ('(' :: (text ++ [')'])) :=
    unpadded_between (by decide) (by decide) text
  have between : inner ('(' :: (text ++ [')'])) = text := List.dropLast_concat
  rw [stripParentheses, unpadded.trimmed_eq, isWrapped_inParentheses balanced, if_pos rfl, between]

/-- Stripping leaves no white space around a text. -/
theorem unpadded_stripParentheses (text : List Char) : Unpadded (stripParentheses text) := by
  induction text using stripParentheses.induct with
  | case1 text wrapped ih =>
      rw [stripParentheses, if_pos wrapped]
      exact ih
  | case2 text bare =>
      rw [stripParentheses, if_neg bare]
      exact unpadded_trimmed text

/-- A wrapped text is its inner part between parentheses. -/
theorem eq_of_isWrapped (wrapped : isWrapped text = true) :
    text = '(' :: (inner text ++ [')']) := by
  simp only [isWrapped, Bool.and_eq_true, beq_iff_eq] at wrapped
  obtain ⟨⟨first, last⟩, -⟩ := wrapped
  obtain ⟨rest, rfl⟩ := List.head?_eq_some_iff.mp first
  obtain ⟨start, same⟩ := List.getLast?_eq_some_iff.mp last
  cases start with
  | nil => cases same
  | cons c start =>
      rw [List.cons_append] at same
      obtain ⟨rfl, rfl⟩ := List.cons.inj same
      rw [inner, List.tail_cons, List.dropLast_concat]

end Strip

/-- The characters of a default of any other type. -/
theorem toList_plainForm (value : List Char) : (plainForm value).toList =
    replacePattern '@' "@spid".toList "-1".toList (trimmed (withoutParentheses value)) := by
  rw [plainForm, replaceAll]
  simp

/-- Of a default that is not blank, only what is left without its layers matters. -/
theorem normalize_some (raw dbType : String) (nullable : Bool) (length : Int) :
    normalize (some raw) dbType nullable length =
      let value := stripParentheses raw.toList
      let expression := form value (lower dbType) nullable length
      if (trimmed raw.toList).isEmpty || sameIgnoringAsciiCase (String.ofList value) "null" ||
        expression.isEmpty then none else some expression := by
  simp only [normalize, Option.bind_eq_bind, Option.bind_some, stripParentheses_trimmed]
  cases (trimmed raw.toList).isEmpty
  · cases sameIgnoringAsciiCase (String.ofList (stripParentheses raw.toList)) "null"
    · cases (form (stripParentheses raw.toList) (lower dbType) nullable length).isEmpty <;> rfl
    · rfl
  · rfl

/-- Nothing is left of white space. -/
theorem stripParentheses_of_blank {raw : List Char} (blank : (trimmed raw).isEmpty = true) :
    stripParentheses raw = [] := by
  rw [stripParentheses, List.isEmpty_iff.mp blank]
  rfl

/-- A default that is there, and whose form is, has this form. -/
theorem normalize_eq_form {raw dbType : String} {nullable : Bool} {length : Int} {value : List Char}
    (stripped : stripParentheses raw.toList = value) (visible : value ≠ [])
    (given : sameIgnoringAsciiCase (String.ofList value) "null" = false)
    (written : (form value (lower dbType) nullable length).isEmpty = false) :
    normalize (some raw) dbType nullable length =
      some (form value (lower dbType) nullable length) := by
  subst stripped
  have notBlank : (trimmed raw.toList).isEmpty = false :=
    Bool.eq_false_iff.mpr fun blank => visible (stripParentheses_of_blank blank)
  rw [normalize_some]
  dsimp only
  rw [notBlank, given, written]
  rfl

end DataLayer.DefaultExpression
