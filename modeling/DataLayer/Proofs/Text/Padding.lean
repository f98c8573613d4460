import DataLayer.Proofs.Text.Case
import DataLayer.Proofs.Text.Letters
import DataLayer.Proofs.Text.Words

/-!
# White space around texts

Trimming changes a text only if it has white space, and white space has no case: it is still there
when the text is in lower case.
-/

namespace DataLayer.Text

/-- White space stands in front of the text or behind it. -/
def isPadded (text : String) : Bool := trim text != text

private theorem dropWhile_of_solid {characters : List Char}
    (solid : ∀ c ∈ characters, isBlank c = false) :
    characters.dropWhile isBlank = characters := by
  cases characters with
  | nil => rfl
  | cons c rest => simp [solid c List.mem_cons_self]

/-- A text without blanks is its own trimmed form. -/
theorem trim_of_solid {text : String} (solid : Solid text) : trim text = text := by
  have reversed : ∀ c ∈ text.toList.reverse, isBlank c = false :=
    fun c member => solid c (List.mem_reverse.mp member)
  rw [trim, dropEnd, dropStart, dropWhile_of_solid solid, String.ofList_toList,
    dropWhile_of_solid reversed, List.reverse_reverse, String.ofList_toList]

/-- A padded text has a blank. -/
theorem exists_blank_of_isPadded {text : String} (padded : isPadded text = true) :
    ∃ c ∈ text.toList, isBlank c = true := by
  by_contra none
  have solid : Solid text := fun c member =>
    Bool.eq_false_iff.mpr fun blank => none ⟨c, member, blank⟩
  rw [isPadded, trim_of_solid solid, bne_self_eq_false] at padded
  cases padded

/-- No blank is alphabetic. -/
theorem isAlphabetic_of_isBlank {c : Char} (blank : isBlank c = true) : isAlphabetic c = false := by
  have apart : (blankRanges.all fun blanks => alphabeticRanges.all fun range =>
      Nat.blt range.2 blanks.1 || Nat.blt blanks.2 range.1) = true := by
    decide +kernel
  obtain ⟨range, member, inside⟩ := List.any_eq_true.mp blank
  rw [Bool.and_eq_true, decide_eq_true_iff, decide_eq_true_iff] at inside
  exact inRanges_of_apart (List.all_eq_true.mp apart range member) inside.1 inside.2

/-- White space stays where a text is lowered. -/
theorem mem_lower_of_isBlank {text : String} {c : Char} (member : c ∈ text.toList)
    (blank : isBlank c = true) : c ∈ (lower text).toList := by
  have lowered : lowerOf c = [c] := lowerOf_of_not_alphabetic (isAlphabetic_of_isBlank blank)
  have noSigma : c ≠ 'Σ' := by
    rintro rfl
    exact absurd blank (by decide)
  have kept (before characters : List Char) (member : c ∈ characters) :
      c ∈ lowerAfter before characters := by
    induction characters generalizing before with
    | nil => cases member
    | cons first rest ih =>
        rw [lowerAfter, List.mem_append]
        rcases List.mem_cons.mp member with rfl | later
        · rw [if_neg noSigma, lowered]
          exact .inl (List.mem_singleton_self c)
        · exact .inr (ih (first :: before) later)
  rw [lower, String.toList_ofList]
  exact kept [] text.toList member

end DataLayer.Text
