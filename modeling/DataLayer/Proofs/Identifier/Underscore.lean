import DataLayer.Identifier
import DataLayer.Proofs.Text.Ends
import Mathlib.Data.List.Nodup

/-!
# Underscores in front of names

A name that the generated code cannot use gets an underscore in front, and every other name stays as
it is. Nothing looks at the other names, so a name that has been given its underscore may meet one
that had it before. As long as no name with an underscore in front is unusable itself, names can
meet in no other way.
-/

namespace DataLayer.Identifier

/-- The name with an underscore in front where it is unusable. -/
def underscored (unusable : String → Bool) (name : String) : String :=
  if unusable name then "_" ++ name else name

variable {unusable : String → Bool}

/-- A name changes when it gets an underscore. -/
theorem underscore_append_ne (name : String) : "_" ++ name ≠ name := by
  intro same
  have longer := congrArg String.length same
  rw [String.length_append] at longer
  exact absurd longer (Nat.ne_of_gt (Nat.lt_add_of_pos_left Nat.one_pos))

/-- An underscore is put in front of the names that are unusable, and of no others. -/
theorem underscored_eq_or (unusable : String → Bool) (name : String) :
    (unusable name = false ∧ underscored unusable name = name) ∨
      (unusable name = true ∧ underscored unusable name = "_" ++ name) := by
  unfold underscored
  cases unusable name with
  | false => exact .inl ⟨rfl, rfl⟩
  | true => exact .inr ⟨rfl, rfl⟩

/-- Unless an underscore may meet the one at the beginning of the other name, a name becomes the
other one only when it is this name already. -/
theorem underscored_eq_iff {name other : String}
    (apart : unusable name = false ∨ Text.startsWith "_" other = false) :
    underscored unusable name = other ↔ name = other ∧ unusable name = false := by
  rcases underscored_eq_or unusable name with ⟨usable, same⟩ | ⟨renamed, marked⟩
  · rw [same, usable]
    exact (and_iff_left rfl).symm
  · rw [marked]
    rw [renamed] at apart ⊢
    have unmarked := apart.resolve_left Bool.noConfusion
    exact iff_of_false (Text.append_ne unmarked name) fun ⟨_, usable⟩ => Bool.noConfusion usable

section Free

variable (free : ∀ name, unusable ("_" ++ name) = false)

include free

/-- Two names meet when they are the same, or when one is unusable and the other has the underscore
that this one is given. -/
theorem underscored_eq_underscored_iff {left right : String} :
    underscored unusable left = underscored unusable right ↔
      left = right ∨ (unusable left = true ∧ right = "_" ++ left) ∨
        (unusable right = true ∧ left = "_" ++ right) := by
  constructor
  · intro same
    rcases underscored_eq_or unusable left with ⟨-, leftEq⟩ | ⟨leftUnusable, leftEq⟩ <;>
      rcases underscored_eq_or unusable right with ⟨-, rightEq⟩ | ⟨rightUnusable, rightEq⟩ <;>
      rw [leftEq, rightEq] at same
    · exact .inl same
    · exact .inr (.inr ⟨rightUnusable, same⟩)
    · exact .inr (.inl ⟨leftUnusable, same.symm⟩)
    · exact .inl ((String.append_right_inj "_").mp same)
  · unfold underscored
    rintro (rfl | ⟨leftUnusable, rfl⟩ | ⟨rightUnusable, rfl⟩)
    · rfl
    · rw [leftUnusable, free]
      rfl
    · rw [rightUnusable, free]
      rfl

/-- Names are still different with their underscores exactly when they were different before and
none of them is what another becomes. -/
theorem nodup_underscored_iff {names : List String} :
    (names.map (underscored unusable)).Nodup ↔
      names.Nodup ∧ ∀ name ∈ names, unusable name = true → "_" ++ name ∉ names := by
  constructor
  · intro apart
    refine ⟨apart.of_map, fun name member unusableName escaped => ?_⟩
    have meet := (underscored_eq_underscored_iff free).mpr (.inr (.inl ⟨unusableName, rfl⟩))
    have same := List.inj_on_of_nodup_map apart member escaped meet
    exact underscore_append_ne name same.symm
  · rintro ⟨distinct, clear⟩
    refine List.Nodup.map_on (fun left inLeft right inRight meet => ?_) distinct
    rcases (underscored_eq_underscored_iff free).mp meet with
      same | ⟨unusableName, rfl⟩ | ⟨unusableName, rfl⟩
    · exact same
    · exact absurd inRight (clear left inLeft unusableName)
    · exact absurd inLeft (clear right inRight unusableName)

end Free

/-- One underscore is put in front where two rules ask for one, if the second rule has nothing
against names with an underscore. -/
theorem underscored_underscored {second : String → Bool}
    (free : ∀ name, second ("_" ++ name) = false) (name : String) :
    underscored second (underscored unusable name) =
      underscored (fun name => unusable name || second name) name := by
  rcases underscored_eq_or unusable name with ⟨usable, same⟩ | ⟨unusableName, marked⟩
  · rw [same]
    simp only [underscored, usable, Bool.false_or]
  · rw [marked]
    simp only [underscored, unusableName, free, Bool.true_or, Bool.false_eq_true, if_true, if_false]

/-- Reserved words consist of small ASCII letters. -/
theorem small_of_isReserved {text : String} (reserved : isReserved text = true) :
    text.toList ≠ [] ∧ ∀ c ∈ text.toList, c.isLower = true := by
  have small : (reservedWords.all fun word =>
      !word.toList.isEmpty && word.toList.all Char.isLower) = true := by
    decide +kernel
  have word := List.all_eq_true.mp small text (List.contains_iff_mem.mp reserved)
  rwa [Bool.and_eq_true, Bool.not_eq_true', List.isEmpty_eq_false_iff, List.all_eq_true] at word

/-- Reserved words have small letters only. -/
theorem isReserved_of_mem {text : String} {c : Char} (member : c ∈ text.toList)
    (other : c.isLower = false) : isReserved text = false := by
  rw [← Bool.not_eq_true]
  intro reserved
  rw [(small_of_isReserved reserved).2 c member] at other
  cases other

/-- No reserved word begins with an underscore. -/
theorem isReserved_underscore (name : String) : isReserved ("_" ++ name) = false := by
  refine isReserved_of_mem (c := '_') ?_ rfl
  rw [String.toList_append]
  exact List.mem_append_left _ List.mem_cons_self

/-- Reserved words are escaped by an underscore. -/
theorem escapeReserved_eq (name : String) : escapeReserved name = underscored isReserved name := rfl

end DataLayer.Identifier
