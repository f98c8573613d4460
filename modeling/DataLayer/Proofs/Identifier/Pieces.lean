import DataLayer.Proofs.Code.Layout
import DataLayer.Proofs.Identifier.Pascal
import DataLayer.Proofs.Text.Words

/-!
# Pascal case piece by piece

The name is read once, character by character. What comes out are its pieces between underscores,
each of them capitalised, behind the underscore that the name may begin with. Empty pieces yield
nothing, so it does not matter how many underscores stand between two pieces or behind the last one.
-/

namespace DataLayer.Identifier

open Text

/-- Changes the case of a piece, with its first character in upper case if it is to be a capital. -/
def recased (capitalFirst : Bool) : List Char → List Char
  | [] => []
  | c :: rest => (if capitalFirst then upperOf c else lowerOf c) ++ rest.flatMap lowerOf

/-- The piece with its first character in upper case and every other one in lower case. Upper case
may be several characters. -/
def capitalised (piece : String) : String := String.ofList (recased true piece.toList)

/-- The underscore that a name begins with, if it does. -/
def leadingUnderscore (name : String) : String := if startsWith "_" name then "_" else ""

/-- The pieces of a name between its underscores; there is one more than there are underscores. -/
def namePieces (name : String) : List String := pieces (· == '_') name

/-- The pieces of a name that are not empty. -/
def nameWords (name : String) : List String := (namePieces name).filter (· ≠ "")

example : namePieces "__line__id_" = ["", "", "line", "", "id", ""] ∧
    nameWords "__line__id_" = ["line", "id"] := by decide +kernel

@[simp] theorem recased_nil (capitalFirst : Bool) : recased capitalFirst [] = [] := rfl

/-- Without a capital in front a piece is put in lower case. -/
theorem recased_false (piece : List Char) : recased false piece = piece.flatMap lowerOf := by
  cases piece <;> simp [recased]

/-- Empty pieces yield nothing. -/
theorem capitalised_empty : capitalised "" = "" := rfl

/-- Behind a text that ends inside a piece, the rest of this piece is lowered and each piece after it
is capitalised; at the start of a piece all of them are. -/
theorem pascalAfter_of_split {text first : List Char} {others : List (List Char)}
    (cut : splitWhere (· == '_') text = first :: others) (capitalNext : Bool) :
    pascalAfter capitalNext text = recased capitalNext first ++ others.flatMap (recased true) := by
  induction text generalizing first others capitalNext with
  | nil =>
      obtain ⟨rfl, rfl⟩ := List.cons.inj cut
      rfl
  | cons c rest ih =>
      obtain ⟨next, later, cutRest⟩ : ∃ next later, splitWhere (· == '_') rest = next :: later :=
        List.exists_cons_of_ne_nil (splitWhere_ne_nil rest)
      by_cases underscore : c = '_'
      · -- The underscore ends an empty rest of a piece, and the next piece begins behind it.
        rw [splitWhere, if_pos (by simpa using underscore), cutRest] at cut
        obtain ⟨rfl, rfl⟩ := List.cons.inj cut
        rw [pascalAfter, if_pos underscore, ih cutRest true]
        simp
      · rw [splitWhere, if_neg (by simpa using underscore), cutRest] at cut
        obtain ⟨rfl, rfl⟩ := List.cons.inj cut
        rw [pascalAfter, if_neg underscore, ih cutRest false, recased_false]
        simp [recased]

/-- The underscore in front is kept; it does not belong to the first piece. -/
theorem pascalCase_eq (name : String) :
    pascalCase name = leadingUnderscore name ++ String.ofList (pascalAfter true name.toList) := by
  unfold pascalCase leadingUnderscore startsWith
  split
  case h_1 rest characters => simp [characters, pascalAfter]
  case h_2 other =>
    cases characters : name.toList with
    | nil => simp
    | cons c rest =>
        have plain : c ≠ '_' := fun underscore => other rest (underscore ▸ characters)
        simp [plain.symm]

/-- The loop over the characters of a name yields its pieces, each with a capital in front. -/
theorem pascalAfter_eq_concat (name : String) :
    String.ofList (pascalAfter true name.toList) =
      concat ((namePieces name).map capitalised) := by
  obtain ⟨first, others, cut⟩ : ∃ first others,
      splitWhere (· == '_') name.toList = first :: others :=
    List.exists_cons_of_ne_nil (splitWhere_ne_nil name.toList)
  have joined (parts : List (List Char)) :
      String.ofList (parts.flatMap (recased true)) =
        concat ((parts.map String.ofList).map capitalised) := by
    induction parts with
    | nil => rfl
    | cons part parts ih =>
        rw [List.flatMap_cons, String.ofList_append, ih, List.map_cons, List.map_cons, concat_cons,
          capitalised, String.toList_ofList]
  rw [pascalAfter_of_split cut, ← List.flatMap_cons, joined, namePieces, pieces, cut]

/-- Empty pieces yield nothing. -/
theorem concat_capitalised_filter (parts : List String) :
    concat ((parts.filter (· ≠ "")).map capitalised) = concat (parts.map capitalised) := by
  induction parts with
  | nil => rfl
  | cons part parts ih =>
      by_cases empty : part = ""
      · rw [List.filter_cons_of_neg (by simpa using empty), ih, List.map_cons, concat_cons, empty,
          capitalised_empty, String.empty_append]
      · rw [List.filter_cons_of_pos (by simpa using empty), List.map_cons, List.map_cons,
          concat_cons, concat_cons, ih]

/-- A name in Pascal case is made of the capitalised pieces of the name, behind the underscore that
the name begins with, and that underscore is the only one. Apart from it the words of the name are
all that matters. -/
theorem pascalCase_pieces (name : String) :
    pascalCase name = leadingUnderscore name ++ concat ((namePieces name).map capitalised) ∧
      pascalCase name = leadingUnderscore name ++ concat ((nameWords name).map capitalised) ∧
      '_' ∉ (pascalCase name).toList.tail := by
  have whole :
      pascalCase name = leadingUnderscore name ++ concat ((namePieces name).map capitalised) := by
    rw [pascalCase_eq, pascalAfter_eq_concat]
  refine ⟨whole, ?_, underscore_not_mem_tail_pascalCase name⟩
  rw [whole, nameWords, concat_capitalised_filter]

example : pascalCase "__straße_ßeta_" = "_StraßeSSeta" := by decide +kernel

end DataLayer.Identifier
