import DataLayer.Proofs.Text.Ends
import DataLayer.Sql

/-!
# Statements of a table

Which statements a table has, and over which of its columns. Every column has an entry in the
list of parameters, whose names hold nothing but ASCII letters, digits and underscores.
-/

namespace DataLayer

open Text (isAsciiDigit isAsciiWord)

/-- A free name is its base with digits behind it, or none. -/
theorem Naming.firstFree_eq (key : String → String) (used : List String) (base : String) :
    ∃ ending, firstFree key used base = base ++ ending ∧
      ∀ c ∈ ending.toList, isAsciiDigit c = true := by
  unfold firstFree
  split
  · exact ⟨(firstFreeNumber key used base 1).repr, rfl, fun _ => isAsciiDigit_of_mem_repr⟩
  · exact ⟨"", by simp, by simp⟩

namespace Sql

/-- The base of a parameter name has only ASCII letters, digits and underscores. -/
theorem isAsciiWord_parameterBase (column : String) :
    ∀ c ∈ (parameterBase column).toList, isAsciiWord c = true := by
  intro c member
  simp only [parameterBase, String.toList_ofList, List.mem_map] at member
  obtain ⟨d, -, rfl⟩ := member
  split
  · assumption
  · decide

/-- The columns are named in order. -/
theorem keys_nameParameters (taken columns : List String) :
    (nameParameters taken columns).map Prod.fst = columns := by
  induction columns generalizing taken with
  | nil => rfl
  | cons column columns ih => rw [nameParameters, List.map_cons, ih]

/-- The names of parameters have only ASCII letters, digits and underscores. -/
theorem isAsciiWord_nameParameters (taken columns : List String) :
    ∀ entry ∈ nameParameters taken columns, ∀ c ∈ entry.2.toList, isAsciiWord c = true := by
  induction columns generalizing taken with
  | nil => simp [nameParameters]
  | cons column columns ih =>
      rw [nameParameters]
      refine List.forall_mem_cons.mpr ⟨?_, ih _⟩
      obtain ⟨ending, named, digits⟩ :=
        Naming.firstFree_eq Text.lower taken (parameterBase column)
      intro c member
      rw [named, String.toList_append] at member
      rcases List.mem_append.mp member with base | numbered
      · exact isAsciiWord_parameterBase column c base
      · simp [isAsciiWord, digits c numbered]

/-- Every column of a table has a parameter of its own. -/
theorem lookup_parameterNames {table : Table} {column : Column}
    (member : column ∈ table.columns) :
    ∃ name : String, (parameterNames table).reverse.lookup column.name = some name ∧
      ∀ c ∈ name.toList, isAsciiWord c = true := by
  have keyed : column.name ∈ (parameterNames table).map Prod.fst := by
    rw [parameterNames, keys_nameParameters]
    exact List.mem_map_of_mem member
  obtain ⟨entry, present, same⟩ := List.mem_map.mp keyed
  have found : ((parameterNames table).reverse.lookup column.name).isSome = true := by
    rw [List.lookup_isSome_iff]
    exact ⟨entry, by simpa using present, by simp [same]⟩
  obtain ⟨name, named⟩ := Option.isSome_iff_exists.mp found
  refine ⟨name, named, ?_⟩
  obtain ⟨before, after, split, -⟩ := List.lookup_eq_some_iff.mp named
  have listed : (column.name, name) ∈ parameterNames table := by
    rw [← List.mem_reverse, split]
    simp
  exact isAsciiWord_nameParameters _ _ _ listed

/-- The list of parameters names all columns of the table. -/
theorem exists_parameters (table : Table) : ∃ parameter : String → String,
    ∀ column ∈ table.columns,
      (parameterNames table).reverse.lookup column.name = some (parameter column.name) ∧
        ∀ c ∈ (parameter column.name).toList, isAsciiWord c = true := by
  refine ⟨fun name => ((parameterNames table).reverse.lookup name).getD "", ?_⟩
  intro column member
  obtain ⟨name, found, words⟩ := lookup_parameterNames member
  exact ⟨by simp [found], by simpa [found] using words⟩

/-- The columns that an insert gives values to. -/
def writableColumns (table : Table) : List Column :=
  table.columns.filter fun column => !column.readOnly

/-- The columns that an update changes. -/
def plainColumns (table : Table) : List Column :=
  table.columns.filter fun column => !column.readOnly && !column.key

/-- The writable columns are columns of the table. -/
theorem writableColumns_subset (table : Table) : writableColumns table ⊆ table.columns :=
  List.filter_sublist.subset

/-- The plain columns are columns of the table. -/
theorem plainColumns_subset (table : Table) : plainColumns table ⊆ table.columns :=
  List.filter_sublist.subset

/-- The key columns are columns of the table. -/
theorem keyColumns_subset (table : Table) : table.keyColumns ⊆ table.columns :=
  List.filter_sublist.subset

section Statements

variable {table : Table}

/-- A keyed table is addressed by its key columns. -/
theorem keyConditions_of_keyed (keyed : table.keyColumns ≠ []) (statement : String) :
    keyConditions table statement = .ok (assign (parameterNames table) table.keyColumns) := by
  rw [keyConditions, if_neg (by simpa using keyed)]

/-- A table without a key cannot be addressed. -/
theorem keyConditions_of_keyless (keyless : table.keyColumns = []) (statement : String) :
    keyConditions table statement = .error (.noKeyColumn table.name statement) := by
  rw [keyConditions, if_pos (by simp [keyless])]

/-- With a key, an update is lacking only where there is nothing to change. -/
theorem updateStatement_of_keyed (keyed : table.keyColumns ≠ []) :
    updateStatement table = .ok (if plainColumns table = [] then none
      else some (.update table.name (assign (parameterNames table) (plainColumns table))
        (assign (parameterNames table) table.keyColumns))) := by
  rw [updateStatement, keyConditions_of_keyed keyed]
  simp only [assign, List.isEmpty_iff, List.map_eq_nil_iff]
  rfl

/-- There is no update statement for a table without a key. -/
theorem updateStatement_of_keyless (keyless : table.keyColumns = []) :
    updateStatement table = .error (.noKeyColumn table.name "update") := by
  rw [updateStatement, keyConditions_of_keyless keyless]
  rfl

/-- The delete statement of a keyed table addresses it by its key columns. -/
theorem deleteStatement_of_keyed (keyed : table.keyColumns ≠ []) :
    deleteStatement table =
      .ok (.delete table.name (assign (parameterNames table) table.keyColumns)) := by
  rw [deleteStatement, keyConditions_of_keyed keyed]
  rfl

/-- There is no delete statement for a table without a key. -/
theorem deleteStatement_of_keyless (keyless : table.keyColumns = []) :
    deleteStatement table = .error (.noKeyColumn table.name "delete") := by
  rw [deleteStatement, keyConditions_of_keyless keyless]
  rfl

/-- There is an update exactly where there is a key and something to change. -/
theorem updateStatement_eq_some_iff {statement : Statement} :
    updateStatement table = .ok (some statement) ↔
      table.keyColumns ≠ [] ∧ plainColumns table ≠ [] ∧
        statement = .update table.name (assign (parameterNames table) (plainColumns table))
          (assign (parameterNames table) table.keyColumns) := by
  by_cases keyless : table.keyColumns = []
  · simp [updateStatement_of_keyless keyless, keyless]
  · rw [updateStatement_of_keyed keyless]
    by_cases fixed : plainColumns table = []
    · simp [fixed]
    · simp [keyless, fixed, eq_comm]

/-- There is a delete exactly where there is a key. -/
theorem deleteStatement_eq_ok_iff {statement : Statement} :
    deleteStatement table = .ok statement ↔
      table.keyColumns ≠ [] ∧
        statement = .delete table.name (assign (parameterNames table) table.keyColumns) := by
  by_cases keyless : table.keyColumns = []
  · simp [deleteStatement_of_keyless keyless, keyless]
  · simp [deleteStatement_of_keyed keyless, keyless, eq_comm]

end Statements

end Sql

end DataLayer
