import DataLayer.Proofs.Sql.ReadBack
import DataLayer.Proofs.Text.Case

/-!
# Conditions on the key

An update or delete singles out rows by the columns that the key list names. An entry of the list
that names no column of the table is passed over, so a statement exists as soon as one column is
named.
-/

namespace DataLayer

open Text (lower sameIgnoringAsciiCase)

/-- A column is named among keys when one of them is its name up to the case of ASCII letters. -/
theorem Column.isNamedIn_iff {column : Column} {keys : List String} :
    column.isNamedIn keys = true ↔
      ∃ key ∈ keys, sameIgnoringAsciiCase key column.name = true := by
  simp [isNamedIn]

/-- The names of the key columns are those of the columns that the list names. -/
theorem Table.mem_names_keyColumns_markKeys {table : Table} {keys : List String} {name : String} :
    name ∈ (table.markKeys keys).keyColumns.map (·.name) ↔
      ∃ column ∈ table.columns, column.name = name ∧
        ∃ key ∈ keys, sameIgnoringAsciiCase key column.name = true := by
  have names : (table.markKeys keys).keyColumns.map (·.name) =
      (table.columns.filter (·.isNamedIn keys)).map (·.name) := by
    simp only [keyColumns, markKeys, List.filter_map, List.map_map]
    rfl
  rw [names, List.mem_map]
  constructor
  · rintro ⟨column, among, same⟩
    obtain ⟨member, named⟩ := List.mem_filter.mp among
    exact ⟨column, member, same, Column.isNamedIn_iff.mp named⟩
  · rintro ⟨column, member, same, named⟩
    exact ⟨column, List.mem_filter.mpr ⟨member, Column.isNamedIn_iff.mpr named⟩, same⟩

namespace Sql

/-- The conditions that single out the rows of an update or a delete. -/
def Statement.conditions : Statement → List Assignment
  | insert .. => []
  | update _ _ conditions => conditions
  | delete _ conditions => conditions

/-- Either statement is read back from its text, and its conditions are on the key columns. -/
private theorem conditions_of_statement {table : Table} {statement : Statement}
    (built : updateStatement table = .ok (some statement) ∨
      deleteStatement table = .ok statement) :
    Statement.read statement.text = some statement ∧
      statement.conditions.map (·.column) = table.keyColumns.map (·.name) ∧
      table.keyColumns ≠ [] := by
  rcases built with updating | deleting
  · refine ⟨Statement.read_text (updateStatement_isWritable updating), ?_⟩
    obtain ⟨keyed, -, rfl⟩ := updateStatement_eq_some_iff.mp updating
    exact ⟨List.map_map, keyed⟩
  · refine ⟨Statement.read_text (deleteStatement_isWritable deleting), ?_⟩
    obtain ⟨keyed, rfl⟩ := deleteStatement_eq_ok_iff.mp deleting
    exact ⟨List.map_map, keyed⟩

/-- The conditions of an update or delete are on every column that the key list names, and on no
column that it does not name in any letter case. There is no statement without such a column, and
a delete as soon as there is one. -/
theorem conditions_of_markKeys (table : Table) (keys : List String) :
    (∀ statement, updateStatement (table.markKeys keys) = .ok (some statement) ∨
        deleteStatement (table.markKeys keys) = .ok statement →
      Statement.read statement.text = some statement ∧
      statement.conditions ≠ [] ∧
      (∀ key ∈ keys, ∀ column ∈ table.columns, sameIgnoringAsciiCase key column.name = true →
        ∃ condition ∈ statement.conditions, condition.column = column.name) ∧
      ∀ condition ∈ statement.conditions, ∃ column ∈ table.columns,
        condition.column = column.name ∧ ∃ key ∈ keys, lower key = lower column.name) ∧
    ((∃ key ∈ keys, ∃ column ∈ table.columns, sameIgnoringAsciiCase key column.name = true) →
      ∃ statement, deleteStatement (table.markKeys keys) = .ok statement) ∧
    ((∀ key ∈ keys, ∀ column ∈ table.columns, lower key ≠ lower column.name) →
      updateStatement (table.markKeys keys) = .error (.noKeyColumn table.name "update") ∧
        deleteStatement (table.markKeys keys) = .error (.noKeyColumn table.name "delete")) := by
  refine ⟨?_, ?_, ?_⟩
  · intro statement built
    obtain ⟨read, conditions, keyed⟩ := conditions_of_statement built
    refine ⟨read, ?_, ?_, ?_⟩
    · intro unconditional
      rw [unconditional] at conditions
      exact keyed (List.map_eq_nil_iff.mp conditions.symm)
    · intro key listed column member same
      have named := Table.mem_names_keyColumns_markKeys.mpr ⟨column, member, rfl, key, listed, same⟩
      rw [← conditions] at named
      exact List.mem_map.mp named
    · intro condition member
      have named : condition.column ∈ statement.conditions.map (·.column) :=
        List.mem_map_of_mem member
      rw [conditions] at named
      obtain ⟨column, present, same, key, listed, equal⟩ :=
        Table.mem_names_keyColumns_markKeys.mp named
      exact ⟨column, present, same.symm, key, listed,
        Text.lower_eq_of_sameIgnoringAsciiCase equal⟩
  · rintro ⟨key, listed, column, member, same⟩
    refine ⟨_, deleteStatement_of_keyed fun keyless => ?_⟩
    have named := Table.mem_names_keyColumns_markKeys.mpr ⟨column, member, rfl, key, listed, same⟩
    rw [keyless] at named
    cases named
  · intro unnamed
    -- Names that agree up to the case of ASCII letters agree in lower case.
    have keyless : (table.markKeys keys).keyColumns = [] := by
      refine List.eq_nil_iff_forall_not_mem.mpr fun keyColumn marked => ?_
      obtain ⟨column, member, -, key, listed, equal⟩ :=
        Table.mem_names_keyColumns_markKeys.mp (List.mem_map_of_mem marked)
      exact unnamed key listed column member (Text.lower_eq_of_sameIgnoringAsciiCase equal)
    exact ⟨updateStatement_of_keyless keyless, deleteStatement_of_keyless keyless⟩

/-- An entry that names no column is passed over: of the key `id, part` only `id` constrains the
rows of a table without a column `part`. -/
theorem not_every_key_is_constrained :
    ¬ ∀ (table : Table) (keys : List String) (statement : Statement),
      updateStatement (table.markKeys keys) = .ok (some statement) ∨
        deleteStatement (table.markKeys keys) = .ok statement →
      ∀ key ∈ keys, ∃ condition ∈ statement.conditions, lower condition.column = lower key := by
  intro claimed
  obtain ⟨condition, member, same⟩ := claimed
    ⟨"t", .table, [⟨"id", "int", -1, 0, 0, false, false, false, false, false, none⟩,
      ⟨"name", "varchar", 20, 0, 0, false, false, false, false, false, none⟩]⟩
    ["id", "part"] (.delete "t" [⟨"id", "@id"⟩]) (.inr rfl) "part" (by decide)
  rw [show condition = ⟨"id", "@id"⟩ from List.mem_singleton.mp member] at same
  revert same
  decide

end Sql

end DataLayer
