import DataLayer.Proofs.Naming
import DataLayer.Proofs.Sql.ReadBack

/-!
# Parameters of a table

Every column has a parameter of its own, which all statements of the table use for it. Names that
clean up to the same are told apart by the smallest free number, in any letter case. So one value
for each column can be bound to the parameters, and every statement takes it for that column.
-/

namespace DataLayer.Sql

open Naming (IsFirstFree firstFreeAll isFirstFree_of_firstFreeAll lower_numbered_injective
  nodup_firstFreeAll)
open Text (lower isAsciiWord)

/-- The assignments of a statement: its values, or its changes and its conditions. -/
def Statement.assignments : Statement → List Assignment
  | insert _ values => values
  | update _ changes conditions => changes ++ conditions
  | delete _ conditions => conditions

/-- The statements that a table has: an insert, and the others where they can be built. -/
inductive Statement.IsOf (table : Table) : Statement → Prop
  | insert : IsOf table (insertStatement table)
  | update {statement : Statement} : updateStatement table = .ok (some statement) →
      IsOf table statement
  | delete {statement : Statement} : deleteStatement table = .ok statement → IsOf table statement

section Allocation

/-- Every column gets the first free name for its base. -/
theorem names_nameParameters (taken columns : List String) :
    (nameParameters taken columns).map Prod.snd =
      firstFreeAll lower taken
        ((nameParameters taken columns).map fun entry => parameterBase entry.1) := by
  induction columns generalizing taken with
  | nil => rfl
  | cons column columns ih =>
      simp only [nameParameters, List.map_cons, firstFreeAll]
      rw [ih]

/-- A name that is given is the first free one behind the names given before it. -/
theorem isFirstFree_nameParameters {taken columns : List String}
    {before after : List (String × String)} {entry : String × String}
    (named : nameParameters taken columns = before ++ entry :: after) :
    IsFirstFree lower ((before.map fun earlier => lower earlier.2).reverse ++ taken)
      (parameterBase entry.1) entry.2 := by
  have names := names_nameParameters taken columns
  rw [named] at names
  exact isFirstFree_of_firstFreeAll lower_numbered_injective names

/-- No two names that are given agree in lower case. -/
theorem nodup_nameParameters (taken columns : List String) :
    ((nameParameters taken columns).map fun entry => lower entry.2).Nodup := by
  have distinct := (nodup_firstFreeAll lower_numbered_injective taken
    ((nameParameters taken columns).map fun entry => parameterBase entry.1)).1
  rwa [← names_nameParameters, List.map_map] at distinct

end Allocation

section Columns

variable {table : Table} {parameter : String → String}

/-- Under distinct column names the list of parameters is a naming of the columns. -/
theorem exists_naming (distinct : (table.columns.map (·.name)).Nodup) :
    ∃ parameter : String → String, parameterNames table =
      table.columns.map fun column => (column.name, parameter column.name) := by
  have naming (entries : List (String × String)) (distinct : (entries.map Prod.fst).Nodup) :
      ∃ parameter : String → String,
        entries = entries.map fun entry => (entry.1, parameter entry.1) := by
    induction entries with
    | nil => exact ⟨id, rfl⟩
    | cons entry entries ih =>
        obtain ⟨fresh, distinct⟩ := List.nodup_cons.mp distinct
        obtain ⟨parameter, same⟩ := ih distinct
        refine ⟨Function.update parameter entry.1 entry.2, ?_⟩
        rw [List.map_cons, Function.update_self]
        refine congrArg (entry :: ·) (same.trans (List.map_congr_left fun other member => ?_))
        have apart : other.1 ≠ entry.1 := fun equal => fresh (equal ▸ List.mem_map_of_mem member)
        rw [Function.update_of_ne apart]
  have keys : (parameterNames table).map Prod.fst = table.columns.map (·.name) :=
    keys_nameParameters [] _
  obtain ⟨parameter, same⟩ := naming (parameterNames table) (keys ▸ distinct)
  refine ⟨parameter, same.trans ?_⟩
  have mapped := congrArg (List.map fun name => (name, parameter name)) keys
  rwa [List.map_map, List.map_map] at mapped

/-- A column is found under its name, whichever of the statements asks for it. -/
theorem parameterOf_naming
    (named : parameterNames table =
      table.columns.map fun column => (column.name, parameter column.name))
    {column : Column} (member : column ∈ table.columns) :
    parameterOf (parameterNames table) column.name = "@" ++ parameter column.name := by
  have graph : (parameterNames table).reverse =
      (table.columns.map (·.name)).reverse.map fun name => (name, parameter name) := by
    rw [named, ← List.map_reverse, ← List.map_reverse, List.map_map]
    rfl
  have among : column.name ∈ (table.columns.map (·.name)).reverse :=
    List.mem_reverse.mpr (List.mem_map_of_mem member)
  rw [parameterOf, graph, List.lookup_graph _ among]

/-- All assignments of a table's statements pair a column with the parameter of that column. -/
theorem Statement.IsOf.assigned {statement : Statement} (has : statement.IsOf table) :
    ∀ assignment ∈ statement.assignments, ∃ column ∈ table.columns,
      assignment = ⟨column.name, parameterOf (parameterNames table) column.name⟩ := by
  have part {columns : List Column} (within : columns ⊆ table.columns) :
      ∀ assignment ∈ assign (parameterNames table) columns, ∃ column ∈ table.columns,
        assignment = ⟨column.name, parameterOf (parameterNames table) column.name⟩ := by
    intro assignment member
    obtain ⟨column, among, rfl⟩ := List.mem_map.mp member
    exact ⟨column, within among, rfl⟩
  cases has with
  | insert => exact part (writableColumns_subset table)
  | update built =>
      obtain ⟨-, -, rfl⟩ := updateStatement_eq_some_iff.mp built
      exact List.forall_mem_append.mpr
        ⟨part (plainColumns_subset table), part (keyColumns_subset table)⟩
  | delete built =>
      obtain ⟨-, rfl⟩ := deleteStatement_eq_ok_iff.mp built
      exact part (keyColumns_subset table)

/-- The statements of a table are writable. -/
theorem Statement.IsOf.isWritable {statement : Statement} (has : statement.IsOf table) :
    statement.IsWritable := by
  cases has with
  | insert => exact insertStatement_isWritable table
  | update built => exact updateStatement_isWritable built
  | delete built => exact deleteStatement_isWritable built

/-- The mark of a parameter is left alone by lower-casing. -/
theorem lower_parameter {name : String} (words : ∀ c ∈ name.toList, isAsciiWord c = true) :
    lower ("@" ++ name) = "@" ++ lower name := by
  have plain : 'Σ' ∉ name.toList := fun sigma => absurd (words _ sigma) (by decide)
  have plainBoth : 'Σ' ∉ ("@" ++ name).toList := by simpa using plain
  rw [Text.lower_of_no_sigma plain, Text.lower_of_no_sigma plainBoth, String.toList_append,
    List.flatMap_append, String.ofList_append]
  rfl

/-- Where columns have keys of their own, a value for each column can be kept under its key. -/
theorem exists_values {Value : Type} {columns : List Column} (keyOf : Column → String)
    (apart : ∀ left ∈ columns, ∀ right ∈ columns, keyOf left = keyOf right → left = right)
    (row : String → Value) :
    ∃ values : String → Value, ∀ column ∈ columns, values (keyOf column) = row column.name := by
  refine ⟨fun key => (columns.find? fun column => keyOf column == key).elim (row "") (row ·.name),
    fun column member => ?_⟩
  dsimp only
  cases search : columns.find? fun other => keyOf other == keyOf column with
  | none => exact absurd (List.find?_eq_none.mp search column member) (by simp)
  | some other =>
      have found := List.find?_some search
      have same := apart other (List.mem_of_find?_eq_some search) column member (eq_of_beq found)
      rw [same]
      rfl

/-- What the parameters of a table are, and how its statements use them. -/
structure ParametersIdentify (table : Table) (parameter : String → String) : Prop where
  /-- Every column has its entry, in the order of the columns. -/
  listed : parameterNames table =
    table.columns.map fun column => (column.name, parameter column.name)
  /-- The search for a name ends: it comes to the cleaned name of the column, or to the one with the
  smallest number, that no column before it has in any letter case. -/
  allocated : ∀ before column after, table.columns = before ++ column :: after →
    IsFirstFree lower (before.map fun earlier => lower (parameter earlier.name))
      (parameterBase column.name) (parameter column.name)
  words : ∀ column ∈ table.columns, ∀ c ∈ (parameter column.name).toList, isAsciiWord c = true
  apart : ∀ left ∈ table.columns, ∀ right ∈ table.columns,
    lower (parameter left.name) = lower (parameter right.name) → left.name = right.name
  /-- The text of every statement reads back, and each of its columns stands with the column's own
  parameter. -/
  used : ∀ statement, Statement.IsOf table statement →
    Statement.read statement.text = some statement ∧
      ∀ assignment ∈ statement.assignments, ∃ column ∈ table.columns,
        assignment = ⟨column.name, "@" ++ parameter column.name⟩
  /-- Values for the columns can be bound to parameters, taken in any letter case, such that every
  statement takes for each column the value of that column. -/
  bound : ∀ {Value : Type} (row : String → Value), ∃ values : String → Value,
    ∀ statement, Statement.IsOf table statement → ∀ assignment ∈ statement.assignments,
      values (lower assignment.parameter) = row assignment.column

/-- In a table whose columns have different names, every column has a parameter of its own, and all
statements of the table use it. -/
theorem parameters_identify (distinct : (table.columns.map (·.name)).Nodup) :
    ∃ parameter, ParametersIdentify table parameter := by
  obtain ⟨parameter, listed⟩ := exists_naming distinct
  have lowered : (parameterNames table).map (fun entry => lower entry.2) =
      table.columns.map fun column => lower (parameter column.name) := by
    rw [listed, List.map_map]
    rfl
  have words : ∀ column ∈ table.columns, ∀ c ∈ (parameter column.name).toList,
      isAsciiWord c = true := by
    intro column member
    have entry : (column.name, parameter column.name) ∈ parameterNames table := by
      rw [listed]
      exact List.mem_map_of_mem member
    exact isAsciiWord_nameParameters _ _ _ entry
  -- Distinct in lower case is more than distinct: values are bound without regard to case.
  have apart : ∀ left ∈ table.columns, ∀ right ∈ table.columns,
      lower (parameter left.name) = lower (parameter right.name) → left = right := by
    have nodup : (table.columns.map fun column => lower (parameter column.name)).Nodup :=
      lowered ▸ nodup_nameParameters [] _
    exact fun left leftMember right rightMember same =>
      List.inj_on_of_nodup_map nodup leftMember rightMember same
  have used : ∀ statement, Statement.IsOf table statement → ∀ assignment ∈ statement.assignments,
      ∃ column ∈ table.columns, assignment = ⟨column.name, "@" ++ parameter column.name⟩ := by
    intro statement has assignment member
    obtain ⟨column, among, rfl⟩ := has.assigned assignment member
    exact ⟨column, among, by rw [parameterOf_naming listed among]⟩
  refine ⟨parameter, listed, ?_, words, ?_, ?_, ?_⟩
  · intro before column after split
    have entries : parameterNames table =
        before.map (fun earlier => (earlier.name, parameter earlier.name)) ++
          (column.name, parameter column.name) ::
            after.map fun later => (later.name, parameter later.name) := by
      rw [listed, split, List.map_append, List.map_cons]
    refine (isFirstFree_nameParameters entries).of_mem_iff fun taken => ?_
    rw [List.append_nil, List.mem_reverse, List.map_map]
    rfl
  · exact fun left leftMember right rightMember same =>
      congrArg (·.name) (apart left leftMember right rightMember same)
  · exact fun statement has => ⟨Statement.read_text has.isWritable, used statement has⟩
  · intro Value row
    obtain ⟨values, bound⟩ := exists_values (fun column => lower ("@" ++ parameter column.name))
      (fun left leftMember right rightMember same => apart left leftMember right rightMember <| by
        rw [lower_parameter (words left leftMember),
          lower_parameter (words right rightMember)] at same
        simpa using same) row
    refine ⟨values, fun statement has assignment member => ?_⟩
    obtain ⟨column, among, rfl⟩ := used statement has assignment member
    exact bound column among

/-- Three columns whose names clean up to the same up to case, and one that is literally called what
the second of them would get. -/
theorem parameters_identify_collisions :
    let column (name : String) : Column :=
      ⟨name, "int", -1, 0, 0, false, false, false, false, false, none⟩
    let table : Table := ⟨"t", .table, [column "A b", column "a-b", column "a_b", column "a_b1"]⟩
    (table.columns.map (·.name)).Nodup ∧
      parameterNames table = [("A b", "A_b"), ("a-b", "a_b1"), ("a_b", "a_b2"), ("a_b1", "a_b11")] ∧
      ∃ parameter, ParametersIdentify table parameter := by
  intro column table
  have distinct : (table.columns.map (·.name)).Nodup := by decide
  exact ⟨distinct, by decide +kernel, parameters_identify distinct⟩

end Columns

end DataLayer.Sql
