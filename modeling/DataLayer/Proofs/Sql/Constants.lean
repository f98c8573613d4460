import DataLayer.Proofs.Entity.Declaration
import DataLayer.Proofs.Sql.ReadBack

/-!
# Statement constants of generated classes

The constants of a generated class hold verbatim literals of SQL statements. Reading a constant
undoes both layers of quoting, and yields the table, its columns and their parameters.
-/

namespace DataLayer

namespace Literal

/-- The characters that the inside of a verbatim literal stands for. A quote stands twice; a single
one would end the literal. -/
def unquote? : List Char → Option (List Char)
  | [] => some []
  | '"' :: '"' :: rest => (unquote? rest).map ('"' :: ·)
  | '"' :: _ => none
  | c :: rest => (unquote? rest).map (c :: ·)

/-- The text that the inside of a verbatim literal stands for. -/
def readVerbatim (text : String) : Option String := (unquote? text.toList).map String.ofList

private theorem unquote?_plain {c : Char} (plain : c ≠ '"') (rest : List Char) :
    unquote? (c :: rest) = (unquote? rest).map (c :: ·) := by
  rw [unquote?]
  all_goals simp_all

/-- A text with doubled quotes stands for itself. -/
theorem readVerbatim_doubleQuotes (text : String) :
    readVerbatim (doubleQuotes text) = some text := by
  have unquoted (characters : List Char) :
      unquote? (characters.flatMap fun c => if c = '"' then ['"', '"'] else [c]) =
        some characters := by
    induction characters with
    | nil => rfl
    | cons c characters ih =>
        rw [List.flatMap_cons]
        by_cases quote : c = '"'
        · subst quote
          simp [unquote?, ih]
        · rw [if_neg quote, List.singleton_append, unquote?_plain quote, ih]
          rfl
  have doubled : (doubleQuotes text).toList =
      text.toList.flatMap fun c => if c = '"' then ['"', '"'] else [c] := by
    simp only [doubleQuotes, Text.replaceChar, String.toList_ofList]
    rfl
  rw [readVerbatim, doubled, unquoted, Option.map_some, String.ofList_toList]

end Literal

namespace Sql

/-- Columns with the parameters that a naming gives them. -/
def assignBy (parameter : String → String) (columns : List Column) : List Assignment :=
  columns.map fun column => ⟨column.name, "@" ++ parameter column.name⟩

/-- Columns that are all named use the naming, never their own names. -/
theorem assign_eq_assignBy {names : List (String × String)} {parameter : String → String}
    {columns : List Column}
    (named : ∀ column ∈ columns,
      names.reverse.lookup column.name = some (parameter column.name)) :
    assign names columns = assignBy parameter columns := by
  refine List.map_congr_left fun column member => ?_
  rw [parameterOf, named column member]

/-- A statement with its names, read from the constant that holds it. -/
def Constant.read (constant : Constant) : String × String × Option Statement :=
  (constant.name, constant.kind, (Literal.readVerbatim constant.sql).bind Statement.read)

/-- The constant of a writable statement reads back as it. -/
theorem Constant.read_of_writable (name kind : String) {statement : Statement}
    (writable : statement.IsWritable) :
    Constant.read ⟨name, kind, Literal.doubleQuotes statement.text⟩ =
      (name, kind, some statement) := by
  rw [Constant.read, Literal.readVerbatim_doubleQuotes, Option.bind_some,
    Statement.read_text writable]

/-- The constants of a table hold its statements. -/
theorem read_constants (table : Table) :
    (constants table).map
        (fun constant => Constant.read { constant with sql := Literal.doubleQuotes constant.sql }) =
      [("InsertStatement", "insert", some (insertStatement table))] ++
      (match updateStatement table with
        | .ok (some statement) => [("UpdateStatement", "update", some statement)]
        | _ => []) ++
      (match deleteStatement table with
        | .ok statement => [("DeleteStatement", "delete", some statement)]
        | .error _ => []) := by
  have inserted := Constant.read_of_writable "InsertStatement" "insert"
    (insertStatement_isWritable table)
  have updated (statement : Statement) (built : updateStatement table = .ok (some statement)) :=
    Constant.read_of_writable "UpdateStatement" "update" (updateStatement_isWritable built)
  have deleted (statement : Statement) (built : deleteStatement table = .ok statement) :=
    Constant.read_of_writable "DeleteStatement" "delete" (deleteStatement_isWritable built)
  unfold constants
  rcases hasUpdate : updateStatement table with _ | _ | update <;>
    rcases hasDelete : deleteStatement table with _ | delete <;>
    simp [inserted, updated, deleted, hasUpdate, hasDelete]

end Sql

namespace EntityClass

open Sql in
/-- The statements of a generated class read back, through both layers of quoting, to the table
they were built from: its name, and exactly the columns of each kind in their order, each with the
one parameter that the table's list has for it. -/
theorem statements_readBack (settings : Settings) (types : TypeMap) (table : Table)
    (entity : EntityClass) (built : ofTable settings types table = .ok (some entity)) :
    ∃ parameter : String → String,
      (∀ column ∈ table.columns,
        (parameterNames table).reverse.lookup column.name = some (parameter column.name) ∧
        ∀ c ∈ (parameter column.name).toList, Text.isAsciiWord c = true) ∧
      entity.statements.map Constant.read =
        if settings.sqlStatements && table.isPhysical then
          [("InsertStatement", "insert",
            some (.insert table.name (assignBy parameter (writableColumns table))))] ++
          (if table.keyColumns = [] ∨ plainColumns table = [] then []
            else [("UpdateStatement", "update",
              some (.update table.name (assignBy parameter (plainColumns table))
                (assignBy parameter table.keyColumns)))]) ++
          (if table.keyColumns = [] then []
            else [("DeleteStatement", "delete",
              some (.delete table.name (assignBy parameter table.keyColumns)))])
        else [] := by
  obtain ⟨parameter, named⟩ := exists_parameters table
  refine ⟨parameter, named, ?_⟩
  -- All statements are over columns of the table, so every lookup finds its entry.
  have assigned {columns : List Column} (part : columns ⊆ table.columns) :
      assign (parameterNames table) columns = assignBy parameter columns :=
    assign_eq_assignBy fun column member => (named column (part member)).1
  have inserted : insertStatement table =
      .insert table.name (assignBy parameter (writableColumns table)) := by
    rw [← assigned (writableColumns_subset table)]
    rfl
  rw [statements_of_ofTable built, statementConstants]
  split
  · rw [List.map_map]
    refine (read_constants table).trans ?_
    by_cases keyless : table.keyColumns = []
    · rw [updateStatement_of_keyless keyless, deleteStatement_of_keyless keyless, inserted]
      simp [keyless]
    · rw [updateStatement_of_keyed keyless, deleteStatement_of_keyed keyless, inserted,
        assigned (plainColumns_subset table), assigned (keyColumns_subset table)]
      by_cases fixed : plainColumns table = [] <;> simp [keyless, fixed]
  · rfl

open Sql in
/-- Names full of quotes and brackets: the key `id` and one column to write. -/
theorem statements_readBack_quoted :
    let key : Column := ⟨"id", "int", -1, 0, 0, false, true, true, false, true, none⟩
    let other : Column := ⟨"] = @x, [\"", "int", -1, 0, 0, true, false, false, false, false, none⟩
    let table : Table := ⟨"a]b", .table, [key, other]⟩
    ∃ entity, ofTable { sqlStatements := true } .sqlServer table = .ok (some entity) ∧
      ∃ parameter : String → String, entity.statements.map Constant.read =
        [("InsertStatement", "insert", some (.insert "a]b" (assignBy parameter [other]))),
         ("UpdateStatement", "update",
          some (.update "a]b" (assignBy parameter [other]) (assignBy parameter [key]))),
         ("DeleteStatement", "delete", some (.delete "a]b" (assignBy parameter [key])))] := by
  dsimp only
  refine ⟨?_, ?built, ?_⟩
  case built =>
    rw [ofTable, if_neg (by decide)]
    rfl
  obtain ⟨parameter, -, read⟩ := statements_readBack { sqlStatements := true } .sqlServer
    ⟨"a]b", .table, [⟨"id", "int", -1, 0, 0, false, true, true, false, true, none⟩,
      ⟨"] = @x, [\"", "int", -1, 0, 0, true, false, false, false, false, none⟩]⟩ _ rfl
  exact ⟨parameter, read⟩

end EntityClass

end DataLayer
