import DataLayer.Catalog.Table
import DataLayer.Failure
import DataLayer.Naming

/-! The parameterised SQL statements of a table. A statement is first built from names and then
written; every name is bracketed, so no name can end its brackets early. -/

namespace DataLayer.Sql

/-- A name in brackets; a closing bracket inside it is written twice. -/
def bracketed (name : String) : String := "[" ++ Text.replaceChar ']' "]]" name ++ "]"

/-- A column and the parameter that carries its value. -/
structure Assignment where
  column : String
  parameter : String
deriving DecidableEq, Repr

/-- A statement on the rows of one table. -/
inductive Statement where
  | insert (table : String) (values : List Assignment)
  | update (table : String) (changes conditions : List Assignment)
  | delete (table : String) (conditions : List Assignment)
deriving DecidableEq, Repr

/-- The text `[column] = @parameter`. -/
def Assignment.text (assignment : Assignment) : String :=
  bracketed assignment.column ++ " = " ++ assignment.parameter

/-- The text of a statement. An insert without values asks for the defaults of all columns. -/
def Statement.text : Statement → String
  | insert table [] => "insert into " ++ bracketed table ++ " default values"
  | insert table values =>
    "insert into " ++ bracketed table ++
      " (" ++ Text.joinWith ", " (values.map fun value => bracketed value.column) ++
      ") values (" ++ Text.joinWith ", " (values.map (·.parameter)) ++ ")"
  | update table changes conditions =>
    "update " ++ bracketed table ++
      " set " ++ Text.joinWith ", " (changes.map Assignment.text) ++
      " where " ++ Text.joinWith " and " (conditions.map Assignment.text)
  | delete table conditions =>
    "delete from " ++ bracketed table ++
      " where " ++ Text.joinWith " and " (conditions.map Assignment.text)

/-- Characters that cannot stand in a parameter name become underscores. -/
def parameterBase (column : String) : String :=
  String.ofList (column.toList.map fun c => if Text.isAsciiWord c then c else '_')

/-- The parameter names of columns in order, each with its column. Names that would agree with a
taken one up to case get the smallest free number. -/
def nameParameters (taken : List String) : List String → List (String × String)
  | [] => []
  | column :: rest =>
    let name := Naming.firstFree Text.lower taken (parameterBase column)
    (column, name) :: nameParameters (Text.lower name :: taken) rest

/-- The parameter names of a table. -/
def parameterNames (table : Table) : List (String × String) :=
  nameParameters [] (table.columns.map (·.name))

/-- The parameter of a column: the last name given to it, or its own name when it has none. -/
def parameterOf (names : List (String × String)) (column : String) : String :=
  match names.reverse.lookup column with
  | some name => "@" ++ name
  | none => "@" ++ column

/-- Columns with their parameters. -/
def assign (names : List (String × String)) (columns : List Column) : List Assignment :=
  columns.map fun column => ⟨column.name, parameterOf names column.name⟩

/-- The conditions that single out a row by its key. -/
def keyConditions (table : Table) (statement : String) : Except Failure (List Assignment) :=
  if table.keyColumns.isEmpty then
    .error (.noKeyColumn table.name statement)
  else
    .ok (assign (parameterNames table) table.keyColumns)

/-- Inserts a row with a value for every column that may be written. -/
def insertStatement (table : Table) : Statement :=
  .insert table.name (assign (parameterNames table) (table.columns.filter fun column =>
    !column.readOnly))

/-- Updates every column that may be written and is no part of the key; nothing when there is no
such column. -/
def updateStatement (table : Table) : Except Failure (Option Statement) := do
  let conditions ← keyConditions table "update"
  let changes := assign (parameterNames table) (table.columns.filter fun column =>
    !column.readOnly && !column.key)
  pure (if changes.isEmpty then none else some (.update table.name changes conditions))

/-- Deletes a row. -/
def deleteStatement (table : Table) : Except Failure Statement := do
  let conditions ← keyConditions table "delete"
  pure (.delete table.name conditions)

/-- A statement as a constant of the generated class. -/
structure Constant where
  name : String
  kind : String
  sql : String
deriving DecidableEq, Repr

/-- The statements of a table; those that cannot be built are left out. -/
def constants (table : Table) : List Constant :=
  let update :=
    match updateStatement table with
    | .ok (some statement) => [⟨"UpdateStatement", "update", statement.text⟩]
    | _ => []
  let delete :=
    match deleteStatement table with
    | .ok statement => [⟨"DeleteStatement", "delete", statement.text⟩]
    | .error _ => []
  ⟨"InsertStatement", "insert", (insertStatement table).text⟩ :: update ++ delete

end DataLayer.Sql
