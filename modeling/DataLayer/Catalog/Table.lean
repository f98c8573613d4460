import DataLayer.Catalog.Column
import DataLayer.Identifier

/-! Tables and views. The columns of a table are kept in the order of their names, so the order in
which a catalog lists them has no effect. -/

namespace DataLayer

/-- A physical table or a view. -/
inductive TableKind where
  | table
  | view
deriving DecidableEq, Repr

/-- The word for the kind in the generated code. -/
def TableKind.word : TableKind → String
  | table => "table"
  | view => "view"

/-- A table or view with its columns sorted by name. -/
structure Table where
  name : String
  kind : TableKind
  columns : List Column
deriving DecidableEq, Repr

namespace Table

/-- Builds a table from columns in any order. -/
def ofColumns (name : String) (kind : TableKind) (columns : List Column) : Table :=
  ⟨name, kind, columns.mergeSort Column.precedes⟩

/-- Whether the table is a physical one. -/
def isPhysical (table : Table) : Bool := table.kind == .table

/-- Makes exactly the named columns the key. -/
def markKeys (table : Table) (keys : List String) : Table :=
  { table with columns := table.columns.map fun column =>
      { column with key := column.isNamedIn keys } }

/-- The key columns in column order. -/
def keyColumns (table : Table) : List Column := table.columns.filter (·.key)

/-- The name of the generated class: a start that depends on the kind, then the name in Pascal
case. -/
def className (table : Table) (tableStart viewStart : String) : String :=
  (match table.kind with
    | .table => tableStart
    | .view => viewStart) ++ Identifier.pascalCase table.name

end Table

end DataLayer
