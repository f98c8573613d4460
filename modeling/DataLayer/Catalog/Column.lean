import DataLayer.DefaultExpression

/-! Columns: the description a catalog gives of one, and the column as generation uses it. -/

namespace DataLayer

/-- A column as the catalog describes it. A length of -1 means that there is none or no limit. -/
structure ColumnInfo where
  name : String
  dbType : String
  length : Int := -1
  precision : Nat := 0
  scale : Nat := 0
  nullable : Bool := false
  identity : Bool := false
  computed : Bool := false
  defaultText : Option String := none
deriving DecidableEq, Repr

/-- A column of a table or view. The type name is in lower case, and the default is an expression
of the generated code. -/
structure Column where
  name : String
  dbType : String
  length : Int
  precision : Nat
  scale : Nat
  nullable : Bool
  identity : Bool
  key : Bool
  computed : Bool
  readOnly : Bool
  defaultValue : Option String
deriving DecidableEq, Repr

namespace Column

/-- Row versions are kept by the server. -/
def isRowVersion (dbType : String) : Bool := dbType == "timestamp" || dbType == "rowversion"

/-- Reads a column description. Identity, computed and row-version columns are never written. No
column is a key until the table says so. -/
def ofInfo (info : ColumnInfo) : Column :=
  let dbType := Text.lower info.dbType
  { name := info.name
    dbType := dbType
    length := info.length
    precision := info.precision
    scale := info.scale
    nullable := info.nullable
    identity := info.identity
    key := false
    computed := info.computed
    readOnly := info.identity || info.computed || isRowVersion dbType
    defaultValue :=
      DefaultExpression.normalize info.defaultText dbType info.nullable info.length }

/-- The type with its length, or with precision and scale for exact decimals. -/
def sizedType (column : Column) : String :=
  if column.length > 0 then
    column.dbType ++ "(" ++ column.length.toNat.repr ++ ")"
  else if column.dbType = "decimal" ∨ column.dbType = "numeric" then
    column.dbType ++ "(" ++ column.precision.repr ++ "," ++ column.scale.repr ++ ")"
  else
    column.dbType

/-- Whether a key column list names the column, up to the case of ASCII letters. -/
def isNamedIn (column : Column) (keys : List String) : Bool :=
  keys.any fun key => Text.sameIgnoringAsciiCase key column.name

/-- The order of columns in a table: by name in lower case, then by name. -/
def precedes (left right : Column) : Bool :=
  let leftFolded := Text.lower left.name
  let rightFolded := Text.lower right.name
  leftFolded < rightFolded || (leftFolded == rightFolded && !(right.name < left.name))

end Column

end DataLayer
