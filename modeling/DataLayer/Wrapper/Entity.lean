import DataLayer.Code
import DataLayer.Literal
import DataLayer.Settings
import DataLayer.Sql
import DataLayer.TypeMap

/-! The class that wraps a table or view: what it declares, and its code. -/

namespace DataLayer

/-- A property bound to one column. -/
structure EntityProperty where
  columnName : String
  memberName : String
  memberType : String
  /-- The written arguments of the attribute that binds the property. -/
  attributeArguments : String
  key : Bool
  identity : Bool
deriving DecidableEq, Repr

/-- An assignment that the constructor of an entity class makes. -/
structure MemberDefault where
  memberName : String
  value : String
deriving DecidableEq, Repr

/-- The declarations of an entity class. -/
structure EntityClass where
  className : String
  tableName : String
  kind : TableKind
  baseClass : String
  properties : List EntityProperty
  defaults : List MemberDefault
  queryObject : Bool
  statements : List Sql.Constant
deriving DecidableEq, Repr

namespace EntityClass

/-- The name a column is bound under. -/
def columnName (settings : Settings) (name : String) : String :=
  if settings.lowercaseNames then Text.lower name else name

/-- The member for a bound column name. -/
def memberName (settings : Settings) (columnName : String) : String :=
  Identifier.escapeReserved (settings.memberPrefix ++ columnName)

/-- The arguments of the attribute that binds a column, in their fixed order. -/
def attributeArguments (settings : Settings) (table : Table) (column : Column) : List String :=
  let given (condition : Bool) (argument : String) : List String :=
    if condition then [argument] else []
  [Literal.plain (columnName settings column.name),
   "DbType=" ++ Literal.plain column.sizedType] ++
  given (column.readOnly || !table.isPhysical) "ReadOnly=true" ++
  given column.nullable "Nullable=true" ++
  given column.identity "Identity=true" ++
  given column.key "Key=true" ++
  given (0 ≤ column.length) ("MaxLen=" ++ column.length.toNat.repr) ++
  given (TypeMap.isUnicode column.dbType) "Unicode=true"

/-- The property for a column. A type without a counterpart is reported with the table and the
column. -/
def property (settings : Settings) (types : TypeMap) (table : Table) (column : Column) :
    Except Failure EntityProperty :=
  match types.resolve column.dbType column.nullable column.length with
  | .error (.unmappedType dbType _) =>
    .error (.unmappedType dbType (table.name ++ "." ++ column.name))
  | .error failure => .error failure
  | .ok memberType =>
    .ok
      { columnName := columnName settings column.name
        memberName := memberName settings (columnName settings column.name)
        memberType := memberType
        attributeArguments :=
          Text.joinWith ", " (attributeArguments settings table column)
        key := column.key
        identity := column.identity }

/-- The default of a column as an assignment. Columns that the server fills have none. -/
def memberDefault? (settings : Settings) (column : Column) : Option MemberDefault :=
  if column.identity || column.computed then none
  else column.defaultValue.map fun value =>
    ⟨memberName settings (columnName settings column.name), value⟩

/-- The SQL constants of a table, ready for verbatim literals. Views have none. -/
def statementConstants (settings : Settings) (table : Table) : List Sql.Constant :=
  if settings.sqlStatements && table.isPhysical then
    (Sql.constants table).map fun constant =>
      { constant with sql := Literal.doubleQuotes constant.sql }
  else
    []

/-- The declarations for a table or view, or nothing when it is excluded. -/
def ofTable (settings : Settings) (types : TypeMap) (table : Table) :
    Except Failure (Option EntityClass) :=
  if settings.tableFilter.excludes table.name then
    .ok none
  else do
    let properties ← table.columns.mapM (property settings types table)
    pure (some
      { className := table.className settings.classPrefix settings.viewPrefix
        tableName := table.name
        kind := table.kind
        baseClass := settings.baseClassName
        properties := properties
        defaults := table.columns.filterMap (memberDefault? settings)
        queryObject := settings.queryObjects
        statements := statementConstants settings table })

open Code

/-- The property with its attribute. -/
def propertyCode (property : EntityProperty) : List Code :=
  [blank,
   summary ("Wrapper for column " ++ property.columnName ++ "."),
   line ("[DataField(" ++ property.attributeArguments ++ ")]"),
   line ("public " ++ property.memberType ++ " " ++ property.memberName ++ " " ++
     inBraces "get; set;")]

/-- The constructor that applies the defaults, when there are any. -/
def constructorCode (entity : EntityClass) : List Code :=
  onlyIf (!entity.defaults.isEmpty)
    [blank,
     summary "Public constructor that applies column defaults.",
     block ["public " ++ entity.className ++ "()"]
       (entity.defaults.map fun default =>
         line ("this." ++ default.memberName ++ " = " ++ default.value ++ ";"))]

/-- The constants that hold the column names. -/
def columnsCode (entity : EntityClass) : List Code :=
  blank :: region "Columns Struct"
    [line ("///<summary>Columns for this " ++ entity.kind.word ++ "</summary>"),
     block ["public struct Columns"]
       (entity.properties.flatMap fun property =>
         [line ("///<summary>Name of column inside this " ++ entity.kind.word ++ "</summary>"),
          line ("public const string " ++ property.memberName ++ " = " ++
            Literal.verbatim property.columnName ++ ";")])]

/-- The constant that holds the table name. -/
def tableNameCode (entity : EntityClass) : List Code :=
  [blank,
   summary ("Name of the underlying " ++ entity.kind.word ++ "."),
   line ("public const string TableName = " ++ Literal.verbatim entity.tableName ++ ";")]

/-- An SQL constant. -/
def statementCode (constant : Sql.Constant) : List Code :=
  [blank,
   summary ("Parameterized " ++ constant.kind ++ " statement."),
   line ("public const string " ++ constant.name ++ " = " ++ Literal.verbatim constant.sql ++ ";")]

/-- The method that creates a query object, when query objects are wanted. -/
def queryCode (entity : EntityClass) : List Code :=
  onlyIf entity.queryObject
    [blank,
     summary ("Creates new query object for this " ++ entity.kind.word ++ "."),
     block ["public static Query<" ++ entity.className ++ "> CreateQuery()"]
       [line ("return new Query<" ++ entity.className ++ ">();")]]

/-- The code of an entity class. -/
def code (entity : EntityClass) : List Code :=
  [summary ("Wrapper for " ++ entity.kind.word ++ " " ++ entity.tableName ++ "."),
   line ("[DataTable(" ++ Literal.plain entity.tableName ++ ")]"),
   block ["public partial class " ++ entity.className ++ " : " ++ entity.baseClass]
     (entity.properties.flatMap propertyCode ++ entity.constructorCode ++ entity.columnsCode ++
       entity.tableNameCode ++ entity.statements.flatMap statementCode ++ entity.queryCode)]

/-- The text of an entity class inside a namespace. -/
def text (entity : EntityClass) : String := Code.layout 1 entity.code

end EntityClass

end DataLayer
