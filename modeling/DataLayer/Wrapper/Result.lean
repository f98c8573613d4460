import DataLayer.Catalog.Procedure
import DataLayer.Code
import DataLayer.Literal
import DataLayer.Naming
import DataLayer.Settings
import DataLayer.TypeMap
import DataLayer.Wrapper.Entity

/-! Classes for the results of a data-returning procedure: one for the rows of each result table
and one that holds them all. -/

namespace DataLayer

/-- The names of columns as a filled table reports them. An unnamed column is numbered among the
unnamed ones, and a name that came before, up to case, gets the number of its earlier uses. -/
def reportedNamesFrom (earlier : List String) (unnamed : Nat) : List String → List String
  | [] => []
  | name :: rest =>
    let nameless := Text.trim name == ""
    let number := if nameless then unnamed + 1 else unnamed
    let base := if nameless then Naming.numbered "Column" number else name
    let uses := earlier.count (Text.lower base)
    (if uses = 0 then base else Naming.numbered base uses) ::
      reportedNamesFrom (Text.lower base :: earlier) number rest

/-- The reported names of the columns of a result table. -/
def ResultTable.reportedNames (table : ResultTable) : List String :=
  reportedNamesFrom [] 0 (table.columns.map (·.name))

/-- A property that holds one result column. -/
structure ResultProperty where
  columnName : String
  memberName : String
  memberType : String
  runtimeType : RuntimeType
deriving DecidableEq, Repr

/-- The class for the rows of one result table. -/
structure ResultClass where
  index : Nat
  className : String
  baseClass : String
  properties : List ResultProperty
deriving DecidableEq, Repr

/-- The class that holds all result tables of a procedure. -/
structure ResultAggregate where
  className : String
  /-- The class name with the static class in front. -/
  qualifiedName : String
  /-- Whether the texts of the results are trimmed. -/
  trims : Bool
  tables : List ResultClass
deriving DecidableEq, Repr

/-- The expression that converts a value read from a row. -/
def RuntimeType.conversion (runtimeType : RuntimeType) (value : String) : String :=
  match runtimeType with
  | .int32 => "Convert.ToInt32(" ++ value ++ ")"
  | .int16 => "Convert.ToInt16(" ++ value ++ ")"
  | .int64 => "Convert.ToInt64(" ++ value ++ ")"
  | .uint32 => "Convert.ToUInt32(" ++ value ++ ")"
  | .byte => "Convert.ToByte(" ++ value ++ ")"
  | .boolean => "Convert.ToBoolean(" ++ value ++ ")"
  | .dateTime => "Convert.ToDateTime(" ++ value ++ ")"
  | .single => "Convert.ToSingle(" ++ value ++ ")"
  | .double => "Convert.ToDouble(" ++ value ++ ")"
  | .decimal => "Convert.ToDecimal(" ++ value ++ ")"
  | .string =>
    "(autotrim ? Convert.ToString(" ++ value ++ ").Trim() : Convert.ToString(" ++ value ++ "))"
  | .dateTimeOffset => "(DateTimeOffset) " ++ value
  | .timeSpan => "(TimeSpan) " ++ value
  | .guid => "(Guid) " ++ value
  | .binary => "(byte[]) " ++ value
  | .object => value

/-- The assignment that copies a column of a row into a member; a null stays null. -/
def fillStatement (member column memberType : String) (runtimeType : RuntimeType) : String :=
  "this." ++ member ++ " = r.IsNull(" ++ Literal.plain column ++ ") ? (" ++ memberType ++
    ") null : " ++ runtimeType.conversion ("r[" ++ Literal.plain column ++ "]") ++ ";"

namespace ResultProperty

/-- The property of the given names for a result column. -/
def ofColumn (columnName memberName : String) (column : ResultColumn) :
    Except Failure ResultProperty := do
  let memberType ← TypeMap.resolveResult column.runtimeType
  pure ⟨columnName, memberName, memberType, column.runtimeType⟩

/-- The assignment that fills the property from a row. -/
def fill (property : ResultProperty) : String :=
  fillStatement property.memberName property.columnName property.memberType property.runtimeType

end ResultProperty

namespace ResultClass

/-- The member wanted for a reported column name. -/
def wantedMember (settings : Settings) (columnName : String) : String :=
  Identifier.ofText (settings.memberPrefix ++ EntityClass.columnName settings columnName)

/-- The members of a result table, all different. -/
def memberNames (settings : Settings) (table : ResultTable) : List String :=
  ({} : Naming.Allocator).claimAll (table.reportedNames.map (wantedMember settings))

/-- The properties of a result table, one for each column in order. -/
def propertiesOf (settings : Settings) (table : ResultTable) :
    Except Failure (List ResultProperty) :=
  ((table.reportedNames.zip (memberNames settings table)).zip table.columns).mapM fun entry =>
    ResultProperty.ofColumn entry.1.1 entry.1.2 entry.2

/-- The class with the given properties for one result table of the named aggregate. -/
def ofProperties (settings : Settings) (aggregate : String) (index : Nat)
    (properties : List ResultProperty) : ResultClass where
  index := index
  className := aggregate ++ "_" ++ index.repr
  baseClass := settings.baseClassName
  properties := properties

/-- The class for one result table of the named aggregate. -/
def ofTable (settings : Settings) (aggregate : String) (index : Nat) (table : ResultTable) :
    Except Failure ResultClass :=
  ofProperties settings aggregate index <$> propertiesOf settings table

open Code

/-- The property with its attribute. -/
def propertyCode (procedure : String) (property : ResultProperty) : List Code :=
  [blank,
   summary ("The value of the corresponding field in the result of " ++ procedure ++ "."),
   line ("[DataField(" ++ Literal.plain property.columnName ++ ", ReadOnly=true)]"),
   line ("public " ++ property.memberType ++ " " ++ property.memberName ++ " " ++
     inBraces "get; set;")]

/-- The code of a result class. -/
def code (procedure : String) (result : ResultClass) : List Code :=
  [blank,
   summary ("Wrapper for result table " ++ result.index.repr ++ " of " ++ procedure ++ "."),
   block ["public partial class " ++ result.className ++ " : " ++ result.baseClass]
     (result.properties.flatMap (propertyCode procedure) ++
      [blank,
       summary "Copies the values of the given row into this object.",
       block ["public void FillFromDataRow(DataRow r, bool autotrim)"]
         (result.properties.map fun property => line property.fill),
       blank] ++
      region "Columns Struct"
        [line "///<summary>Columns for this table</summary>",
         block ["public struct Columns"]
           (result.properties.flatMap fun property =>
             [line "///<summary>Name of column inside this table</summary>",
              line ("public const string " ++ property.memberName ++ " = " ++
                Literal.verbatim property.columnName ++ ";")])])]

end ResultClass

namespace ResultAggregate

/-- The name of the aggregate of a procedure. -/
def classNameOf (settings : Settings) (procedure : String) : String :=
  settings.classPrefix ++ Identifier.pascalCase procedure

/-- The aggregate of a procedure that holds the given result classes. -/
def ofTables (settings : Settings) (procedure : String) (tables : List ResultClass) :
    ResultAggregate where
  className := classNameOf settings procedure
  qualifiedName := settings.procedureClass ++ "." ++ classNameOf settings procedure
  trims := settings.trimResults
  tables := tables

/-- The aggregate for a sampled result. -/
def ofSample (settings : Settings) (procedure : String) (sample : ResultShape) :
    Except Failure ResultAggregate :=
  ofTables settings procedure <$> sample.tables.zipIdx.mapM fun entry =>
    ResultClass.ofTable settings (classNameOf settings procedure) entry.2 entry.1

open Code

/-- The code of the result classes of a procedure and of the aggregate after them. -/
def code (procedure : String) (aggregate : ResultAggregate) : List Code :=
  aggregate.tables.flatMap (ResultClass.code procedure) ++
  [blank,
   summary ("Wrapper for all result tables of " ++ procedure ++ "."),
   block ["public partial class " ++ aggregate.className]
     (aggregate.tables.flatMap fun result =>
       [line ("///<summary>Rows of result table " ++ result.index.repr ++ "</summary>"),
        line ("public IList<" ++ result.className ++ "> Table_" ++ result.index.repr ++ ";")])]

end ResultAggregate

end DataLayer
