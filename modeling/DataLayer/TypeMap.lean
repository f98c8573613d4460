import DataLayer.Failure
import DataLayer.SqlType

/-! The types of the generated code. Columns are looked up by type name and nullability,
parameters by class and direction, result columns by their runtime type. Column and parameter
entries can be replaced; result columns are fixed. -/

namespace DataLayer

/-- The two counterparts of a column type. -/
structure ColumnMapping where
  dbType : String
  required : String
  optional : String

/-- The column types every map starts with. -/
def ColumnMapping.builtin : List ColumnMapping :=
  [⟨"bigint", "long", "long?"⟩,
   ⟨"binary", "byte[]", "byte[]"⟩,
   ⟨"bit", "bool", "bool?"⟩,
   ⟨"char", "string", "string"⟩,
   ⟨"date", "DateTime", "DateTime?"⟩,
   ⟨"datetime", "DateTime", "DateTime?"⟩,
   ⟨"datetime2", "DateTime", "DateTime?"⟩,
   ⟨"datetimeoffset", "DateTimeOffset", "DateTimeOffset?"⟩,
   ⟨"decimal", "decimal", "decimal?"⟩,
   ⟨"float", "double", "double?"⟩,
   ⟨"image", "byte[]", "byte[]"⟩,
   ⟨"int", "int", "int?"⟩,
   ⟨"money", "decimal", "decimal?"⟩,
   ⟨"nchar", "string", "string"⟩,
   ⟨"ntext", "string", "string"⟩,
   ⟨"numeric", "decimal", "decimal?"⟩,
   ⟨"nvarchar", "string", "string"⟩,
   ⟨"real", "float", "float?"⟩,
   ⟨"smalldatetime", "DateTime", "DateTime?"⟩,
   ⟨"smallint", "short", "short?"⟩,
   ⟨"smallmoney", "decimal", "decimal?"⟩,
   ⟨"sql_variant", "object", "object"⟩,
   ⟨"text", "string", "string"⟩,
   ⟨"time", "TimeSpan", "TimeSpan?"⟩,
   ⟨"timestamp", "byte[]", "byte[]"⟩,
   ⟨"tinyint", "byte", "byte?"⟩,
   ⟨"uniqueidentifier", "System.Guid", "Guid?"⟩,
   ⟨"varbinary", "byte[]", "byte[]"⟩,
   ⟨"varchar", "string", "string"⟩,
   ⟨"xml", "string", "string"⟩]

/-- A column entry: type name in lower case, nullability, and the type it stands for. -/
structure ColumnEntry where
  dbType : String
  nullable : Bool
  target : String
deriving DecidableEq

/-- A parameter entry: the type a caller passes for an input parameter of the class, and the type
that an output parameter is copied back to. -/
structure ParameterEntry where
  parameterType : ParameterType
  input : String
  output : String
deriving DecidableEq

/-- The parameter types every map starts with. -/
def ParameterEntry.builtin : List ParameterEntry :=
  [⟨.int64, "long?", "Int64"⟩,
   ⟨.binary, "byte[]", "byte[]"⟩,
   ⟨.boolean, "bool?", "bool"⟩,
   ⟨.ansiStringFixedLength, "string", "string"⟩,
   ⟨.dateTime, "DateTime?", "DateTime"⟩,
   ⟨.dateTime2, "DateTime?", "DateTime"⟩,
   ⟨.dateTimeOffset, "DateTimeOffset?", "DateTimeOffset"⟩,
   ⟨.date, "DateTime?", "DateTime"⟩,
   ⟨.decimal, "decimal?", "decimal"⟩,
   ⟨.double, "double?", "double"⟩,
   ⟨.int32, "int?", "int"⟩,
   ⟨.currency, "decimal?", "decimal"⟩,
   ⟨.stringFixedLength, "string", "string"⟩,
   ⟨.string, "string", "string"⟩,
   ⟨.single, "Single?", "Single"⟩,
   ⟨.int16, "short?", "short"⟩,
   ⟨.byte, "byte?", "byte"⟩,
   ⟨.guid, "Guid?", "Guid"⟩,
   ⟨.ansiString, "string", "string"⟩,
   ⟨.xml, "string", "string"⟩,
   ⟨.time, "TimeSpan?", "TimeSpan"⟩,
   ⟨.object, "object", "object"⟩]

/-- The types of the members that hold result columns; absent values are null. -/
def RuntimeType.memberTypes : List (RuntimeType × String) :=
  [(.int32, "int?"),
   (.int16, "Int16?"),
   (.int64, "Int64?"),
   (.uint32, "uint?"),
   (.byte, "byte?"),
   (.boolean, "bool?"),
   (.string, "string"),
   (.dateTime, "DateTime?"),
   (.dateTimeOffset, "DateTimeOffset?"),
   (.timeSpan, "TimeSpan?"),
   (.guid, "Guid?"),
   (.single, "float?"),
   (.double, "double?"),
   (.decimal, "decimal?"),
   (.binary, "Byte[]"),
   (.object, "object")]

/-- The replaced entries of a type map, latest first. What no entry covers is looked up among the
built-in types. -/
structure TypeMap where
  columns : List ColumnEntry := []
  parameters : List ParameterEntry := []

namespace TypeMap

/-- The map of a SQL Server catalog without replacements. -/
def sqlServer : TypeMap := {}

/-- Replaces or adds a column entry; the type name is taken without regard to case. -/
def withColumn (map : TypeMap) (dbType : String) (nullable : Bool) (target : String) : TypeMap :=
  { map with columns := ⟨Text.lower dbType, nullable, target⟩ :: map.columns }

/-- Replaces a parameter entry for both directions. -/
def withParameter (map : TypeMap) (parameterType : ParameterType) (input output : String) :
    TypeMap :=
  { map with parameters := ⟨parameterType, input, output⟩ :: map.parameters }

/-- The built-in type of a column whose type name is in lower case. -/
def builtinColumn? (dbType : String) (nullable : Bool) : Option String :=
  (ColumnMapping.builtin.find? (·.dbType == dbType)).map fun mapping =>
    if nullable then mapping.optional else mapping.required

/-- The entry of a column: a replacement if there is one, else the built-in type. -/
def column? (map : TypeMap) (dbType : String) (nullable : Bool) : Option String :=
  match map.columns.find? fun entry => entry.dbType == dbType && entry.nullable == nullable with
  | some entry => some entry.target
  | none => builtinColumn? dbType nullable

/-- The type of a table or view column. A column of length 1 that cannot be null and would be a
`string` is a `char`. -/
def resolve (map : TypeMap) (dbType : String) (nullable : Bool) (length : Int) :
    Except Failure String :=
  match map.column? (Text.lower dbType) nullable with
  | none => .error (.unmappedType dbType (if nullable then "nullable column" else "column"))
  | some target =>
    if !nullable && length == 1 && target == "string" then .ok "char" else .ok target

/-- The entry of a class of parameters: a replacement if there is one, else the built-in entry. -/
def parameterMapping? (map : TypeMap) (parameterType : ParameterType) : Option ParameterEntry :=
  (map.parameters ++ ParameterEntry.builtin).find? (·.parameterType == parameterType)

/-- The type of a procedure parameter in the given direction. -/
def resolveParameter (map : TypeMap) (parameterType : ParameterType) (isOutput : Bool) :
    Except Failure String :=
  match map.parameterMapping? parameterType with
  | some entry => .ok (if isOutput then entry.output else entry.input)
  | none =>
    .error (.unmappedType parameterType.name
      (if isOutput then "output parameter" else "input parameter"))

/-- The type of the member that holds a result column. -/
def resolveResult (runtimeType : RuntimeType) : Except Failure String :=
  match RuntimeType.memberTypes.lookup runtimeType with
  | some memberType => .ok memberType
  | none => .error (.unmappedType runtimeType.name "result column")

/-- Column types that hold Unicode text. -/
def unicodeTypes : List String := ["nchar", "ntext", "nvarchar"]

/-- Whether a column of this type holds Unicode text. -/
def isUnicode (dbType : String) : Bool := unicodeTypes.contains (Text.lower dbType)

end TypeMap

end DataLayer
