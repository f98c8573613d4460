import DataLayer.Text.Case
import DataLayer.Text.Edit

/-! Classifications of database types that do not depend on the vendor's spelling: one for
procedure parameters and one for the columns of a result. -/

namespace DataLayer

/-- Portable class of a stored-procedure parameter. -/
inductive ParameterType where
  | ansiString | ansiStringFixedLength | binary | boolean | byte | currency | date | dateTime
  | dateTime2 | dateTimeOffset | decimal | double | guid | int16 | int32 | int64 | object
  | single | string | stringFixedLength | time | xml
deriving DecidableEq, Repr

namespace ParameterType

/-- The class of every SQL type name, in lower case. -/
def sqlNames : List (String × ParameterType) :=
  [("bigint", int64), ("binary", binary), ("varbinary", binary), ("image", binary),
   ("timestamp", binary), ("rowversion", binary), ("bit", boolean),
   ("char", ansiStringFixedLength), ("date", date), ("datetime", dateTime),
   ("smalldatetime", dateTime), ("datetime2", dateTime2), ("datetimeoffset", dateTimeOffset),
   ("decimal", decimal), ("numeric", decimal), ("float", double), ("int", int32),
   ("money", currency), ("smallmoney", currency), ("nchar", stringFixedLength),
   ("nvarchar", string), ("ntext", string), ("sysname", string), ("real", single),
   ("smallint", int16), ("sql_variant", object), ("time", time), ("tinyint", byte),
   ("uniqueidentifier", guid), ("varchar", ansiString), ("text", ansiString), ("xml", xml)]

/-- Classifies a SQL type name without regard to its case and the white space around it. -/
def ofSqlType? (sqlType : String) : Option ParameterType :=
  sqlNames.lookup (Text.lower (Text.trim sqlType))

/-- The member of `DbType` that stands for the class. -/
def name : ParameterType → String
  | ansiString => "AnsiString"
  | ansiStringFixedLength => "AnsiStringFixedLength"
  | binary => "Binary"
  | boolean => "Boolean"
  | byte => "Byte"
  | currency => "Currency"
  | date => "Date"
  | dateTime => "DateTime"
  | dateTime2 => "DateTime2"
  | dateTimeOffset => "DateTimeOffset"
  | decimal => "Decimal"
  | double => "Double"
  | guid => "Guid"
  | int16 => "Int16"
  | int32 => "Int32"
  | int64 => "Int64"
  | object => "Object"
  | single => "Single"
  | string => "String"
  | stringFixedLength => "StringFixedLength"
  | time => "Time"
  | xml => "Xml"

end ParameterType

/-- Type of a column in the result of an executed procedure. -/
inductive RuntimeType where
  | int32 | int16 | int64 | uint32 | byte | boolean | string | dateTime | dateTimeOffset
  | timeSpan | guid | single | double | decimal | binary | object
deriving DecidableEq, Repr

namespace RuntimeType

/-- All result column types under the names that descriptions of results use. -/
def names : List (String × RuntimeType) :=
  [("int32", int32), ("int16", int16), ("int64", int64), ("u_int32", uint32), ("byte", byte),
   ("boolean", boolean), ("string", string), ("date_time", dateTime),
   ("date_time_offset", dateTimeOffset), ("time_span", timeSpan), ("guid", guid),
   ("single", single), ("double", double), ("decimal", decimal), ("binary", binary),
   ("object", object)]

/-- The type of that name. -/
def ofName? (name : String) : Option RuntimeType := names.lookup name

/-- The name that a failure shows. -/
def name : RuntimeType → String
  | int32 => "Int32"
  | int16 => "Int16"
  | int64 => "Int64"
  | uint32 => "UInt32"
  | byte => "Byte"
  | boolean => "Boolean"
  | string => "String"
  | dateTime => "DateTime"
  | dateTimeOffset => "DateTimeOffset"
  | timeSpan => "TimeSpan"
  | guid => "Guid"
  | single => "Single"
  | double => "Double"
  | decimal => "Decimal"
  | binary => "Binary"
  | object => "Object"

end RuntimeType

end DataLayer
