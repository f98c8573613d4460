import DataLayer.Code

/-! The interfaces that generated code reaches its data through, and the attributes that bind
classes and members to tables and columns. -/

namespace DataLayer.Clip

open Code

/-- The line that stands for the query operators. -/
def queryMarker : String := "#$#QUERY_HELPER#$#"

/-- The interfaces of data providers. -/
def providerInterfaces : List Code :=
  [blank,
   summary "Interface provides basic access to data.",
   block ["public interface IDataProvider"]
     [blank,
      summary "Returns DataTable that is the result of specified SQL command.",
      line "DataTable GetDataTable(string sql);",
      blank,
      summary "Returns DataSet that is the result of specified SQL command.",
      line "DataSet GetDataSet(string sql);",
      blank,
      summary "Executes specified command in database.",
      line "void ExecuteNonQuery(string sql);",
      blank,
      summary "Returns last generated identity.",
      line "long GetIdentity();",
      blank,
      summary "Linked-server database name, injected before the schema.",
      line ("string DatabasePrefix " ++ inBraces "get;"),
      blank,
      summary "Schema name (if null, dbo is used).",
      line ("string SchemaPrefix " ++ inBraces "get;")],
   blank,
   summary "Interface provides access to command objects.",
   block ["public interface IDataProviderSp : IDataProvider"]
     [blank,
      summary "Executes given command and returns its result sets.",
      line "DataSet GetDataSet(IDbCommand cmd);",
      blank,
      summary "Executes given command and returns the number of affected rows.",
      line "int ExecuteNonQuery(IDbCommand cmd);",
      blank,
      summary "Executes given command and returns data reader for results.",
      line "IDataReader ExecuteReader(IDbCommand cmd);",
      blank,
      summary "Creates new command object.",
      line "IDbCommand CreateCommand();"],
   blank,
   summary "Data provider that also requires implementation of IDisposable.",
   block ["public interface IDataProviderSpDisposable : IDataProviderSp, IDisposable"] [],
   blank]

/-- The attribute that binds a member to a column. -/
def columnAttribute : List Code :=
  [blank,
   summary "Marks the member as database-bound.",
   line "[AttributeUsage(AttributeTargets.Field | AttributeTargets.Property)]",
   block ["public class DataFieldAttribute : Attribute"]
     [blank,
      line "string column_name;",
      line "int max_len = -1;",
      blank,
      summary "Public constructor.",
      block ["public DataFieldAttribute(string cn)"]
        [line "this.column_name = cn.ToLower();"],
      blank,
      summary "Name of the column the member is bound to.",
      block ["public string ColumnName"]
        [line ("get " ++ inBraces "return column_name;"),
         line ("set " ++ inBraces "column_name = value.ToLower();")],
      blank,
      summary "Column is system generated and never written.",
      line ("public bool ReadOnly " ++ inBraces "get; set;"),
      blank,
      summary "Column is (part of) the key.",
      line ("public bool Key " ++ inBraces "get; set;"),
      blank,
      summary "Column is identity; skipped in insert statements.",
      line ("public bool Identity " ++ inBraces "get; set;"),
      blank,
      summary "Maximum length of string values, -1 when not applicable.",
      block ["public int MaxLen"]
        [line ("get " ++ inBraces "return max_len;"),
         line ("set " ++ inBraces "max_len = (value >= -1 ? value : -1);")],
      blank,
      summary "Column stores unicode text.",
      line ("public bool Unicode " ++ inBraces "get; set;"),
      blank,
      summary "Column is nullable.",
      line ("public bool Nullable " ++ inBraces "get; set;"),
      blank,
      summary "Type of the column in the database.",
      line ("public string DbType " ++ inBraces "get; set;")]]

/-- The attribute that binds a class to a table. -/
def tableAttribute : List Code :=
  [blank,
   summary "Marks the class as database-bound.",
   line "[AttributeUsage(AttributeTargets.Class | AttributeTargets.Struct)]",
   block ["public class DataTableAttribute : Attribute"]
     [blank,
      summary "Public constructor that initializes member.",
      line ("public DataTableAttribute(string tableName) " ++
        inBraces "this.TableName = tableName;"),
      blank,
      summary "Name of the table to bind the object to.",
      line ("public string TableName " ++ inBraces "get; set;")]]

/-- Provider interfaces and attributes, with the marker where the query operators go. -/
def attributes : List Code :=
  region "data provider interface" providerInterfaces ++ [blank] ++
  region "attributes" (columnAttribute ++ tableAttribute ++ [verbatim queryMarker])

/-- The comparison operators of query objects. -/
def queryOperators : List Code :=
  [blank,
   summary "Comparison operators supported by the query object.",
   block ["public enum QueryOperator"]
     [line "Equal,",
      line "NotEqual,",
      line "Less,",
      line "LessOrEqual,",
      line "Greater,",
      line "GreaterOrEqual,",
      line "Like,",
      line "IsNull,",
      line "IsNotNull"]]

end DataLayer.Clip
