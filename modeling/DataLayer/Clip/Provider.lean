import DataLayer.Code

/-! The data provider for SQL Server that comes with the generated code. -/

namespace DataLayer.Clip

open Code

/-- Connection data and the constructor of the provider. -/
def providerState : List Code :=
  [blank,
   summary "Connection string for establishing database connection.",
   line "protected string con_string;",
   blank,
   summary "Connection to database, opened on first use.",
   line "protected SqlConnection connection;",
   blank,
   summary "Current transaction, if any.",
   line "protected SqlTransaction transaction;",
   blank,
   summary "Command timeout in seconds.",
   line ("public int CommandTimeout " ++ inBraces "get; set;"),
   blank,
   summary "Public constructor.",
   block ["public DbAccessSql(string connection_string)"]
     [line "this.con_string = connection_string;",
      line "this.CommandTimeout = 30;"],
   blank,
   summary "Linked-server database name.",
   line ("public string DatabasePrefix " ++ inBraces "get; set;"),
   blank,
   summary "Schema name.",
   line ("public string SchemaPrefix " ++ inBraces "get; set;"),
   blank,
   block ["SqlConnection Connection"]
     [block ["get"]
        [block ["if (connection == null)"]
           [line "connection = new SqlConnection(con_string);",
            line "connection.Open();"],
         line "return connection;"]]]

/-- Starting and ending transactions. -/
def providerTransactions : List Code :=
  [blank,
   summary "Starts a transaction; nested transactions are not permitted.",
   block ["public void BeginTransaction()"]
     [line "if (transaction != null)",
      deeper [line "throw new InvalidOperationException(\"Transaction already started.\");"],
      line "transaction = Connection.BeginTransaction();"],
   blank,
   summary "Commits the current transaction.",
   block ["public void Commit()"]
     [line "if (transaction == null)",
      deeper [line "throw new InvalidOperationException(\"No transaction to commit.\");"],
      line "transaction.Commit();",
      line "transaction = null;"],
   blank,
   summary "Rolls back the current transaction.",
   block ["public void Rollback()"]
     [line "if (transaction == null)",
      deeper [line "return;"],
      line "transaction.Rollback();",
      line "transaction = null;"]]

/-- Preparing and executing commands. -/
def providerCommands : List Code :=
  [blank,
   block ["SqlCommand Prepare(IDbCommand cmd)"]
     [line "var sql_cmd = (SqlCommand) cmd;",
      line "sql_cmd.Connection = Connection;",
      line "sql_cmd.Transaction = transaction;",
      line "sql_cmd.CommandTimeout = CommandTimeout;",
      line "return sql_cmd;"],
   blank,
   summary "Creates new command object.",
   block ["public IDbCommand CreateCommand()"]
     [line "return new SqlCommand();"],
   blank,
   summary "Returns DataSet that is the result of specified command.",
   block ["public DataSet GetDataSet(IDbCommand cmd)"]
     [line "var ds = new DataSet();",
      block ["using (var adapter = new SqlDataAdapter(Prepare(cmd)))"]
        [line "adapter.Fill(ds);"],
      line "return ds;"],
   blank,
   summary "Returns DataSet that is the result of specified SQL command.",
   block ["public DataSet GetDataSet(string sql)"]
     [line "var cmd = CreateCommand();",
      line "cmd.CommandText = sql;",
      line "return GetDataSet(cmd);"],
   blank,
   summary "Returns DataTable that is the result of specified SQL command.",
   block ["public DataTable GetDataTable(string sql)"]
     [line "var ds = GetDataSet(sql);",
      line "return (ds.Tables.Count > 0 ? ds.Tables[0] : null);"],
   blank,
   summary "Executes given command and returns the number of affected rows.",
   block ["public int ExecuteNonQuery(IDbCommand cmd)"]
     [line "return Prepare(cmd).ExecuteNonQuery();"],
   blank,
   summary "Executes specified command in database.",
   block ["public void ExecuteNonQuery(string sql)"]
     [line "var cmd = CreateCommand();",
      line "cmd.CommandText = sql;",
      line "ExecuteNonQuery(cmd);"],
   blank,
   summary "Executes given command and returns data reader for results.",
   block ["public IDataReader ExecuteReader(IDbCommand cmd)"]
     [line "return Prepare(cmd).ExecuteReader();"],
   blank,
   summary "Returns last generated identity.",
   block ["public long GetIdentity()"]
     [line "var cmd = CreateCommand();",
      line "cmd.CommandText = \"select @@identity\";",
      line "return Convert.ToInt64(Prepare(cmd).ExecuteScalar());"],
   blank,
   summary "Rolls back pending transaction and closes the connection.",
   block ["public void Dispose()"]
     [line "Rollback();",
      block ["if (connection != null)"]
        [line "connection.Close();",
         line "connection = null;"]]]

/-- The provider class. -/
def basicProvider : List Code :=
  region "basic SQL-server provider"
    [blank,
     summary "Encapsulates MS SQL database access.",
     block ["public class DbAccessSql : IDataProviderSpDisposable"]
       (providerState ++ providerTransactions ++ providerCommands),
     blank]

end DataLayer.Clip
