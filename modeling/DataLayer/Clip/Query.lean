import DataLayer.Code

/-! The query object that builds statements against a table class. -/

namespace DataLayer.Clip

open Code

/-- What a query object remembers and how it is told. -/
def queryConditions : List Code :=
  [blank,
   block ["class Condition"]
     [line "public string Column;",
      line "public QueryOperator Operator;",
      line "public object Value;"],
   blank,
   line "List<Condition> conditions = new List<Condition>();",
   line "List<string> order_by = new List<string>();",
   line "int? top_rows = null;",
   blank,
   summary "Adds a condition; all conditions are joined with \"and\".",
   block ["public Query<T> Where(string column, QueryOperator op, object value)"]
     [line ("conditions.Add(new Condition " ++
        inBraces "Column = column, Operator = op, Value = value" ++ ");"),
      line "return this;"],
   blank,
   summary "Adds an equality condition.",
   block ["public Query<T> Where(string column, object value)"]
     [line "return Where(column, QueryOperator.Equal, value);"],
   blank,
   summary "Adds an order-by column.",
   block ["public Query<T> OrderBy(string column, bool ascending = true)"]
     [line "order_by.Add(column + (ascending ? \"\" : \" desc\"));",
      line "return this;"],
   blank,
   summary "Limits the number of returned rows.",
   block ["public Query<T> Top(int rows)"]
     [line "top_rows = rows;",
      line "return this;"]]

/-- How values and conditions are written in SQL. -/
def queryTexts : List Code :=
  [blank,
   block ["static string TableName()"]
     [line ("var attr = (DataTableAttribute) Attribute.GetCustomAttribute(typeof(T), " ++
        "typeof(DataTableAttribute));"),
      line "return attr.TableName;"],
   blank,
   block ["static string Format(object value)"]
     [line "if (value == null || value == DBNull.Value) return \"null\";",
      line "if (value is string) return \"'\" + ((string) value).Replace(\"'\", \"''\") + \"'\";",
      line ("if (value is DateTime) return \"'\" + ((DateTime) value).ToString(\"yyyyMMdd " ++
        "HH:mm:ss.fff\") + \"'\";"),
      line "if (value is bool) return ((bool) value) ? \"1\" : \"0\";",
      line ("if (value is IFormattable) return ((IFormattable) value).ToString(null, " ++
        "System.Globalization.CultureInfo.InvariantCulture);"),
      line "return \"'\" + value.ToString().Replace(\"'\", \"''\") + \"'\";"],
   blank,
   block ["static string Render(Condition c)"]
     [block ["switch (c.Operator)"]
        [line "case QueryOperator.NotEqual: return c.Column + \" <> \" + Format(c.Value);",
         line "case QueryOperator.Less: return c.Column + \" < \" + Format(c.Value);",
         line "case QueryOperator.LessOrEqual: return c.Column + \" <= \" + Format(c.Value);",
         line "case QueryOperator.Greater: return c.Column + \" > \" + Format(c.Value);",
         line "case QueryOperator.GreaterOrEqual: return c.Column + \" >= \" + Format(c.Value);",
         line "case QueryOperator.Like: return c.Column + \" like \" + Format(c.Value);",
         line "case QueryOperator.IsNull: return c.Column + \" is null\";",
         line "case QueryOperator.IsNotNull: return c.Column + \" is not null\";",
         line "default: return c.Column + \" = \" + Format(c.Value);"]],
   blank,
   block ["string WhereClause()"]
     [line "if (conditions.Count == 0) return \"\";",
      line "return \" where \" + string.Join(\" and \", conditions.Select(Render).ToArray());"]]

/-- The statements a query object builds and executes. -/
def queryStatements : List Code :=
  [blank,
   summary "Creates select statement.",
   block ["public string GetSelectSql(IDataProvider provider)"]
     [line "var fields = (top_rows.HasValue ? \"top \" + top_rows.Value + \" *\" : \"*\");",
      line ("var sql = \"select \" + fields + \" from \" + provider.DatabasePrefix + " ++
        "\"dbo.\" + TableName() + WhereClause();"),
      line "if (order_by.Count > 0)",
      deeper [line "sql += \" order by \" + string.Join(\", \", order_by.ToArray());"],
      line "return sql;"],
   blank,
   summary "Creates delete statement.",
   block ["public string GetDeleteSql(IDataProvider provider)"]
     [line ("return \"delete from \" + provider.DatabasePrefix + \"dbo.\" + TableName() + " ++
        "WhereClause();")],
   blank,
   summary "Executes the select statement.",
   block ["public DataTable Execute(IDataProvider provider)"]
     [line "return provider.GetDataTable(GetSelectSql(provider));"]]

/-- The query object class. -/
def queryObject : List Code :=
  region "query object"
    [blank,
     summary "Query object, used for building statements against a table wrapper.",
     block ["public class Query<T> where T : new()"]
       (queryConditions ++ queryTexts ++ queryStatements),
     blank]

end DataLayer.Clip
