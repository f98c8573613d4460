import DataLayer.Code

/-! The namespaces that generated code always imports, and the helpers that bind parameters. -/

namespace DataLayer.Clip

open Code

/-- The imported namespaces. -/
def imports : List Code :=
  [line "using System.Collections;",
   line "using System.Collections.Generic;",
   line "using System.Data.SqlClient;",
   line "using System.Data.SqlTypes;",
   line "using System.Data;",
   line "using System.Linq;",
   line "using System.Text;",
   line "using System;"]

/-- The null test and the two helpers that create bound parameters. -/
def parameterHelpers : List Code :=
  [summary "Checks if the specified value is null.",
   block ["static bool CheckNull(object o)"]
     [line "if (o is INullable) return (o as INullable).IsNull;",
      line "return o == null;"],
   blank,
   summary "Creates new input parameter.",
   block ["static IDbDataParameter AddParameter(IDbCommand cmd, string name, DbType type, " ++
       "object val)"]
     [line "IDbDataParameter par = cmd.CreateParameter();",
      line "par.DbType = type;",
      line "par.ParameterName = name;",
      line "par.Value = val;",
      line "cmd.Parameters.Add(par);",
      line "return par;"],
   blank,
   summary "Creates new input-output parameter.",
   block ["static IDbDataParameter AddParameterOut(IDbCommand cmd, string name, DbType " ++
       "type, object val, byte? precision, byte? scale, int? size)"]
     [line "IDbDataParameter par = cmd.CreateParameter();",
      line "par.DbType = type;",
      line "par.Direction = ParameterDirection.InputOutput;",
      line "par.ParameterName = name;",
      line "par.Value = val;",
      block ["if (precision.HasValue)"]
        [line "par.Precision = precision.Value;",
         line "par.Scale = scale ?? 0;"],
      line "if (size.HasValue)",
      deeper [line "par.Size = size.Value;"],
      line "cmd.Parameters.Add(par);",
      line "return par;"]]

end DataLayer.Clip
