import DataLayer.Document
import DataLayer.Snapshot

/-! Reading catalog descriptions from structured documents. Fields that a description does not know
are passed over. -/

namespace DataLayer

open Document

variable {δ : Type} [Document δ]

/-- Reads a column description. -/
def ColumnInfo.read (value : δ) : Decoding ColumnInfo := do
  let record ← openRecord
    ["name", "db_type", "length", "precision", "scale", "nullable", "identity", "computed",
     "default"] value
  pure
    { name := ← required record "name" text
      dbType := ← required record "db_type" text
      length := ← withDefault record "length" int32 (-1)
      precision := ← withDefault record "precision" byte 0
      scale := ← withDefault record "scale" byte 0
      nullable := ← withDefault record "nullable" flag false
      identity := ← withDefault record "identity" flag false
      computed := ← withDefault record "computed" flag false
      defaultText := ← withDefault record "default" (optionOf text) none }

/-- Reads a parameter description. -/
def ParameterInfo.read (value : δ) : Decoding ParameterInfo := do
  let record ← openRecord ["name", "sql_type", "direction", "precision", "scale", "size"] value
  pure
    { name := ← required record "name" text
      sqlType := ← required record "sql_type" text
      direction := ← withDefault record "direction" (oneOf Direction.ofName?) .input
      precision := ← withDefault record "precision" byte 0
      scale := ← withDefault record "scale" byte 0
      size := ← withDefault record "size" int32 0 }

/-- Reads a result column type. -/
def RuntimeType.read (value : δ) : Decoding RuntimeType :=
  oneOf RuntimeType.ofName? value

/-- Reads a result column. -/
def ResultColumn.read (value : δ) : Decoding ResultColumn := do
  let record ← openRecord ["name", "runtime_type"] value
  pure
    { name := ← required record "name" text
      runtimeType := ← required record "runtime_type" RuntimeType.read }

/-- Reads a result table. -/
def ResultTable.read (value : δ) : Decoding ResultTable := do
  let record ← openRecord ["columns", "row_count"] value
  pure
    { columns := ← required record "columns" (listOf ResultColumn.read)
      rowCount := ← withDefault record "row_count" word64 0 }

/-- Reads the shape of a result. -/
def ResultShape.read (value : δ) : Decoding ResultShape := do
  let record ← openRecord ["tables"] value
  pure { tables := ← required record "tables" (listOf ResultTable.read) }

/-- Reads a table or view of a snapshot. -/
def SnapshotTable.read (value : δ) : Decoding SnapshotTable := do
  let record ← openRecord ["name", "fields", "primary_key"] value
  pure
    { name := ← required record "name" text
      columns := ← withDefault record "fields" (listOf ColumnInfo.read) []
      primaryKey := ← withDefault record "primary_key" (listOf text) [] }

/-- Reads a procedure of a snapshot. -/
def SnapshotProcedure.read (value : δ) : Decoding SnapshotProcedure := do
  let record ← openRecord
    ["name", "parameters", "definition", "sample", "sample_error", "error"] value
  pure
    { name := ← required record "name" text
      parameters := ← withDefault record "parameters" (listOf ParameterInfo.read) []
      definition := ← withDefault record "definition" (optionOf text) none
      sample := ← withDefault record "sample" (optionOf ResultShape.read) none
      sampleError := ← withDefault record "sample_error" (optionOf text) none
      error := ← withDefault record "error" (optionOf text) none }

/-- Reads a snapshot; all its lists may be absent. -/
def Snapshot.read (value : δ) : Decoding Snapshot := do
  let record ← openRecord ["tables", "views", "procedures"] value
  pure
    { tables := ← withDefault record "tables" (listOf SnapshotTable.read) []
      views := ← withDefault record "views" (listOf SnapshotTable.read) []
      procedures := ← withDefault record "procedures" (listOf SnapshotProcedure.read) [] }

end DataLayer
