import DataLayer.Catalog.Reader
import DataLayer.Catalog.Schema
import DataLayer.Settings

/-! Reading a schema from a catalog. Objects that cannot be read are left out, procedures are kept
with what could be read, and samples are executed inside a transaction that is always rolled
back. -/

namespace DataLayer.Introspection

variable {σ ω : Type}

/-- The columns of a table or view in the order of their names. -/
def loadColumns (reader : CatalogReader σ ω) (name : String) (kind : TableKind) :
    Reading σ (List Column) := do
  let infos ←
    match kind with
    | .table => reader.tableColumns name
    | .view => reader.viewColumns name
  pure (Table.ofColumns name kind (infos.map Column.ofInfo)).columns

/-- A table with its key, or a view. -/
def loadTable (reader : CatalogReader σ ω) (name : String) (kind : TableKind) :
    Reading σ Table := do
  let columns ← loadColumns reader name kind
  match kind with
  | .table =>
    let keys ← reader.primaryKeys name
    pure ((⟨name, kind, columns⟩ : Table).markKeys keys)
  | .view => pure ⟨name, kind, columns⟩

/-- The parameters of a procedure in catalog order. -/
def loadParameters (reader : CatalogReader σ ω) (procedure : String) :
    Reading σ (List Parameter) := do
  let infos ← reader.procedureParameters procedure
  Reading.conclude (Parameter.ofInfos infos)

/-- A failure on the way to a sample, told as a failed sample of the procedure. -/
def asSampleFailure (procedure : String) : Failure → Failure
  | .sampleFailed failed message => .sampleFailed failed message
  | other => .sampleFailed procedure other.message

/-- Executes a batch in a session of its own, inside a transaction that is rolled back whatever
the execution yields. The outcome is that of the execution. -/
def captureSample (reader : CatalogReader σ ω) (procedure batch : String) (seconds : Nat) :
    Reading σ ResultShape := do
  let session ← reader.openSession.adapt (asSampleFailure procedure)
  (reader.beginTransaction session).adapt (asSampleFailure procedure)
  let outcome ← Reading.attempt (reader.execute session batch seconds)
  let _ ← Reading.attempt (reader.rollBack session)
  Reading.conclude (outcome.mapError (asSampleFailure procedure))

/-- The sample of a procedure, or nothing when it could not be had. -/
def loadSample (reader : CatalogReader σ ω) (procedure batch : String) (seconds : Nat) :
    Reading σ (Option ResultShape) := do
  let outcome ← Reading.attempt (captureSample reader procedure batch seconds)
  pure outcome.toOption

/-- SQL types that are passed a number when a procedure is sampled. -/
def numberTypes : List String :=
  ["bit", "decimal", "numeric", "int", "smallint", "tinyint", "bigint", "money", "smallmoney",
   "float", "real"]

/-- SQL types that are passed an empty text when a procedure is sampled. -/
def textTypes : List String := ["char", "varchar", "text", "nchar", "nvarchar", "ntext"]

/-- SQL types that are passed a date when a procedure is sampled. -/
def dateTypes : List String := ["datetime", "smalldatetime", "datetime2", "date"]

/-- The argument a procedure is sampled with for a parameter of the type. -/
def placeholder (sqlType : String) : String :=
  if numberTypes.contains sqlType then "1"
  else if textTypes.contains sqlType then "''"
  else if dateTypes.contains sqlType then "'20090101'"
  else "null"

/-- The argument for a parameter; output parameters are passed null. -/
def sampleArgument (parameter : Parameter) : String :=
  if parameter.isOutput then "null" else placeholder parameter.sqlType

/-- The batch that samples a procedure, with or without arguments. -/
def sampleBatch (catalogSchema : String) (procedure : Procedure) (withArguments : Bool) :
    String :=
  "exec " ++ catalogSchema ++ "." ++ procedure.name ++
    if withArguments && !procedure.parameters.isEmpty then
      " " ++ Text.joinWith ", " (procedure.parameters.map sampleArgument)
    else
      ""

/-- Adds the sample to a procedure that returns data and is to be sampled. -/
def addSample (reader : CatalogReader σ ω) (settings : Settings) (procedure : Procedure) :
    Reading σ Procedure :=
  if procedure.returnsData && settings.wantsSample procedure.definition then do
    let batch := sampleBatch settings.catalogSchema procedure settings.sampleWithArguments
    let sample ← loadSample reader procedure.name batch settings.sampleLimit
    pure { procedure with sample := sample }
  else
    pure procedure

/-- Keeps a procedure with what was read before a failure, unless the failure is fatal. -/
def stopEarly (procedure : Procedure) (failure : Failure) : Reading σ Procedure :=
  if failure.isFatal then throw failure
  else pure { procedure with loadError := some failure.message }

/-- A procedure with its parameters, its definition and its sample, as far as they can be read. -/
def loadProcedure (reader : CatalogReader σ ω) (settings : Settings) (name : String) :
    Reading σ Procedure := do
  let bare : Procedure := { name := name, returnsData := settings.returnsData name }
  match ← Reading.attempt (loadParameters reader name) with
  | .error failure => stopEarly bare failure
  | .ok parameters =>
    let declared := { bare with parameters := parameters }
    match ← Reading.attempt (reader.procedureDefinition name) with
    | .error failure => stopEarly declared failure
    | .ok definition => addSample reader settings { declared with definition := definition }

/-- The named tables or views in order, without those that cannot be read. A fatal failure ends
the reading. -/
def loadTables (reader : CatalogReader σ ω) (kind : TableKind) :
    List String → Reading σ (List Table)
  | [] => pure []
  | name :: rest => do
    match ← Reading.attempt (loadTable reader name kind) with
    | .ok table =>
      let others ← loadTables reader kind rest
      pure (table :: others)
    | .error failure =>
      if failure.isFatal then throw failure else loadTables reader kind rest

/-- The whole schema: the selected or all tables, all views, and the procedures when they are
used. -/
def introspect (reader : CatalogReader σ ω) (settings : Settings) : Reading σ Schema := do
  let tableNames ←
    match settings.tableFilter.include? with
    | some selected => pure selected
    | none => reader.listTables
  let tables ← loadTables reader .table tableNames
  let viewNames ← reader.listViews
  let views ← loadTables reader .view viewNames
  if settings.useProcedures then
    let procedureNames ← reader.listProcedures
    let procedures ← procedureNames.mapM (loadProcedure reader settings)
    pure ⟨tables, views, procedures⟩
  else
    pure ⟨tables, views, []⟩

end DataLayer.Introspection
