import DataLayer.Catalog.Reader
import DataLayer.Keyed

/-! A catalog written down: tables, views and procedures as a live catalog would describe them,
with the result that a sample execution would have. -/

namespace DataLayer

/-- A table or view of a snapshot. -/
structure SnapshotTable where
  name : String
  columns : List ColumnInfo := []
  primaryKey : List String := []
deriving DecidableEq, Repr

/-- A procedure of a snapshot. -/
structure SnapshotProcedure where
  name : String
  parameters : List ParameterInfo := []
  definition : Option String := none
  /-- The result of a sample execution. -/
  sample : Option ResultShape := none
  /-- Why a sample execution fails. -/
  sampleError : Option String := none
  /-- Why the procedure cannot be read. -/
  error : Option String := none
deriving DecidableEq, Repr

/-- A catalog written down. -/
structure Snapshot where
  tables : List SnapshotTable := []
  views : List SnapshotTable := []
  procedures : List SnapshotProcedure := []
deriving DecidableEq, Repr

/-- What sampling the procedure yields; without a sample the result has no tables. -/
def SnapshotProcedure.outcome (procedure : SnapshotProcedure) : Except String ResultShape :=
  match procedure.sampleError with
  | some message => .error message
  | none => .ok (procedure.sample.getD {})

/-- A catalog that answers from a snapshot. Objects are listed in the order of the snapshot, and
the rollbacks of all sessions are counted. -/
structure SnapshotCatalog where
  tables : Keyed SnapshotTable
  views : Keyed SnapshotTable
  procedures : Keyed SnapshotProcedure
  /-- What sampling yields, under the procedure names in lower case. -/
  outcomes : Keyed (Except String ResultShape)
  rollbacks : Nat := 0

namespace SnapshotCatalog

/-- The catalog of a snapshot. Of two objects of one name the later one answers. -/
def ofSnapshot (snapshot : Snapshot) : SnapshotCatalog where
  tables := .ofList (snapshot.tables.map fun table => (table.name, table))
  views := .ofList (snapshot.views.map fun view => (view.name, view))
  procedures := .ofList (snapshot.procedures.map fun procedure => (procedure.name, procedure))
  outcomes := .ofList (snapshot.procedures.map fun procedure =>
    (Text.lower procedure.name, procedure.outcome))

/-- The table or view of that name. -/
def object (objects : Keyed SnapshotTable) (name : String) : Except Failure SnapshotTable :=
  match objects.get? name with
  | some table => .ok table
  | none => .error (.catalogItem name "object not found in snapshot")

/-- The procedure of that name, unless the snapshot says that it cannot be read. -/
def procedure (catalog : SnapshotCatalog) (name : String) : Except Failure SnapshotProcedure :=
  match catalog.procedures.get? name with
  | none => .error (.catalogItem name "procedure not found in snapshot")
  | some procedure =>
    match procedure.error with
    | some message => .error (.catalogItem name message)
    | none => .ok procedure

/-- The last of the parts between dots. -/
def lastPart (name : String) : String := (Text.pieces (· == '.') name).getLast?.getD ""

/-- The procedure that a batch of the form `exec schema.name arguments` executes. -/
def executedProcedure? (batch : String) : Option String :=
  match Text.words batch with
  | verb :: target :: _ =>
    if Text.sameIgnoringAsciiCase verb "exec" || Text.sameIgnoringAsciiCase verb "execute" then
      some (lastPart target)
    else
      none
  | _ => none

/-- What executing a batch yields. -/
def answer (catalog : SnapshotCatalog) (batch : String) : Except Failure ResultShape :=
  match executedProcedure? batch with
  | none => .error (.configuration ("unsupported batch: " ++ batch))
  | some name =>
    match catalog.outcomes.get? (Text.lower name) with
    | some (.ok sample) => .ok sample
    | some (.error message) => .error (.sampleFailed name message)
    | none => .error (.sampleFailed name "Could not find stored procedure")

/-- An answer that is computed from the catalog and leaves it as it is. -/
def ask {α : Type} (question : SnapshotCatalog → Except Failure α) : Reading SnapshotCatalog α :=
  ExceptT.mk (do
    let catalog ← get
    pure (question catalog))

/-- Counts a rollback. -/
def countRollback : Reading SnapshotCatalog Unit :=
  ExceptT.mk (do
    modify fun catalog => { catalog with rollbacks := catalog.rollbacks + 1 }
    pure (.ok ()))

/-- The reader over a snapshot. Its sessions hold nothing. -/
def reader : CatalogReader SnapshotCatalog Unit where
  listTables := ask fun catalog => .ok catalog.tables.keys
  listViews := ask fun catalog => .ok catalog.views.keys
  listProcedures := ask fun catalog => .ok catalog.procedures.keys
  tableColumns name := ask fun catalog => (object catalog.tables name).map (·.columns)
  viewColumns name := ask fun catalog => (object catalog.views name).map (·.columns)
  primaryKeys name := ask fun catalog => (object catalog.tables name).map (·.primaryKey)
  procedureParameters name := ask fun catalog => (catalog.procedure name).map (·.parameters)
  procedureDefinition name := ask fun catalog => (catalog.procedure name).map (·.definition)
  openSession := pure ()
  beginTransaction _ := pure ()
  execute _ batch _ := ask fun catalog => catalog.answer batch
  rollBack _ := countRollback

end SnapshotCatalog

end DataLayer
