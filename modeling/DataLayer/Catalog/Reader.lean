import DataLayer.Catalog.Procedure
import DataLayer.Catalog.Table

/-! Access to a catalog. A reader answers calls over a state of its own, so its answers may depend
on everything that was asked before. Samples are executed in sessions that the reader opens. -/

namespace DataLayer

/-- A call on a catalog: it may change the reader's state, and it may fail. The state stays as the
call left it when it fails. -/
abbrev Reading (σ α : Type) : Type := ExceptT Failure (StateM σ) α

/-- Runs an action and hands on its outcome, be it a value or a failure. -/
def Reading.attempt {σ α : Type} (action : Reading σ α) : Reading σ (Except Failure α) :=
  ExceptT.mk (do
    let outcome ← action.run
    pure (.ok outcome))

/-- Ends with a given outcome. -/
def Reading.conclude {σ α : Type} (outcome : Except Failure α) : Reading σ α :=
  ExceptT.mk (pure outcome)

/-- Read access to a catalog, with state `σ` and sessions `ω`. -/
structure CatalogReader (σ ω : Type) where
  listTables : Reading σ (List String)
  listViews : Reading σ (List String)
  listProcedures : Reading σ (List String)
  tableColumns : String → Reading σ (List ColumnInfo)
  viewColumns : String → Reading σ (List ColumnInfo)
  primaryKeys : String → Reading σ (List String)
  /-- The parameters of a procedure in catalog order. -/
  procedureParameters : String → Reading σ (List ParameterInfo)
  procedureDefinition : String → Reading σ (Option String)
  /-- Opens a session for one sample. -/
  openSession : Reading σ ω
  beginTransaction : ω → Reading σ Unit
  /-- Executes a batch within a time limit in seconds. -/
  execute : ω → (batch : String) → (seconds : Nat) → Reading σ ResultShape
  rollBack : ω → Reading σ Unit

/-- The calls of a reader, without their arguments. -/
inductive CatalogCall where
  | listTables | listViews | listProcedures | tableColumns | viewColumns | primaryKeys
  | procedureParameters | procedureDefinition | openSession | beginTransaction | execute
  | rollBack
deriving DecidableEq, Repr

/-- Failures that are to be met by some calls. -/
abbrev Faults : Type := CatalogCall → Option Failure

/-- A session that keeps the failures in force when it was opened. -/
structure FaultySession (ω : Type) where
  faults : Faults
  session : ω

namespace CatalogReader

/-- Lets a call fail before it reaches the reader when a failure is set for it. -/
def guarded {σ α : Type} (faults : Faults) (call : CatalogCall) (action : Reading σ α) :
    Reading σ α :=
  match faults call with
  | some failure => throw failure
  | none => action

/-- The reader with failures set for some of its calls. A session keeps the failures that were set
when it was opened. -/
def failing {σ ω : Type} (reader : CatalogReader σ ω) (faults : Faults) :
    CatalogReader σ (FaultySession ω) where
  listTables := guarded faults .listTables reader.listTables
  listViews := guarded faults .listViews reader.listViews
  listProcedures := guarded faults .listProcedures reader.listProcedures
  tableColumns name := guarded faults .tableColumns (reader.tableColumns name)
  viewColumns name := guarded faults .viewColumns (reader.viewColumns name)
  primaryKeys name := guarded faults .primaryKeys (reader.primaryKeys name)
  procedureParameters name :=
    guarded faults .procedureParameters (reader.procedureParameters name)
  procedureDefinition name :=
    guarded faults .procedureDefinition (reader.procedureDefinition name)
  openSession := guarded faults .openSession (do
    let session ← reader.openSession
    pure ⟨faults, session⟩)
  beginTransaction opened :=
    guarded opened.faults .beginTransaction (reader.beginTransaction opened.session)
  execute opened batch seconds :=
    guarded opened.faults .execute (reader.execute opened.session batch seconds)
  rollBack opened := guarded opened.faults .rollBack (reader.rollBack opened.session)

end CatalogReader

end DataLayer
