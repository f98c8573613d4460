import DataLayer.Generator
import DataLayer.Proofs.Introspection.Transcript
import DataLayer.Snapshot

/-!
# What is read of a snapshot

The catalog of a snapshot answers from what was written down, so every loading step has one outcome
on it, however many transactions were rolled back before. `Settles` states this outcome together
with the rollbacks of the step, and `introspect_settles` computes both for a whole run.
-/

namespace DataLayer

open Introspection Reading

/-- What is read of a table or view under a name: its columns in order, and the key of a table. -/
def SnapshotTable.described (name : String) (kind : TableKind) (entry : SnapshotTable) : Table :=
  match kind with
  | .table =>
    (Table.ofColumns name .table (entry.columns.map Column.ofInfo)).markKeys entry.primaryKey
  | .view => Table.ofColumns name .view (entry.columns.map Column.ofInfo)

/-- The tables or the views of a snapshot. -/
def Snapshot.entries (snapshot : Snapshot) : TableKind → List SnapshotTable
  | .table => snapshot.tables
  | .view => snapshot.views

/-- Whether a procedure is to be sampled. -/
def Settings.samples (settings : Settings) (procedure : Procedure) : Bool :=
  procedure.returnsData && settings.wantsSample procedure.definition

namespace SnapshotCatalog

/-- The tables or the views of a catalog. -/
def entries (catalog : SnapshotCatalog) : TableKind → Keyed SnapshotTable
  | .table => catalog.tables
  | .view => catalog.views

/-- The catalog of a snapshot lists its entries under their names. -/
theorem entries_ofSnapshot (snapshot : Snapshot) (kind : TableKind) :
    (ofSnapshot snapshot).entries kind =
      .ofList ((snapshot.entries kind).map fun entry => (entry.name, entry)) := by
  cases kind <;> rfl

/-- The table or view that is read under a name. -/
def table? (catalog : SnapshotCatalog) (kind : TableKind) (name : String) : Option Table :=
  ((catalog.entries kind).get? name).map (SnapshotTable.described name kind)

/-- The names of the tables or views that a run asks for. -/
def tableNames (catalog : SnapshotCatalog) (settings : Settings) : TableKind → List String
  | .table => settings.tableFilter.include?.getD (catalog.entries .table).keys
  | .view => (catalog.entries .view).keys

/-- The tables or views that a run reads. -/
def tablesRead (catalog : SnapshotCatalog) (settings : Settings) (kind : TableKind) : List Table :=
  (catalog.tableNames settings kind).filterMap (catalog.table? kind)

/-- A procedure with the sample that executing its batch yields, if it is to have one. -/
def sampled (catalog : SnapshotCatalog) (settings : Settings) (procedure : Procedure) : Procedure :=
  if settings.samples procedure then
    { procedure with
      sample := (catalog.answer
        (sampleBatch settings.catalogSchema procedure settings.sampleWithArguments)).toOption }
  else
    procedure

/-- A procedure of the snapshot with usable parameters, before it is sampled. -/
def declared (settings : Settings) (name : String) (entry : SnapshotProcedure)
    (parameters : List Parameter) : Procedure :=
  { name := name
    returnsData := settings.returnsData name
    parameters := parameters
    definition := entry.definition }

/-- What is read of a procedure. One that the snapshot says cannot be read is kept with the reason,
and a parameter type without a class is a failure. -/
def readProcedure (catalog : SnapshotCatalog) (settings : Settings) (name : String) :
    Except Failure Procedure :=
  match catalog.procedure name with
  | .error failure =>
    .ok { name := name, returnsData := settings.returnsData name, loadError := failure.message }
  | .ok entry =>
    (Parameter.ofInfos entry.parameters).map fun parameters =>
      catalog.sampled settings (declared settings name entry parameters)

/-- The transactions that reading a procedure rolls back. -/
def rollbacksFor (settings : Settings) : Except Failure Procedure → Nat
  | .ok procedure => if procedure.loadError = none ∧ settings.samples procedure then 1 else 0
  | .error _ => 0

/-- The transactions that reading procedures in order rolls back, up to the first failure. -/
def rollbacksUpTo (settings : Settings) (outcome : String → Except Failure Procedure) :
    List String → Nat
  | [] => 0
  | name :: names =>
    rollbacksFor settings (outcome name) +
      match outcome name with
      | .ok _ => rollbacksUpTo settings outcome names
      | .error _ => 0

/-- The names of the procedures that a run asks for. -/
def procedureNames (catalog : SnapshotCatalog) (settings : Settings) : List String :=
  if settings.useProcedures then catalog.procedures.keys else []

/-- The schema that a run reads, or the failure that ends it. -/
def schema (catalog : SnapshotCatalog) (settings : Settings) : Except Failure Schema :=
  ((catalog.procedureNames settings).mapM (catalog.readProcedure settings)).map fun procedures =>
    ⟨catalog.tablesRead settings .table, catalog.tablesRead settings .view, procedures⟩

/-- The catalog after a number of rollbacks. -/
def afterRollbacks (catalog : SnapshotCatalog) (rollbacks : Nat) : SnapshotCatalog :=
  { catalog with rollbacks := rollbacks }

/-- A sample changes nothing by which a procedure is chosen for sampling. -/
theorem rollbacksFor_sampled {catalog : SnapshotCatalog} {settings : Settings}
    {procedure : Procedure} (whole : procedure.loadError = none) :
    rollbacksFor settings (.ok (catalog.sampled settings procedure)) =
      if settings.samples procedure then 1 else 0 := by
  unfold sampled
  split <;> simp_all [rollbacksFor, Settings.samples]

/-- Only failures of single items are written down, so none of them is fatal. -/
theorem passing_of_procedure {catalog : SnapshotCatalog} {name : String} {failure : Failure}
    (unread : catalog.procedure name = .error failure) : failure.isFatal = false := by
  unfold SnapshotCatalog.procedure at unread
  split at unread
  · cases unread
    rfl
  · split at unread <;> cases unread
    rfl

end SnapshotCatalog

/-- A parameter that cannot be read ends the run. -/
theorem Parameter.fatal_of_ofInfo {info : ParameterInfo} {failure : Failure}
    (unread : ofInfo info = .error failure) : failure.isFatal = true := by
  unfold ofInfo at unread
  split at unread
  · cases unread
  · dsimp only at unread
    split at unread <;> cases unread
    rfl

/-- Parameters that cannot be used end the run. -/
theorem Parameter.fatal_of_ofInfos {infos : List ParameterInfo} {failure : Failure}
    (unread : ofInfos infos = .error failure) : failure.isFatal = true := by
  induction infos with
  | nil => cases unread
  | cons info infos ih =>
      rw [ofInfos] at unread
      cases first : ofInfo info with
      | error reason =>
          rw [first] at unread
          cases unread
          exact fatal_of_ofInfo first
      | ok parameter =>
          cases others : ofInfos infos with
          | error reason =>
              rw [first, others] at unread
              cases unread
              exact ih others
          | ok parameters =>
              rw [first, others] at unread
              cases unread

namespace Reading

variable {α β : Type} {catalog : SnapshotCatalog} {action : Reading SnapshotCatalog α}
  {outcome : Except Failure α} {rollbacks : Nat}

/-- Whatever was rolled back before, the action has the outcome on the catalog, and rolls back so
many transactions. -/
def Settles (catalog : SnapshotCatalog) (action : Reading SnapshotCatalog α)
    (outcome : Except Failure α) (rollbacks : Nat) : Prop :=
  ∀ before, action.runFrom (catalog.afterRollbacks before) =
    (outcome, catalog.afterRollbacks (before + rollbacks))

namespace Settles

/-- A value is settled without a rollback. -/
theorem pure (value : α) : Settles catalog (pure value) (.ok value) 0 := fun _ => rfl

/-- A failure is settled without a rollback. -/
theorem throw (failure : Failure) :
    Settles catalog (throw failure : Reading SnapshotCatalog α) (.error failure) 0 := fun _ => rfl

/-- Counting a rollback adds one. -/
theorem countRollback : Settles catalog SnapshotCatalog.countRollback (.ok ()) 1 := fun _ => rfl

/-- An attempt settles on the outcome of its action. -/
theorem attempt (settled : Settles catalog action outcome rollbacks) :
    Settles catalog action.attempt (.ok outcome) rollbacks := by
  intro before
  rw [runFrom_attempt, settled before]

/-- Adapting the failure of an action adapts the one it settles on. -/
theorem adapt (settled : Settles catalog action outcome rollbacks) (change : Failure → Failure) :
    Settles catalog (ExceptT.adapt change action) (outcome.mapError change) rollbacks := by
  intro before
  rw [runFrom_adapt, settled before]

/-- Actions in sequence settle on the last outcome and add their rollbacks. -/
theorem bind {value : α} {next : α → Reading SnapshotCatalog β} {result : Except Failure β}
    {more : Nat} (settled : Settles catalog action (.ok value) rollbacks)
    (followed : Settles catalog (next value) result more) :
    Settles catalog (action >>= next) result (rollbacks + more) := by
  intro before
  rw [runFrom_bind_ok (settled before), followed, Nat.add_assoc]

/-- After a failure nothing more is done. -/
theorem bind_error {failure : Failure} {next : α → Reading SnapshotCatalog β}
    (settled : Settles catalog action (.error failure) rollbacks) :
    Settles catalog (action >>= next) (.error failure) rollbacks :=
  fun before => runFrom_bind_error (settled before) next

/-- A question about what was written down is answered without a rollback. -/
theorem ask {question : SnapshotCatalog → Except Failure α}
    (same : ∀ before, question (catalog.afterRollbacks before) = question catalog) :
    Settles catalog (SnapshotCatalog.ask question) (question catalog) 0 :=
  fun before => Prod.ext (same before) rfl

/-- What follows a step without rollbacks accounts for all of them. -/
theorem quietBind {value : α} {next : α → Reading SnapshotCatalog β} {result : Except Failure β}
    (settled : Settles catalog action (.ok value) 0)
    (followed : Settles catalog (next value) result rollbacks) :
    Settles catalog (action >>= next) result rollbacks := by
  simpa using settled.bind followed

/-- A judgement on the value of an action is made on what it settles on. -/
theorem thenConclude (settled : Settles catalog action outcome rollbacks)
    (judge : α → Except Failure β) :
    Settles catalog (do let value ← action; Reading.conclude (judge value)) (outcome.bind judge)
      rollbacks := by
  intro before
  cases outcome with
  | error failure => exact runFrom_bind_error (settled before) _
  | ok value => exact runFrom_bind_ok (settled before) _

/-- A change of the value of an action changes what it settles on. -/
theorem map (settled : Settles catalog action outcome rollbacks) (change : α → β) :
    Settles catalog (do let value ← action; Pure.pure (change value)) (outcome.map change)
      rollbacks := by
  intro before
  cases outcome with
  | error failure => exact runFrom_bind_error (settled before) _
  | ok value => exact runFrom_bind_ok (settled before) _

end Settles

end Reading

namespace Introspection

variable (catalog : SnapshotCatalog)

/-- Loading the columns of an object settles on those of its entry. -/
theorem loadColumns_settles (name : String) (kind : TableKind) :
    Settles catalog (loadColumns SnapshotCatalog.reader name kind)
      (((SnapshotCatalog.object (catalog.entries kind) name).map (·.columns)).map fun infos =>
        (Table.ofColumns name kind (infos.map Column.ofInfo)).columns) 0 := by
  cases kind with
  | table => exact Settles.map (.ask fun _ => rfl) _
  | view => exact Settles.map (.ask fun _ => rfl) _

/-- A table or view is read as it was written down, or not found. -/
theorem loadTable_settles (name : String) (kind : TableKind) :
    Settles catalog (loadTable SnapshotCatalog.reader name kind)
      (match catalog.table? kind name with
        | some table => .ok table
        | none => .error (.catalogItem name "object not found in snapshot")) 0 := by
  have columns := loadColumns_settles catalog name kind
  unfold SnapshotCatalog.object at columns
  unfold loadTable SnapshotCatalog.table?
  cases found : (catalog.entries kind).get? name with
  | none =>
      rw [found] at columns
      exact columns.bind_error
  | some entry =>
      rw [found] at columns
      refine columns.quietBind ?_
      cases kind with
      | view => exact .pure _
      | table =>
          -- Only tables are asked for their keys, and by now the entry is known to be there.
          have keys : Settles catalog (SnapshotCatalog.reader.primaryKeys name)
              ((SnapshotCatalog.object catalog.tables name).map (·.primaryKey)) 0 :=
            .ask fun _ => rfl
          rw [SnapshotCatalog.object, show catalog.tables.get? name = some entry from found] at keys
          exact keys.map _

/-- What is not in the snapshot is left out. -/
theorem loadTables_settles (kind : TableKind) (names : List String) :
    Settles catalog (loadTables SnapshotCatalog.reader kind names)
      (.ok (names.filterMap (catalog.table? kind))) 0 := by
  induction names with
  | nil => exact .pure _
  | cons name names ih =>
      have first := (loadTable_settles catalog name kind).attempt
      unfold loadTables
      cases found : catalog.table? kind name with
      | none =>
          rw [found] at first
          rw [List.filterMap_cons_none found]
          exact first.quietBind ih
      | some table =>
          rw [found] at first
          rw [List.filterMap_cons_some found]
          exact first.quietBind (ih.map _)

/-- A sample is the answer to its batch, and costs one rollback. -/
theorem captureSample_settles (procedure batch : String) (seconds : Nat) :
    Settles catalog (captureSample SnapshotCatalog.reader procedure batch seconds)
      ((catalog.answer batch).mapError (asSampleFailure procedure)) 1 := by
  have executed : Settles catalog (SnapshotCatalog.reader.execute () batch seconds)
      (catalog.answer batch) 0 := .ask fun _ => rfl
  have rolledBack : Settles catalog (SnapshotCatalog.reader.rollBack ()) (.ok ()) 1 :=
    .countRollback
  unfold captureSample
  refine ((Settles.pure ()).adapt _).quietBind (((Settles.pure ()).adapt _).quietBind ?_)
  exact executed.attempt.quietBind (rolledBack.attempt.thenConclude fun _ => _)

/-- Loading a sample settles on what the batch is answered, with one rollback. -/
theorem loadSample_settles (procedure batch : String) (seconds : Nat) :
    Settles catalog (loadSample SnapshotCatalog.reader procedure batch seconds)
      (.ok (catalog.answer batch).toOption) 1 := by
  have captured := (captureSample_settles catalog procedure batch seconds).attempt.map
    Except.toOption
  cases answered : catalog.answer batch <;> rw [answered] at captured <;> exact captured

/-- Adding a sample settles on the sampled procedure, with a rollback only where one is taken. -/
theorem addSample_settles (settings : Settings) (procedure : Procedure) :
    Settles catalog (addSample SnapshotCatalog.reader settings procedure)
      (.ok (catalog.sampled settings procedure)) (if settings.samples procedure then 1 else 0) := by
  unfold addSample SnapshotCatalog.sampled Settings.samples
  split
  · exact (loadSample_settles catalog _ _ _).map _
  · exact .pure _

/-- A procedure that fails for itself is kept with its error. -/
theorem stopEarly_settles_passing {procedure : Procedure} {failure : Failure}
    (passing : failure.isFatal = false) :
    Settles catalog (stopEarly procedure failure)
      (.ok { procedure with loadError := some failure.message }) 0 := by
  unfold stopEarly
  rw [passing]
  exact .pure _

/-- A fatal failure of a procedure ends the run. -/
theorem stopEarly_settles_fatal {procedure : Procedure} {failure : Failure}
    (fatal : failure.isFatal = true) :
    Settles catalog (stopEarly procedure failure) (.error failure) 0 := by
  unfold stopEarly
  rw [if_pos fatal]
  exact .throw _

/-- A procedure is read as it was written down. -/
theorem loadProcedure_settles (settings : Settings) (name : String) :
    Settles catalog (loadProcedure SnapshotCatalog.reader settings name)
      (catalog.readProcedure settings name)
      (SnapshotCatalog.rollbacksFor settings (catalog.readProcedure settings name)) := by
  -- All reads look up one entry, so whether it is there is decided once for them.
  have parameters : Settles catalog (loadParameters SnapshotCatalog.reader name)
      (((catalog.procedure name).map (·.parameters)).bind Parameter.ofInfos) 0 :=
    Settles.thenConclude (.ask fun _ => rfl) _
  have definition : Settles catalog (SnapshotCatalog.reader.procedureDefinition name)
      ((catalog.procedure name).map (·.definition)) 0 := .ask fun _ => rfl
  unfold loadProcedure SnapshotCatalog.readProcedure
  cases found : catalog.procedure name with
  | error failure =>
      rw [found] at parameters
      have passing := SnapshotCatalog.passing_of_procedure found
      exact parameters.attempt.quietBind (stopEarly_settles_passing catalog passing)
  | ok entry =>
      rw [found] at parameters definition
      rw [show (Except.map (·.parameters) (.ok entry : Except Failure SnapshotProcedure)).bind
        Parameter.ofInfos = Parameter.ofInfos entry.parameters from rfl] at parameters
      dsimp only
      cases usable : Parameter.ofInfos entry.parameters with
      | error failure =>
          rw [usable] at parameters
          have fatal := Parameter.fatal_of_ofInfos usable
          exact parameters.attempt.quietBind (stopEarly_settles_fatal catalog fatal)
      | ok declared =>
          rw [usable] at parameters
          have sampled := addSample_settles catalog settings
            (SnapshotCatalog.declared settings name entry declared)
          rw [← SnapshotCatalog.rollbacksFor_sampled rfl] at sampled
          exact parameters.attempt.quietBind (definition.attempt.quietBind sampled)

/-- Procedures are read in order up to the first failure. -/
theorem loadProcedures_settles (settings : Settings) (names : List String) :
    Settles catalog (names.mapM (loadProcedure SnapshotCatalog.reader settings))
      (names.mapM (catalog.readProcedure settings))
      (SnapshotCatalog.rollbacksUpTo settings (catalog.readProcedure settings) names) := by
  induction names with
  | nil => exact .pure _
  | cons name names ih =>
      have first := loadProcedure_settles catalog settings name
      rw [List.mapM_cons, List.mapM_cons, SnapshotCatalog.rollbacksUpTo]
      cases read : catalog.readProcedure settings name with
      | error failure =>
          rw [read] at first
          exact first.bind_error
      | ok procedure =>
          rw [read] at first
          have rest := ih.map (procedure :: ·)
          cases others : names.mapM (catalog.readProcedure settings) <;> rw [others] at rest <;>
            exact first.bind rest

/-- A run reads the schema that the snapshot describes. -/
theorem introspect_settles (settings : Settings) :
    Settles catalog (introspect SnapshotCatalog.reader settings) (catalog.schema settings)
      (SnapshotCatalog.rollbacksUpTo settings (catalog.readProcedure settings)
        (catalog.procedureNames settings)) := by
  have tableNames : Settles catalog (requestedTables SnapshotCatalog.reader settings)
      (.ok (catalog.tableNames settings .table)) 0 := by
    unfold requestedTables SnapshotCatalog.tableNames
    cases settings.tableFilter.include? with
    | some selected => exact .pure _
    | none => exact .ask fun _ => rfl
  have viewNames : Settles catalog SnapshotCatalog.reader.listViews
      (.ok (catalog.tableNames settings .view)) 0 := .ask fun _ => rfl
  have procedureNames : Settles catalog (requestedProcedures SnapshotCatalog.reader settings)
      (.ok (catalog.procedureNames settings)) 0 := by
    unfold requestedProcedures SnapshotCatalog.procedureNames
    cases settings.useProcedures with
    | true => exact .ask fun _ => rfl
    | false => exact .pure _
  rw [introspect_eq]
  exact (tableNames.quietBind (loadTables_settles catalog .table _)).quietBind
    ((viewNames.quietBind (loadTables_settles catalog .view _)).quietBind
      ((procedureNames.quietBind (loadProcedures_settles catalog settings _)).map _))

/-- The schema of a snapshot, read from a catalog that was not used before. -/
theorem introspect_ofSnapshot (settings : Settings) (snapshot : Snapshot) :
    (introspect SnapshotCatalog.reader settings).runFrom (.ofSnapshot snapshot) =
      ((SnapshotCatalog.ofSnapshot snapshot).schema settings,
        (SnapshotCatalog.ofSnapshot snapshot).afterRollbacks
          (SnapshotCatalog.rollbacksUpTo settings
            ((SnapshotCatalog.ofSnapshot snapshot).readProcedure settings)
            ((SnapshotCatalog.ofSnapshot snapshot).procedureNames settings))) :=
  (introspect_settles (.ofSnapshot snapshot) settings 0).trans (by rw [Nat.zero_add])

end Introspection

/-- Reads a snapshot with the settings of the generator and generates code for the schema. The
outcome is the text or the first failure; the number is that of the rollbacks on the way. -/
def Generator.outputFor (generator : Generator) (snapshot : Snapshot) :
    Except Failure String × Nat :=
  let (schema, catalog) :=
    (introspect SnapshotCatalog.reader generator.settings).runFrom (.ofSnapshot snapshot)
  (schema.bind generator.generate, catalog.rollbacks)

/-- What is read of the procedures depends on nothing else in the snapshot. -/
theorem SnapshotCatalog.readProcedure_congr {snapshot other : Snapshot}
    (procedures : snapshot.procedures = other.procedures) (settings : Settings) :
    (ofSnapshot snapshot).readProcedure settings = (ofSnapshot other).readProcedure settings := by
  funext name
  simp only [readProcedure, procedure, sampled, answer, ofSnapshot, procedures]

/-- Snapshots with the same procedures give the same output when the same classes are declared for
the tables and views that are read of them. -/
theorem Generator.outputFor_congr {generator : Generator} {snapshot other : Snapshot}
    (procedures : snapshot.procedures = other.procedures)
    (entities : ∀ kind,
      generator.entitiesOf ((SnapshotCatalog.ofSnapshot snapshot).tablesRead generator.settings
        kind) =
      generator.entitiesOf ((SnapshotCatalog.ofSnapshot other).tablesRead generator.settings
        kind)) :
    generator.outputFor snapshot = generator.outputFor other := by
  have names : (SnapshotCatalog.ofSnapshot snapshot).procedureNames generator.settings =
      (SnapshotCatalog.ofSnapshot other).procedureNames generator.settings := by
    simp only [SnapshotCatalog.procedureNames, SnapshotCatalog.ofSnapshot, procedures]
  have read := SnapshotCatalog.readProcedure_congr procedures generator.settings
  unfold outputFor
  rw [introspect_ofSnapshot, introspect_ofSnapshot, names, read]
  refine Prod.ext ?_ rfl
  simp only [SnapshotCatalog.schema, names, read]
  cases ((SnapshotCatalog.ofSnapshot other).procedureNames generator.settings).mapM
      ((SnapshotCatalog.ofSnapshot other).readProcedure generator.settings) with
  | error failure => rfl
  | ok found =>
      simp only [Except.map, Except.bind, generate, entities]

end DataLayer
