import DataLayer.Proofs.Introspection.Transcript

/-!
# Introspection is best effort

A run ends early with the first listing that fails or the first fatal failure of another call, and
with nothing else. A run that comes to its end has kept every table and view it could read and
every procedure, with as much of each procedure as could be read.
-/

namespace DataLayer

open Introspection Reading

variable {σ ω : Type} {settings : Settings}

/-- The failure with which a call ends the run. A failed listing always does, a failed call for one
object only when it is fatal, and a failed sample never. -/
def CatalogEvent.endsRun? : CatalogEvent ω → Option Failure
  | tablesListed answer | viewsListed answer | proceduresListed answer => failure? answer
  | tableColumnsRead _ answer | viewColumnsRead _ answer => fatalFailure? answer
  | primaryKeysRead _ answer => fatalFailure? answer
  | parametersRead _ answer => fatalFailure? (answer.bind Parameter.ofInfos)
  | definitionRead _ answer => fatalFailure? answer
  | sessionOpened _ | transactionBegun .. | batchExecuted .. | transactionRolledBack .. => none

@[simp] theorem fatalFailure?_ok {α : Type} (value : α) :
    fatalFailure? (.ok value : Except Failure α) = none := rfl

@[simp] theorem fatalFailure?_error {α : Type} (failure : Failure) :
    fatalFailure? (.error failure : Except Failure α) =
      if failure.isFatal then some failure else none := rfl

@[simp] theorem fatalFailure?_map {α β : Type} (change : α → β) (outcome : Except Failure α) :
    fatalFailure? (outcome.map change) = fatalFailure? outcome := by
  cases outcome <;> rfl

private theorem findSome?_cons_or {α β : Type} (f : α → Option β) (first : α) (others : List α) :
    (first :: others).findSome? f = (f first).or (others.findSome? f) := by
  rw [List.findSome?_cons]
  cases f first <;> rfl

/-- The visit of a table fails the run exactly when one of its calls ends the run. -/
theorem TableVisit.findSome?_events (kind : TableKind) (visit : TableVisit) :
    (visit.events kind : List (CatalogEvent ω)).findSome? CatalogEvent.endsRun? =
      fatalFailure? (visit.outcome kind) := by
  obtain ⟨name, columns, keys⟩ := visit
  cases kind with
  | view => cases columns <;> simp [events, outcome, findSome?_cons_or, CatalogEvent.endsRun?]
  | table => cases columns <;> simp [events, outcome, findSome?_cons_or, CatalogEvent.endsRun?]

/-- No call of a sample ever ends a run. -/
theorem SampleVisit.findSome?_eventsFor (procedure : Procedure) (visit : SampleVisit ω) :
    (visit.eventsFor settings procedure).findSome? CatalogEvent.endsRun? = none := by
  unfold SampleVisit.eventsFor
  split
  · cases visit <;> rfl
  · rfl

@[simp] theorem Procedure.fatalFailure?_stoppedBy (procedure : Procedure) (failure : Failure) :
    fatalFailure? (procedure.stoppedBy failure) =
      if failure.isFatal then some failure else none := by
  unfold Procedure.stoppedBy
  split <;> simp [*]

/-- The visit of a procedure fails the run exactly when one of its calls ends the run, and samples
do not count. -/
theorem ProcedureVisit.findSome?_events (visit : ProcedureVisit ω) :
    (visit.events settings).findSome? CatalogEvent.endsRun? =
      fatalFailure? (visit.outcome settings) := by
  have asked : (.parametersRead visit.name visit.parameters : CatalogEvent ω).endsRun? =
      fatalFailure? visit.usableParameters := rfl
  cases usable : visit.usableParameters with
  | error failure =>
      obtain ⟨written, come⟩ := course_unusable settings usable
      simp [written, come, findSome?_cons_or, asked, usable]
  | ok parameters =>
      cases defined : visit.definition with
      | error failure =>
          obtain ⟨written, come⟩ := course_undefined settings usable defined
          rw [written, come, findSome?_cons_or, asked, usable]
          simp [CatalogEvent.endsRun?]
      | ok definition =>
          obtain ⟨written, come⟩ := course_whole settings usable defined
          rw [written, come, findSome?_cons_or, findSome?_cons_or, asked, usable,
            SampleVisit.findSome?_eventsFor]
          rfl

/-- If every visit ends the run exactly with its own fatal failure, a row of visits ends it with
the first of these. -/
theorem findSome?_flatMap {V α : Type} {events : V → List (CatalogEvent ω)}
    {outcome : V → Except Failure α}
    (each : ∀ visit, (events visit).findSome? CatalogEvent.endsRun? =
      fatalFailure? (outcome visit)) (visits : List V) :
    (visits.flatMap events).findSome? CatalogEvent.endsRun? =
      visits.findSome? fun visit => fatalFailure? (outcome visit) := by
  induction visits with
  | nil => rfl
  | cons visit visits ih =>
      rw [List.flatMap_cons, List.findSome?_append, each, ih, findSome?_cons_or]

/-- The table that a visit loads has the name it was visited under. -/
theorem TableVisit.name_of_outcome {kind : TableKind} {visit : TableVisit} {table : Table}
    (read : visit.outcome kind = .ok table) : table.name = visit.name := by
  obtain ⟨name, columns | infos, keys⟩ := visit
  · cases kind <;> cases read
  · cases kind with
    | view => cases read; rfl
    | table =>
        cases keys with
        | error failure => cases read
        | ok keys => cases read; rfl

/-- What a kept procedure shows of its visit: nothing that was to be read after a failure, and the
text of that failure. -/
structure ProcedureVisit.Shown (settings : Settings) (visit : ProcedureVisit ω)
    (procedure : Procedure) : Prop where
  named : procedure.name = visit.name
  unusable : ∀ failure, visit.usableParameters = .error failure →
    failure.isFatal = false ∧ procedure.parameters = [] ∧ procedure.definition = none ∧
      procedure.sample = none ∧ procedure.loadError = some failure.message
  undefined : ∀ parameters failure, visit.usableParameters = .ok parameters →
    visit.definition = .error failure →
    failure.isFatal = false ∧ procedure.parameters = parameters ∧ procedure.definition = none ∧
      procedure.sample = none ∧ procedure.loadError = some failure.message
  whole : ∀ parameters definition, visit.usableParameters = .ok parameters →
    visit.definition = .ok definition →
    procedure.parameters = parameters ∧ procedure.definition = definition ∧
      procedure.loadError = none

/-- A procedure is kept half loaded only when the failure concerns it alone, and it says which
failure it was. -/
theorem Procedure.of_stoppedBy {procedure kept : Procedure} {failure : Failure}
    (stopped : procedure.stoppedBy failure = .ok kept) :
    failure.isFatal = false ∧ kept = { procedure with loadError := some failure.message } := by
  unfold Procedure.stoppedBy at stopped
  split at stopped
  · cases stopped
  · rename_i passing
    cases stopped
    exact ⟨by simpa using passing, rfl⟩

/-- The procedure that a visit comes to is what its answers show. -/
theorem ProcedureVisit.shown_of_outcome {visit : ProcedureVisit ω} {procedure : Procedure}
    (read : visit.outcome settings = .ok procedure) : visit.Shown settings procedure := by
  cases usable : visit.usableParameters with
  | error failure =>
      rw [(course_unusable settings usable).2] at read
      obtain ⟨passing, rfl⟩ := Procedure.of_stoppedBy read
      refine ⟨rfl, ?_, ?_, ?_⟩ <;> intros <;> simp_all [bare]
  | ok parameters =>
      cases defined : visit.definition with
      | error failure =>
          rw [(course_undefined settings usable defined).2] at read
          obtain ⟨passing, rfl⟩ := Procedure.of_stoppedBy read
          refine ⟨rfl, ?_, ?_, ?_⟩ <;> intros <;> simp_all [bare]
      | ok definition =>
          rw [(course_whole settings usable defined).2] at read
          cases read
          unfold SampleVisit.addTo
          refine ⟨?_, ?_, ?_, ?_⟩ <;> split <;> intros <;> simp_all [bare]

/-- What a run that comes to its end has kept of its visits. The tables and views are those
visited, without those that were passed over; the procedures are all those visited. -/
structure Kept (settings : Settings) (tableVisits viewVisits : List TableVisit)
    (procedureVisits : List (ProcedureVisit ω)) (schema : Schema)
    (events : List (CatalogEvent ω)) : Prop where
  /-- Tables are listed unless some are selected, procedures only when they are used. -/
  written : events =
    ((if settings.selectedTables = [] then [.tablesListed (.ok (tableVisits.map (·.name)))]
      else []) ++ tableVisits.flatMap (TableVisit.events .table)) ++
    ((.viewsListed (.ok (viewVisits.map (·.name))) ::
      viewVisits.flatMap (TableVisit.events .view)) ++
    ((if settings.useProcedures then
      [.proceduresListed (.ok (procedureVisits.map (·.name)))] else []) ++
      procedureVisits.flatMap (ProcedureVisit.events settings)))
  selected : settings.selectedTables ≠ [] → tableVisits.map (·.name) = settings.selectedTables
  unused : settings.useProcedures = false → procedureVisits = []
  tables : (tableVisits.filter fun visit => !passesOver (visit.outcome .table)).map
    (TableVisit.outcome .table) = schema.tables.map .ok
  tableNames : schema.tables.map (·.name) =
    (tableVisits.filter fun visit => !passesOver (visit.outcome .table)).map (·.name)
  views : (viewVisits.filter fun visit => !passesOver (visit.outcome .view)).map
    (TableVisit.outcome .view) = schema.views.map .ok
  viewNames : schema.views.map (·.name) =
    (viewVisits.filter fun visit => !passesOver (visit.outcome .view)).map (·.name)
  procedures : procedureVisits.map (ProcedureVisit.outcome settings) = schema.procedures.map .ok
  procedureNames : schema.procedures.map (·.name) = procedureVisits.map (·.name)
  shown : ∀ visit procedure, (visit, procedure) ∈ procedureVisits.zip schema.procedures →
    visit.Shown settings procedure

/-- A phase fails exactly with the first call that ends the run. -/
theorem Phase.failure?_eq {V α : Type} {given? : Option (List String)}
    {listed : Except Failure (List String) → CatalogEvent ω} {name : V → String}
    {outcome : V → Except Failure α} {events : V → List (CatalogEvent ω)} {visits : List V}
    {result : Except Failure (List α)} {written : List (CatalogEvent ω)}
    (phase : Phase given? listed name outcome events visits result written)
    (listing : ∀ answer, (listed answer).endsRun? = failure? answer)
    (visiting : ∀ visit, (events visit).findSome? CatalogEvent.endsRun? =
      fatalFailure? (outcome visit)) :
    written.findSome? CatalogEvent.endsRun? = failure? result := by
  have requesting {answer requested} (request : Requested given? listed answer requested) :
      requested.findSome? CatalogEvent.endsRun? = failure? answer := by
    cases given? with
    | some names => rw [request.1, request.2]; rfl
    | none => rw [show requested = _ from request]; simp [listing]
  cases phase with
  | unlisted refused => exact requesting refused
  | toured answered tour =>
      rw [List.findSome?_append, requesting answered, findSome?_flatMap visiting,
        tour.failure?_eq]
      rfl

namespace Introspection

variable {tableVisits viewVisits : List TableVisit} {procedureVisits : List (ProcedureVisit ω)}

/-- The phase of the tables of a kind fails exactly with the first call that ends the run. -/
theorem Phase.failure?_tables {kind : TableKind} {given? : Option (List String)}
    {listed : Except Failure (List String) → CatalogEvent ω} {visits : List TableVisit}
    {result : Except Failure (List Table)} {events : List (CatalogEvent ω)}
    (phase : Phase given? listed TableVisit.name (TableVisit.outcome kind) (TableVisit.events kind)
      visits result events)
    (listing : ∀ answer, (listed answer).endsRun? = failure? answer) :
    events.findSome? CatalogEvent.endsRun? = failure? result :=
  phase.failure?_eq listing (TableVisit.findSome?_events kind)

/-- And so does the phase of procedures. -/
theorem ProcedurePhase.failure?_eq {result : Except Failure (List Procedure)}
    {events : List (CatalogEvent ω)}
    (phase : ProcedurePhase settings procedureVisits result events) :
    events.findSome? CatalogEvent.endsRun? = failure? result :=
  Phase.failure?_eq phase (fun _ => rfl) ProcedureVisit.findSome?_events

/-- A run fails exactly with the first call that ends it. -/
theorem Run.failure?_eq {result : Except Failure Schema} {events : List (CatalogEvent ω)}
    (run : Run settings tableVisits viewVisits procedureVisits result events) :
    events.findSome? CatalogEvent.endsRun? = failure? result := by
  cases run with
  | noTables tablePhase =>
      rw [Phase.failure?_tables tablePhase fun _ => rfl]
      rfl
  | noViews tablePhase viewPhase =>
      rw [List.findSome?_append, Phase.failure?_tables tablePhase fun _ => rfl,
        Phase.failure?_tables viewPhase fun _ => rfl]
      rfl
  | noProcedures tablePhase viewPhase procedurePhase
  | complete tablePhase viewPhase procedurePhase =>
      rw [List.findSome?_append, List.findSome?_append,
        Phase.failure?_tables tablePhase fun _ => rfl,
        Phase.failure?_tables viewPhase fun _ => rfl, procedurePhase.failure?_eq]
      rfl

/-- A run that comes to its end has kept all it has visited, apart from what was passed over. -/
theorem Run.kept {schema : Schema} {events : List (CatalogEvent ω)}
    (run : Run settings tableVisits viewVisits procedureVisits (.ok schema) events) :
    Kept settings tableVisits viewVisits procedureVisits schema events := by
  have procedures := run.procedures_eq
  cases run with
  | complete tablePhase viewPhase procedurePhase =>
      obtain ⟨tablesWritten, selected⟩ := tablePhase.written
      obtain ⟨viewsWritten, -⟩ := viewPhase.written
      obtain ⟨proceduresWritten, given⟩ := procedurePhase.written
      have named (visit : ProcedureVisit ω) (procedure : Procedure)
          (read : visit.outcome settings = .ok procedure) : procedure.name = visit.name :=
        (ProcedureVisit.shown_of_outcome read).named
      -- What is asked for comes first, then what the visits of each phase have kept.
      refine ⟨?_, ?_, ?_, tablePhase.kept,
        map_eq_of_outcomes (fun _ _ => TableVisit.name_of_outcome) tablePhase.kept, viewPhase.kept,
        map_eq_of_outcomes (fun _ _ => TableVisit.name_of_outcome) viewPhase.kept, procedures,
        map_eq_of_outcomes named procedures, fun visit procedure paired =>
          ProcedureVisit.shown_of_outcome (outcome_of_mem_zip procedures paired)⟩
      · rw [tablesWritten, viewsWritten, proceduresWritten]
        simp [Settings.tableFilter, Settings.givenProcedures?]
      · intro some
        refine selected _ ?_
        simp [Settings.tableFilter, some]
      · intro unused
        refine List.map_eq_nil_iff.mp (given [] ?_)
        simp [Settings.givenProcedures?, unused]

/-- Every run fails exactly with the first of its calls that ends it, in the order tables, views,
procedures. A run without such a call keeps all it has visited but the tables and views whose
columns or keys could not be read. -/
theorem introspect_bestEffort (reader : CatalogReader σ ω) (settings : Settings) :
    RecordedAs (introspect reader settings) (introspect reader.recorded settings)
      fun outcome events => ∃ tableVisits viewVisits procedureVisits,
        Run settings tableVisits viewVisits procedureVisits outcome events ∧
        InOrder events ∧
        (∀ failure, outcome = .error failure ↔
          events.findSome? CatalogEvent.endsRun? = some failure) ∧
        ∀ schema, outcome = .ok schema →
          Kept settings tableVisits viewVisits procedureVisits schema events := by
  refine (introspect_recordedAs reader settings).weaken ?_
  rintro outcome events ⟨tableVisits, viewVisits, procedureVisits, run⟩
  refine ⟨tableVisits, viewVisits, procedureVisits, run, run.inOrder, fun failure => ?_, ?_⟩
  · rw [run.failure?_eq, failure?_eq_some_iff]
  · rintro schema rfl
    exact run.kept

end Introspection

end DataLayer
