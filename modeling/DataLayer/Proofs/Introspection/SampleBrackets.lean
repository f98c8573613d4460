import DataLayer.Proofs.Introspection.Transcript

/-!
# Samples are bracketed by a rolled-back transaction

`Bracketed` reads a record of calls from the front and accepts session calls only as the whole row
that one sample makes. Every run of introspection leaves such a record, also one that fails, so an
execution never stands outside a transaction and every transaction is rolled back before anything
else happens.
-/

namespace DataLayer

open Introspection Reading

variable {σ ω : Type}

namespace CatalogEvent

/-- The calls that concern a session. -/
def isSessionCall : CatalogEvent ω → Bool
  | sessionOpened _ | transactionBegun .. | batchExecuted .. | transactionRolledBack .. => true
  | _ => false

/-- The transactions that were really begun. -/
def isBegun : CatalogEvent ω → Bool
  | transactionBegun _ (.ok _) => true
  | _ => false

/-- The executions of a batch, whatever they answer. -/
def isExecution : CatalogEvent ω → Bool
  | batchExecuted .. => true
  | _ => false

/-- The attempts to roll back, whatever they answer. -/
def isRollback : CatalogEvent ω → Bool
  | transactionRolledBack .. => true
  | _ => false

end CatalogEvent

/-- Records in which the session calls are rows of one sample each: a session that could not be
opened, a session without a transaction, or a transaction with one execution and one rollback, all
in the session just opened. -/
inductive Bracketed : List (CatalogEvent ω) → Prop where
  | nil : Bracketed []
  | other {event events} (quiet : event.isSessionCall = false) (rest : Bracketed events) :
      Bracketed (event :: events)
  | unopened {failure events} (rest : Bracketed events) :
      Bracketed (.sessionOpened (.error failure) :: events)
  | unbegun {session failure events} (rest : Bracketed events) :
      Bracketed (.sessionOpened (.ok session) :: .transactionBegun session (.error failure) ::
        events)
  | executed {session batch seconds answer rolledBack events} (rest : Bracketed events) :
      Bracketed (.sessionOpened (.ok session) :: .transactionBegun session (.ok ()) ::
        .batchExecuted session batch seconds answer ::
        .transactionRolledBack session rolledBack :: events)

namespace Bracketed

variable {events : List (CatalogEvent ω)}

/-- Rows of samples may follow each other. -/
theorem append {others : List (CatalogEvent ω)} (first : Bracketed events)
    (second : Bracketed others) : Bracketed (events ++ others) := by
  induction first with
  | nil => exact second
  | other quiet _ ih => exact .other quiet ih
  | unopened _ ih => exact .unopened ih
  | unbegun _ ih => exact .unbegun ih
  | executed _ ih => exact .executed ih

/-- Visits that are rows of samples each are such rows together. -/
theorem flatMap {V : Type} {visits : List V} {written : V → List (CatalogEvent ω)}
    (each : ∀ visit, Bracketed (written visit)) : Bracketed (visits.flatMap written) := by
  induction visits with
  | nil => exact .nil
  | cons visit visits ih =>
      rw [List.flatMap_cons]
      exact (each visit).append ih

/-- Calls outside of sessions may stand anywhere between the samples. -/
theorem of_quiet (quiet : ∀ event ∈ events, event.isSessionCall = false) : Bracketed events := by
  induction events with
  | nil => exact .nil
  | cons event events ih =>
      obtain ⟨first, others⟩ := List.forall_mem_cons.mp quiet
      exact .other first (ih others)

/-- A call outside the sessions is none of those that are counted. -/
private theorem uncounted {event : CatalogEvent ω} (quiet : event.isSessionCall = false) :
    event.isBegun = false ∧ event.isExecution = false ∧ event.isRollback = false := by
  cases event <;> first | exact ⟨rfl, rfl, rfl⟩ | cases quiet

/-- There are as many executions, and as many attempts to roll back, as transactions that were
begun. -/
theorem counts_eq (bracketed : Bracketed events) :
    events.countP CatalogEvent.isExecution = events.countP CatalogEvent.isBegun ∧
      events.countP CatalogEvent.isRollback = events.countP CatalogEvent.isBegun := by
  induction bracketed with
  | nil => exact ⟨rfl, rfl⟩
  | other quiet _ ih =>
      obtain ⟨noBegin, noExecution, noRollback⟩ := uncounted quiet
      simpa [List.countP_cons, noBegin, noExecution, noRollback] using ih
  | unopened _ ih | unbegun _ ih | executed _ ih =>
      simpa [List.countP_cons, CatalogEvent.isExecution, CatalogEvent.isRollback,
        CatalogEvent.isBegun] using ih

end Bracketed

/-- A sample is one row: it opens a session, begins a transaction, executes and rolls back, as far
as it comes. -/
theorem SampleVisit.bracketed_events (visit : SampleVisit ω) (batch : String) (seconds : Nat) :
    Bracketed (visit.events batch seconds) := by
  cases visit with
  | unopened failure => exact .unopened .nil
  | unbegun session failure => exact .unbegun .nil
  | executed session answer rolledBack => exact .executed .nil

/-- The visit of a table makes no session call. -/
theorem TableVisit.quiet_events (kind : TableKind) (visit : TableVisit) :
    ∀ event ∈ (visit.events kind : List (CatalogEvent ω)), event.isSessionCall = false := by
  rcases visit with ⟨name, _ | _, keys⟩ <;> cases kind <;>
    simp [TableVisit.events, CatalogEvent.isSessionCall]

/-- The description of a procedure is read outside of sessions. -/
theorem ProcedureVisit.quiet_metadataEvents (visit : ProcedureVisit ω) :
    ∀ event ∈ visit.metadataEvents, event.isSessionCall = false := by
  unfold ProcedureVisit.metadataEvents
  split <;> simp [CatalogEvent.isSessionCall]

/-- The visit of a procedure has one sample at most, after the description. -/
theorem ProcedureVisit.bracketed_events (settings : Settings) (visit : ProcedureVisit ω) :
    Bracketed (visit.events settings) := by
  refine (Bracketed.of_quiet visit.quiet_metadataEvents).append ?_
  unfold ProcedureVisit.sampleEvents
  split
  · exact .nil
  · unfold SampleVisit.eventsFor
    split
    · exact SampleVisit.bracketed_events _ _ _
    · exact .nil

namespace Introspection

variable {settings : Settings} {tableVisits viewVisits : List TableVisit}
  {procedureVisits : List (ProcedureVisit ω)}

/-- The phase of the tables of a kind makes no session call. -/
theorem Phase.quiet {kind : TableKind} {given? : Option (List String)}
    {listed : Except Failure (List String) → CatalogEvent ω} {visits : List TableVisit}
    {result : Except Failure (List Table)} {events : List (CatalogEvent ω)}
    (phase : Phase given? listed TableVisit.name (TableVisit.outcome kind) (TableVisit.events kind)
      visits result events)
    (listing : ∀ answer, (listed answer).isSessionCall = false) :
    ∀ event ∈ events, event.isSessionCall = false :=
  phase.forall_events listing (TableVisit.quiet_events kind)

/-- Before the first procedure is visited, no session call is made. -/
theorem ProcedurePhase.quiet_before {result : Except Failure (List Procedure)}
    {events : List (CatalogEvent ω)}
    (phase : ProcedurePhase settings procedureVisits result events) :
    ∃ metadata, (∀ event ∈ metadata, event.isSessionCall = false) ∧
      events = metadata ++ procedureVisits.flatMap (ProcedureVisit.events settings) := by
  cases phase with
  | unlisted refused =>
      exact ⟨events, refused.forall_events fun _ => rfl, (List.append_nil _).symm⟩
  | toured answered tour => exact ⟨_, answered.forall_events fun _ => rfl, rfl⟩

/-- The session calls of a run are those of its procedure visits. -/
theorem Run.quiet_before {result : Except Failure Schema} {events : List (CatalogEvent ω)}
    (run : Run settings tableVisits viewVisits procedureVisits result events) :
    ∃ metadata, (∀ event ∈ metadata, event.isSessionCall = false) ∧
      events = metadata ++ procedureVisits.flatMap (ProcedureVisit.events settings) := by
  cases run with
  | noTables tablePhase =>
      exact ⟨events, Phase.quiet tablePhase fun _ => rfl, (List.append_nil _).symm⟩
  | noViews tablePhase viewPhase =>
      refine ⟨_, ?_, (List.append_nil _).symm⟩
      simp only [List.forall_mem_append]
      exact ⟨Phase.quiet tablePhase fun _ => rfl, Phase.quiet viewPhase fun _ => rfl⟩
  | noProcedures tablePhase viewPhase procedurePhase
  | complete tablePhase viewPhase procedurePhase =>
      obtain ⟨requested, quiet, rfl⟩ := procedurePhase.quiet_before
      rw [← List.append_assoc, ← List.append_assoc]
      refine ⟨_, ?_, rfl⟩
      simp only [List.forall_mem_append]
      exact ⟨⟨Phase.quiet tablePhase fun _ => rfl, Phase.quiet viewPhase fun _ => rfl⟩, quiet⟩

/-- How a transaction is rolled back has no effect on the outcome of a sample. -/
theorem captureSample_rollBack (reader : CatalogReader σ ω) (rollBack : ω → Reading σ Unit)
    (procedure batch : String) (seconds : Nat) (state : σ) :
    ((captureSample { reader with rollBack := rollBack } procedure batch seconds).runFrom
        state).1 =
      ((captureSample reader procedure batch seconds).runFrom state).1 := by
  unfold captureSample
  dsimp only
  rcases opened : runFrom (reader.openSession.adapt (asSampleFailure procedure)) state with
    ⟨_ | session, inSession⟩
  · rw [runFrom_bind_error opened, runFrom_bind_error opened]
  rw [runFrom_bind_ok opened, runFrom_bind_ok opened]
  rcases begun : runFrom
      ((reader.beginTransaction session).adapt (asSampleFailure procedure)) inSession with
    ⟨_ | _, inTransaction⟩
  · rw [runFrom_bind_error begun, runFrom_bind_error begun]
  rw [runFrom_bind_ok begun, runFrom_bind_ok begun]
  have executed := runFrom_attempt (reader.execute session batch seconds) inTransaction
  rw [runFrom_bind_ok executed, runFrom_bind_ok executed, runFrom_bind_ok (runFrom_attempt _ _),
    runFrom_bind_ok (runFrom_attempt _ _), runFrom_conclude, runFrom_conclude]

/-- In every run the session calls are rows of one sample each, made in the visits of the
procedures, so executions, attempts to roll back and begun transactions are equal in number. The
outcome of a single sample is that of its execution, whatever the rollback answers. -/
theorem introspect_bracketed (reader : CatalogReader σ ω) (settings : Settings) :
    (RecordedAs (introspect reader settings) (introspect reader.recorded settings)
      fun outcome events => ∃ (metadata : List (CatalogEvent ω)) (visits : List (ProcedureVisit ω)),
        events = metadata ++ visits.flatMap (ProcedureVisit.events settings) ∧
        (∀ event ∈ metadata, event.isSessionCall = false) ∧
        (∀ visit ∈ visits, ∀ event ∈ visit.metadataEvents, event.isSessionCall = false) ∧
        Bracketed events ∧
        events.countP CatalogEvent.isExecution = events.countP CatalogEvent.isBegun ∧
        events.countP CatalogEvent.isRollback = events.countP CatalogEvent.isBegun ∧
        ∀ schema, outcome = .ok schema →
          visits.map (ProcedureVisit.outcome settings) = schema.procedures.map .ok) ∧
    ∀ procedure batch seconds,
      (RecordedAs (captureSample reader procedure batch seconds)
        (captureSample reader.recorded procedure batch seconds)
        fun outcome events => ∃ visit : SampleVisit ω,
          outcome = visit.answer.mapError (asSampleFailure procedure) ∧
          events = visit.events batch seconds) ∧
      ∀ (rollBack : ω → Reading σ Unit) (state : σ),
        ((captureSample { reader with rollBack := rollBack } procedure batch seconds).runFrom
            state).1 =
          ((captureSample reader procedure batch seconds).runFrom state).1 := by
  refine ⟨(introspect_recordedAs reader settings).weaken ?_, fun procedure batch seconds =>
    ⟨captureSample_recordedAs reader procedure batch seconds, fun rollBack state =>
      captureSample_rollBack reader rollBack procedure batch seconds state⟩⟩
  rintro outcome _ ⟨tableVisits, viewVisits, visits, run⟩
  obtain ⟨metadata, quiet, rfl⟩ := run.quiet_before
  have bracketed : Bracketed (metadata ++ visits.flatMap (ProcedureVisit.events settings)) :=
    (Bracketed.of_quiet quiet).append
      (Bracketed.flatMap (ProcedureVisit.bracketed_events settings))
  refine ⟨metadata, visits, rfl, quiet, fun visit _ => visit.quiet_metadataEvents, bracketed,
    bracketed.counts_eq.1, bracketed.counts_eq.2, ?_⟩
  rintro schema rfl
  exact run.procedures_eq

end Introspection

end DataLayer
