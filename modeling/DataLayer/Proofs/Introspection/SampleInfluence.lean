import DataLayer.Proofs.Introspection.Agreement
import DataLayer.Proofs.Introspection.BestEffort
import DataLayer.Proofs.Introspection.SampleBrackets
import DataLayer.Proofs.Snapshot.Answers

/-!
# What samples have influence on

Two readers that answer all other calls alike may do anything in the calls that concern sessions.
Introspection still comes to the same failure on both, or to schemas that differ only in the samples
of procedures that return data. A failure on the way to a sample shows nowhere else: it is told as a
failed sample, and the procedure is kept without one.
-/

namespace DataLayer

open Introspection Reading

/-- The calls of a reader that concern sessions leave a property of its state as it was. -/
structure CatalogReader.SessionsKeep {σ ω : Type} (reader : CatalogReader σ ω)
    (property : σ → Prop) : Prop where
  opened : Keeps property reader.openSession
  begun : ∀ session, Keeps property (reader.beginTransaction session)
  executed : ∀ session batch seconds, Keeps property (reader.execute session batch seconds)
  rolledBack : ∀ session, Keeps property (reader.rollBack session)

/-- From alike states two readers answer every call alike that concerns no session. The calls that
concern sessions may answer anything, even in sessions of another kind, as long as the states stay
alike. -/
structure CatalogReader.AgreesBesideSamples {σ ω τ ψ : Type} (first : CatalogReader σ ω)
    (second : CatalogReader τ ψ) (alike : σ → τ → Prop) : Prop where
  tablesListed : Corresponds alike Eq first.listTables second.listTables
  viewsListed : Corresponds alike Eq first.listViews second.listViews
  proceduresListed : Corresponds alike Eq first.listProcedures second.listProcedures
  tableColumns : ∀ name, Corresponds alike Eq (first.tableColumns name) (second.tableColumns name)
  viewColumns : ∀ name, Corresponds alike Eq (first.viewColumns name) (second.viewColumns name)
  primaryKeys : ∀ name, Corresponds alike Eq (first.primaryKeys name) (second.primaryKeys name)
  parameters : ∀ name,
    Corresponds alike Eq (first.procedureParameters name) (second.procedureParameters name)
  definition : ∀ name,
    Corresponds alike Eq (first.procedureDefinition name) (second.procedureDefinition name)
  firstSessions : ∀ state, first.SessionsKeep fun own => alike own state
  secondSessions : ∀ state, second.SessionsKeep fun own => alike state own

/-- Readers that agree in all but samples agree on objects. -/
theorem CatalogReader.AgreesBesideSamples.onObjects {σ ω τ ψ : Type} {first : CatalogReader σ ω}
    {second : CatalogReader τ ψ} {alike : σ → τ → Prop}
    (agree : first.AgreesBesideSamples second alike) : first.AgreesOnObjects second alike :=
  { agree with }

/-- The same procedure, though perhaps with another sample if it returns data. -/
structure Procedure.SameBesideSample (left right : Procedure) : Prop where
  others : right = { left with sample := right.sample }
  unsampled : left.returnsData = false → right.sample = left.sample

/-- The same tables and views, and one by one the same procedures beside their samples. -/
structure Schema.SameBesideSamples (left right : Schema) : Prop where
  tables : right.tables = left.tables
  views : right.views = left.views
  procedures : List.Forall₂ Procedure.SameBesideSample left.procedures right.procedures

/-- A procedure agrees with itself. -/
theorem Procedure.SameBesideSample.refl (procedure : Procedure) :
    procedure.SameBesideSample procedure := ⟨rfl, fun _ => rfl⟩

/-- The failure of a call on the way to a sample. A rollback is none of these. -/
def CatalogEvent.sampleFailure? {ω : Type} : CatalogEvent ω → Option Failure
  | sessionOpened answer => failure? answer
  | transactionBegun _ answer => failure? answer
  | batchExecuted _ _ _ answer => failure? answer
  | _ => none

/-- A call outside of sessions is no failed sample. -/
theorem CatalogEvent.sampleFailure?_of_quiet {ω : Type} {event : CatalogEvent ω}
    (quiet : event.isSessionCall = false) : event.sampleFailure? = none := by
  cases event <;> first | rfl | cases quiet

/-- A sample fails with the first call that fails on the way to it. -/
theorem SampleVisit.failure?_answer {ω : Type} (batch : String) (seconds : Nat)
    (visit : SampleVisit ω) :
    (visit.events batch seconds).findSome? CatalogEvent.sampleFailure? = failure? visit.answer := by
  cases visit with
  | unopened failure => rfl
  | unbegun session failure => rfl
  | executed session answer rolledBack => cases answer <;> rfl

/-- When a call of a sample fails, the sample has no answer, at whichever call it was. -/
theorem SampleVisit.answer_of_failed {ω : Type} {batch : String} {seconds : Nat}
    {visit : SampleVisit ω} {event : CatalogEvent ω} (made : event ∈ visit.events batch seconds)
    (failed : event.sampleFailure? ≠ none) : visit.answer.toOption = none := by
  have found : (visit.events batch seconds).findSome? CatalogEvent.sampleFailure? ≠ none := by
    rw [Ne, List.findSome?_eq_none_iff]
    exact fun none => failed (none event made)
  rw [failure?_answer] at found
  cases answered : visit.answer with
  | error failure => rfl
  | ok sample => simp [answered, failure?] at found

namespace ProcedureVisit

variable {ω : Type} {settings : Settings} {visit : ProcedureVisit ω}

/-- A procedure that was described as a whole has no load error. -/
theorem loadError_of_described {procedure : Procedure}
    (whole : visit.described settings = .ok procedure) : procedure.loadError = none := by
  unfold described at whole
  split at whole <;> cases whole
  rfl

/-- A procedure whose sample failed is kept without one, and as if it had been read whole. -/
theorem unsampled_of_failed {event : CatalogEvent ω} {procedure : Procedure}
    (made : event ∈ visit.events settings) (failed : event.sampleFailure? ≠ none)
    (read : visit.outcome settings = .ok procedure) :
    procedure.sample = none ∧ procedure.loadError = none := by
  have sampling : event ∈ visit.sampleEvents settings := by
    refine (List.mem_append.mp made).resolve_left fun metadata => failed ?_
    exact CatalogEvent.sampleFailure?_of_quiet (visit.quiet_metadataEvents event metadata)
  unfold sampleEvents at sampling
  unfold outcome at read
  cases whole : visit.described settings with
  | error stopped => simp [whole] at sampling
  | ok described =>
      have unharmed := loadError_of_described whole
      rw [whole] at sampling read
      cases read
      simp only [SampleVisit.eventsFor] at sampling
      unfold SampleVisit.addTo
      split at sampling
      · rename_i sampled
        rw [if_pos sampled]
        exact ⟨SampleVisit.answer_of_failed sampling failed, unharmed⟩
      · cases sampling

end ProcedureVisit

/-- Whatever failed on the way, a sample fails with a failure that ends no run. -/
theorem Introspection.sampleFailed_of_asSampleFailure (procedure : String) (failure : Failure) :
    ∃ failed message, asSampleFailure procedure failure = .sampleFailed failed message ∧
      (asSampleFailure procedure failure).isFatal = false := by
  cases failure <;> exact ⟨_, _, rfl, rfl⟩

namespace CatalogReader.SessionsKeep

variable {σ ω : Type} {reader : CatalogReader σ ω} {property : σ → Prop}

/-- A sample makes session calls only, so it keeps what these keep, -/
theorem captureSample (kept : reader.SessionsKeep property) (procedure batch : String)
    (seconds : Nat) : Keeps property (captureSample reader procedure batch seconds) := by
  refine (kept.opened.adapt _).bind fun session => ((kept.begun session).adapt _).bind fun _ => ?_
  refine (kept.executed session batch seconds).attempt.bind fun _ => ?_
  exact (kept.rolledBack session).attempt.bind fun _ => .conclude _

/-- and so does one whose failure is passed over. -/
theorem loadSample (kept : reader.SessionsKeep property) (procedure batch : String)
    (seconds : Nat) : Keeps property (loadSample reader procedure batch seconds) :=
  (kept.captureSample procedure batch seconds).attempt.bind fun _ => .conclude _

end CatalogReader.SessionsKeep

namespace Introspection

section Sides

variable {σ ω τ ψ : Type} {first : CatalogReader σ ω} {second : CatalogReader τ ψ}
  {alike : σ → τ → Prop}

/-- Loading a sample always comes to an end, so two readers need not agree in anything. -/
theorem loadSample_corresponds (agree : first.AgreesBesideSamples second alike)
    (procedure batch : String) (seconds : Nat) :
    Corresponds alike (fun _ _ => True) (loadSample first procedure batch seconds)
      (loadSample second procedure batch seconds) :=
  .of_keeps (fun state => (agree.firstSessions state).loadSample procedure batch seconds)
    (fun state => (agree.secondSessions state).loadSample procedure batch seconds)
    fun _ _ => .finished trivial

/-- Only a procedure that returns data is sampled, and sampling sets nothing but its sample. -/
theorem addSample_corresponds (agree : first.AgreesBesideSamples second alike)
    (settings : Settings) (procedure : Procedure) :
    Corresponds alike Procedure.SameBesideSample (addSample first settings procedure)
      (addSample second settings procedure) := by
  unfold addSample
  split
  · rename_i sampled
    have returnsData : procedure.returnsData = true := (Bool.and_eq_true_iff.mp sampled).1
    refine (loadSample_corresponds agree _ _ _).bind fun sample other _ => .pure ⟨rfl, ?_⟩
    intro without
    cases returnsData.symm.trans without
  · exact .pure (.refl procedure)

/-- Readers that agree in all but samples find schemas that do. -/
theorem introspect_sameBesideSamples (agree : first.AgreesBesideSamples second alike)
    (settings : Settings) :
    Corresponds alike Schema.SameBesideSamples (introspect first settings)
      (introspect second settings) :=
  (introspect_corresponds agree.onObjects .refl (addSample_corresponds agree settings)).weaken
    fun _ _ ⟨tables, views, procedures⟩ => ⟨tables, views, procedures⟩

/-- On two readers that agree beside samples, introspection comes from alike states to the same
failure, or to schemas that differ only in the samples of procedures that return data. In every run
that comes to its end, a procedure with a failed call on the way to its sample is kept without a
sample and without an error. Every single sample fails exactly with its first failed call, told as a
failed sample, which ends no run. -/
theorem introspect_besideSamples (agree : first.AgreesBesideSamples second alike)
    (settings : Settings) {state : σ} {other : τ} (states : alike state other) :
    Matching Schema.SameBesideSamples ((introspect first settings).runFrom state).1
        ((introspect second settings).runFrom other).1 ∧
      (∀ reader : CatalogReader σ ω,
        RecordedAs (introspect reader settings) (introspect reader.recorded settings)
          fun outcome events => ∃ (metadata : List (CatalogEvent ω))
            (visits : List (ProcedureVisit ω)),
            events = metadata ++ visits.flatMap (ProcedureVisit.events settings) ∧
            (∀ event ∈ metadata, event.sampleFailure? = none) ∧
            ∀ schema, outcome = .ok schema →
              schema.procedures.map (·.name) = visits.map (·.name) ∧
              ∀ visit procedure, (visit, procedure) ∈ visits.zip schema.procedures →
                ∀ event ∈ visit.events settings, event.sampleFailure? ≠ none →
                  procedure.sample = none ∧ procedure.loadError = none) ∧
      ∀ (reader : CatalogReader σ ω) (procedure batch : String) (seconds : Nat),
        RecordedAs (captureSample reader procedure batch seconds)
          (captureSample reader.recorded procedure batch seconds)
          fun outcome events =>
            failure? outcome = (events.findSome? CatalogEvent.sampleFailure?).map
              (asSampleFailure procedure) ∧
            ∀ failure, outcome = .error failure →
              ∃ failed message, failure = .sampleFailed failed message ∧
                failure.isFatal = false := by
  refine ⟨(introspect_sameBesideSamples agree settings state other states).1, fun reader => ?_,
    fun reader procedure batch seconds => ?_⟩
  · refine (introspect_recordedAs reader settings).weaken ?_
    rintro outcome _ ⟨tableVisits, viewVisits, visits, run⟩
    -- Samples are captured in the last phase only, and no call before it concerns them.
    obtain ⟨metadata, quiet, rfl⟩ := run.quiet_before
    refine ⟨metadata, visits, rfl, fun event member =>
      CatalogEvent.sampleFailure?_of_quiet (quiet event member), ?_⟩
    rintro schema rfl
    have kept := run.procedures_eq
    refine ⟨map_eq_of_outcomes (fun visit procedure read =>
      (ProcedureVisit.shown_of_outcome read).named) kept, ?_⟩
    intro visit procedure paired event made failed
    exact ProcedureVisit.unsampled_of_failed made failed (outcome_of_mem_zip kept paired)
  · refine (captureSample_recordedAs reader procedure batch seconds).weaken ?_
    rintro _ _ ⟨visit, rfl, rfl⟩
    rw [SampleVisit.failure?_answer]
    cases visit.answer with
    | ok sample => exact ⟨rfl, by simp [Except.mapError]⟩
    | error failure =>
        refine ⟨rfl, ?_⟩
        rintro _ ⟨⟩
        obtain ⟨failed, message, told, passing⟩ := sampleFailed_of_asSampleFailure procedure failure
        exact ⟨failed, message, told, passing⟩

end Sides

end Introspection

namespace SnapshotCatalog

/-- Catalogs that were written down alike, whatever was rolled back in them. -/
def WrittenAlike (first second : SnapshotCatalog) : Prop :=
  first.afterRollbacks 0 = second.afterRollbacks 0

/-- Catalogs that differ in their rollbacks alone are one catalog after different numbers of them.
-/
theorem WrittenAlike.eq {first second : SnapshotCatalog} (alike : first.WrittenAlike second) :
    second = first.afterRollbacks second.rollbacks := by
  cases first
  cases second
  cases alike
  rfl

/-- A question about what was written down has the same answer on catalogs written down alike. -/
theorem ask_corresponds {α : Type} {question : SnapshotCatalog → Except Failure α}
    (same : ∀ catalog rollbacks, question (catalog.afterRollbacks rollbacks) = question catalog) :
    Corresponds WrittenAlike Eq (ask question) (ask question) := by
  intro first second alike
  refine ⟨?_, alike⟩
  change Matching Eq (question first) (question second)
  rw [alike.eq, same]
  cases question first with
  | error failure => exact .failed failure
  | ok value => exact .finished rfl

/-- The session calls of a snapshot change its number of rollbacks and nothing else. -/
theorem sessionsKeep {property : SnapshotCatalog → Prop}
    (kept : ∀ catalog, property catalog →
      property (catalog.afterRollbacks (catalog.rollbacks + 1))) :
    reader.SessionsKeep property where
  opened := .conclude _
  begun _ := .conclude _
  executed _ _ _ := fun _ holds => holds
  rolledBack _ := kept

end SnapshotCatalog

namespace CatalogReader

variable {σ ω : Type} {property : σ → Prop}

/-- A call that may fail beforehand keeps what the call keeps. -/
theorem guarded_keeps {α : Type} {action : Reading σ α} (kept : Keeps property action)
    (faults : Faults) (call : CatalogCall) : Keeps property (guarded faults call action) := by
  unfold guarded
  split
  · exact .conclude _
  · exact kept

/-- So a reader with failures keeps what the reader keeps. -/
theorem SessionsKeep.failing {reader : CatalogReader σ ω} (kept : reader.SessionsKeep property)
    (faults : Faults) : (reader.failing faults).SessionsKeep property where
  opened := guarded_keeps (kept.opened.bind fun _ => .conclude _) faults _
  begun session := guarded_keeps (kept.begun session.session) session.faults _
  executed session batch seconds :=
    guarded_keeps (kept.executed session.session batch seconds) session.faults _
  rolledBack session := guarded_keeps (kept.rolledBack session.session) session.faults _

end CatalogReader

/-- The failures set for calls all concern sessions. -/
def Faults.InSessions (faults : Faults) : Prop :=
  ∀ call, faults call ≠ none → call ∈ [.openSession, .beginTransaction, .execute, .rollBack]

/-- Whatever failures are set for its sessions, a reader over a snapshot agrees with the one without
failures. -/
theorem SnapshotCatalog.agrees_failing {faults : Faults} (inSessions : faults.InSessions) :
    reader.AgreesBesideSamples (reader.failing faults) WrittenAlike := by
  have unfailing (call : CatalogCall)
      (outside : call ∉ [.openSession, .beginTransaction, .execute, .rollBack]) {α : Type}
      (action : Reading SnapshotCatalog α) : CatalogReader.guarded faults call action = action := by
    have unset : faults call = none := by_contra fun set => outside (inSessions call set)
    rw [CatalogReader.guarded, unset]
  constructor
  case firstSessions => exact fun state => sessionsKeep fun _ alike => alike
  case secondSessions => exact fun state => (sessionsKeep fun _ alike => alike).failing faults
  all_goals
    intros
    simp only [CatalogReader.failing]
    rw [unfailing _ (by decide)]
    exact ask_corresponds fun _ _ => rfl

/-- When the connection is lost at every opening of a session, which ends a run everywhere else, the
procedure is still read, though without its sample. -/
theorem SnapshotCatalog.introspect_besideSamples_lost :
    let settings : Settings := { useProcedures := true }
    let catalog := ofSnapshot { procedures := [{ name := "grp_a", sample := some {} }] }
    let lost : Faults := fun call =>
      if call = .openSession then some (.connectionFailed "lost") else none
    let whole := ((introspect reader settings).runFrom catalog).1
    let unsampled := ((introspect (reader.failing lost) settings).runFrom catalog).1
    reader.AgreesBesideSamples (reader.failing lost) WrittenAlike ∧
      catalog.WrittenAlike catalog ∧ Matching Schema.SameBesideSamples whole unsampled ∧
      whole = .ok { procedures := [{ name := "grp_a", returnsData := true, sample := some {} }] } ∧
      unsampled = .ok { procedures := [{ name := "grp_a", returnsData := true }] } := by
  intro settings catalog lost whole unsampled
  have inSessions : lost.InSessions := by
    intro call set
    cases call <;> first | decide | exact absurd rfl set
  have agree := agrees_failing inSessions
  refine ⟨agree, rfl, (introspect_besideSamples agree settings rfl).1, ?_, ?_⟩
  · decide
  · decide

end DataLayer
