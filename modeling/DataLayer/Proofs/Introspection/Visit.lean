import DataLayer.Proofs.Introspection.Recording

/-!
# Visits of single catalog objects

A visit holds what a reader answers about one table, view or procedure. The calls that are made
and the outcome of the loading step are functions of these answers; answers to calls that are not
made play no part. The theorems `loadTable_recordedAs`, `captureSample_recordedAs` and
`loadProcedure_recordedAs` say that the loading steps do exactly this on every reader.
-/

namespace DataLayer

open Introspection Reading

variable {σ ω : Type}

/-- The answers on the way to one sample. -/
inductive SampleVisit (ω : Type) where
  | unopened (failure : Failure)
  | unbegun (session : ω) (failure : Failure)
  | executed (session : ω) (answer : Except Failure ResultShape)
      (rolledBack : Except Failure Unit)

namespace SampleVisit

/-- A session is opened first. In an open session a transaction is begun, and in a transaction
the batch is executed once and then rolled back once. -/
def events (batch : String) (seconds : Nat) : SampleVisit ω → List (CatalogEvent ω)
  | unopened failure => [.sessionOpened (.error failure)]
  | unbegun session failure =>
    [.sessionOpened (.ok session), .transactionBegun session (.error failure)]
  | executed session answer rolledBack =>
    [.sessionOpened (.ok session), .transactionBegun session (.ok ()),
     .batchExecuted session batch seconds answer, .transactionRolledBack session rolledBack]

/-- The sample is what the execution answers; how the rollback went has no effect on it. -/
def answer : SampleVisit ω → Except Failure ResultShape
  | unopened failure => .error failure
  | unbegun _ failure => .error failure
  | executed _ answer _ => answer

/-- The calls made to sample a procedure: none unless it returns data and is to be sampled. -/
def eventsFor (settings : Settings) (procedure : Procedure) (visit : SampleVisit ω) :
    List (CatalogEvent ω) :=
  if procedure.returnsData && settings.wantsSample procedure.definition then
    visit.events (sampleBatch settings.catalogSchema procedure settings.sampleWithArguments)
      settings.sampleLimit
  else
    []

/-- The procedure with its sample, when it is to have one. -/
def addTo (settings : Settings) (procedure : Procedure) (visit : SampleVisit ω) : Procedure :=
  if procedure.returnsData && settings.wantsSample procedure.definition then
    { procedure with sample := visit.answer.toOption }
  else
    procedure

end SampleVisit

/-- The answers about one table or view. Keys are asked for only of a table whose columns could
be read. -/
structure TableVisit where
  name : String
  columns : Except Failure (List ColumnInfo)
  keys : Except Failure (List String)

namespace TableVisit

/-- The calls made for a table or view. -/
def events (kind : TableKind) (visit : TableVisit) : List (CatalogEvent ω) :=
  match kind, visit.columns with
  | .view, answer => [.viewColumnsRead visit.name answer]
  | .table, .error failure => [.tableColumnsRead visit.name (.error failure)]
  | .table, .ok infos =>
    [.tableColumnsRead visit.name (.ok infos), .primaryKeysRead visit.name visit.keys]

/-- The table or view that the answers describe, or the first failure among them. -/
def outcome (kind : TableKind) (visit : TableVisit) : Except Failure Table :=
  match kind, visit.columns with
  | _, .error failure => .error failure
  | .view, .ok infos => .ok (Table.ofColumns visit.name .view (infos.map Column.ofInfo))
  | .table, .ok infos =>
    visit.keys.map (Table.ofColumns visit.name .table (infos.map Column.ofInfo)).markKeys

end TableVisit

/-- What is kept of a procedure after a failure. A fatal failure keeps nothing; any other failure is
noted beside what was read before it. -/
def Procedure.stoppedBy (procedure : Procedure) (failure : Failure) : Except Failure Procedure :=
  if failure.isFatal then .error failure
  else .ok { procedure with loadError := some failure.message }

/-- The answers about one procedure. The definition is asked for only when the parameters could
be used, and a sample is taken only of a procedure that was read whole and is to be sampled. -/
structure ProcedureVisit (ω : Type) where
  name : String
  parameters : Except Failure (List ParameterInfo)
  definition : Except Failure (Option String)
  sample : SampleVisit ω

namespace ProcedureVisit

/-- The parameters that the answer describes. -/
def usableParameters (visit : ProcedureVisit ω) : Except Failure (List Parameter) :=
  visit.parameters.bind Parameter.ofInfos

/-- The procedure before anything was read about it. -/
def bare (settings : Settings) (visit : ProcedureVisit ω) : Procedure :=
  { name := visit.name, returnsData := settings.returnsData visit.name }

/-- The procedure with all its metadata, or what was read of it before a failure. -/
def described (settings : Settings) (visit : ProcedureVisit ω) :
    Except (Procedure × Failure) Procedure :=
  match visit.usableParameters, visit.definition with
  | .error failure, _ => .error (visit.bare settings, failure)
  | .ok parameters, .error failure =>
    .error ({ visit.bare settings with parameters := parameters }, failure)
  | .ok parameters, .ok definition =>
    .ok { visit.bare settings with parameters := parameters, definition := definition }

/-- The calls made to read the metadata of the procedure. -/
def metadataEvents (visit : ProcedureVisit ω) : List (CatalogEvent ω) :=
  match visit.usableParameters with
  | .error _ => [.parametersRead visit.name visit.parameters]
  | .ok _ =>
    [.parametersRead visit.name visit.parameters, .definitionRead visit.name visit.definition]

/-- The calls made to sample the procedure, which must have been read whole. -/
def sampleEvents (settings : Settings) (visit : ProcedureVisit ω) : List (CatalogEvent ω) :=
  match visit.described settings with
  | .error _ => []
  | .ok procedure => visit.sample.eventsFor settings procedure

/-- The calls made for the procedure: its metadata, then its sample. -/
def events (settings : Settings) (visit : ProcedureVisit ω) : List (CatalogEvent ω) :=
  visit.metadataEvents ++ visit.sampleEvents settings

/-- What is kept of the procedure, with its sample if it was read whole. -/
def outcome (settings : Settings) (visit : ProcedureVisit ω) : Except Failure Procedure :=
  match visit.described settings with
  | .error (procedure, failure) => procedure.stoppedBy failure
  | .ok procedure => .ok (visit.sample.addTo settings procedure)

section Courses

variable (settings : Settings) {visit : ProcedureVisit ω}

/-- Without usable parameters nothing else is asked for. -/
theorem course_unusable {failure : Failure} (unusable : visit.usableParameters = .error failure) :
    visit.events settings = [.parametersRead visit.name visit.parameters] ∧
      visit.outcome settings = (visit.bare settings).stoppedBy failure := by
  simp [events, outcome, metadataEvents, sampleEvents, described, unusable]

/-- Without an answer for the definition no sample is taken. -/
theorem course_undefined {parameters : List Parameter} {failure : Failure}
    (usable : visit.usableParameters = .ok parameters)
    (undefined : visit.definition = .error failure) :
    visit.events settings =
        [.parametersRead visit.name visit.parameters,
         .definitionRead visit.name (.error failure)] ∧
      visit.outcome settings =
        ({ visit.bare settings with parameters := parameters } : Procedure).stoppedBy failure := by
  simp [events, outcome, metadataEvents, sampleEvents, described, usable, undefined]

/-- A procedure that was read whole is sampled last. -/
theorem course_whole {parameters : List Parameter} {definition : Option String}
    (usable : visit.usableParameters = .ok parameters)
    (defined : visit.definition = .ok definition) :
    let procedure := { visit.bare settings with parameters := parameters, definition := definition }
    visit.events settings =
        .parametersRead visit.name visit.parameters ::
          .definitionRead visit.name (.ok definition) ::
          visit.sample.eventsFor settings procedure ∧
      visit.outcome settings = .ok (visit.sample.addTo settings procedure) := by
  simp [events, outcome, metadataEvents, sampleEvents, described, usable, defined]

end Courses

end ProcedureVisit

namespace Introspection

/-- Reading columns is one call, whose answer is brought into column order. -/
theorem loadColumns_recordedAs (reader : CatalogReader σ ω) (name : String) (kind : TableKind) :
    RecordedAs (loadColumns reader name kind) (loadColumns reader.recorded name kind)
      fun result events => ∃ answer,
        result = answer.map (fun infos =>
          (Table.ofColumns name kind (infos.map Column.ofInfo)).columns) ∧
        events = match kind with
          | .table => [.tableColumnsRead name answer]
          | .view => [.viewColumnsRead name answer] := by
  cases kind with
  | table => exact (RecordedAs.noted _ _).map _
  | view => exact (RecordedAs.noted _ _).map _

/-- Loading a table or view is one visit of it. -/
theorem loadTable_recordedAs (reader : CatalogReader σ ω) (name : String) (kind : TableKind) :
    RecordedAs (loadTable reader name kind) (loadTable reader.recorded name kind)
      fun result events => ∃ visit : TableVisit,
        visit.name = name ∧ result = visit.outcome kind ∧ events = visit.events kind := by
  cases kind with
  | view =>
      refine ((loadColumns_recordedAs reader name .view).map _).weaken ?_
      rintro _ _ ⟨_, rfl, answer, rfl, rfl⟩
      refine ⟨⟨name, answer, .ok []⟩, rfl, ?_, rfl⟩
      cases answer <;> rfl
  | table =>
      refine ((loadColumns_recordedAs reader name .table).bind fun columns =>
        (RecordedAs.noted _ _).map _).weaken ?_
      rintro _ _ (⟨answer, failed, rfl⟩ | ⟨⟨answer, read, rfl⟩, keys, rfl, rfl⟩)
      · cases answer with
        | error failure => cases failed; exact ⟨⟨name, .error _, .ok []⟩, rfl, rfl, rfl⟩
        | ok infos => cases failed
      · cases answer with
        | error failure => cases read
        | ok infos => cases read; exact ⟨⟨name, .ok infos, keys⟩, rfl, rfl, rfl⟩

/-- Capturing a sample is one visit in a session of its own. -/
theorem captureSample_recordedAs (reader : CatalogReader σ ω) (procedure batch : String)
    (seconds : Nat) :
    RecordedAs (captureSample reader procedure batch seconds)
      (captureSample reader.recorded procedure batch seconds)
      fun result events => ∃ visit : SampleVisit ω,
        result = visit.answer.mapError (asSampleFailure procedure) ∧
        events = visit.events batch seconds := by
  refine (((RecordedAs.noted _ _).adapt _).bind fun session =>
    ((RecordedAs.noted _ _).adapt _).bind fun _ =>
    (RecordedAs.noted _ _).attemptBind fun _ =>
    (RecordedAs.noted _ _).attemptBind fun _ => RecordedAs.conclude _).weaken ?_
  intro result events composed
  -- It stops where no session opens or no transaction begins. From there on nothing stops it, and
  -- the rollback is asked for whatever the answer was.
  cases composed with
  | stopped unopened =>
      obtain ⟨_ | _, ⟨⟩, rfl⟩ := unopened
      exact ⟨.unopened _, rfl, rfl⟩
  | @continued session _ _ _ opened composed =>
      obtain ⟨_ | _, ⟨⟩, rfl⟩ := opened
      cases composed with
      | stopped unbegun =>
          obtain ⟨_ | _, ⟨⟩, rfl⟩ := unbegun
          exact ⟨.unbegun session _, rfl, rfl⟩
      | continued begun executed =>
          obtain ⟨_ | _, ⟨⟩, rfl⟩ := begun
          obtain ⟨answer, _, _, rfl, ⟨rollback, _, _, rfl, ⟨rfl, rfl⟩, rfl⟩, rfl⟩ := executed
          exact ⟨.executed session answer rollback, rfl, rfl⟩

/-- A sample that could not be captured is none. -/
theorem loadSample_recordedAs (reader : CatalogReader σ ω) (procedure batch : String)
    (seconds : Nat) :
    RecordedAs (loadSample reader procedure batch seconds)
      (loadSample reader.recorded procedure batch seconds)
      fun result events => ∃ visit : SampleVisit ω,
        result = .ok visit.answer.toOption ∧ events = visit.events batch seconds := by
  refine ((captureSample_recordedAs reader procedure batch seconds).attemptBind fun _ =>
    RecordedAs.pure _).weaken ?_
  rintro _ _ ⟨_, _, _, ⟨visit, rfl, rfl⟩, ⟨rfl, rfl⟩, rfl⟩
  refine ⟨visit, ?_, List.append_nil _⟩
  cases visit.answer <;> rfl

/-- Loading parameters is one call, whose answer is judged as a whole. -/
theorem loadParameters_recordedAs (reader : CatalogReader σ ω) (procedure : String) :
    RecordedAs (loadParameters reader procedure) (loadParameters reader.recorded procedure)
      fun result events => ∃ answer,
        result = answer.bind Parameter.ofInfos ∧ events = [.parametersRead procedure answer] :=
  (RecordedAs.noted _ _).thenConclude _

/-- A procedure that is not to be sampled costs no call. -/
theorem addSample_recordedAs (reader : CatalogReader σ ω) (settings : Settings)
    (procedure : Procedure) :
    RecordedAs (addSample reader settings procedure)
      (addSample reader.recorded settings procedure)
      fun result events => ∃ visit : SampleVisit ω,
        result = .ok (visit.addTo settings procedure) ∧
        events = visit.eventsFor settings procedure := by
  unfold addSample
  by_cases sampled : (procedure.returnsData && settings.wantsSample procedure.definition) = true
  · simp only [sampled, if_true]
    refine ((loadSample_recordedAs reader _ _ _).map _).weaken ?_
    rintro _ _ ⟨_, rfl, visit, rfl, rfl⟩
    exact ⟨visit, by simp [SampleVisit.addTo, sampled, Except.map],
      by simp [SampleVisit.eventsFor, sampled]⟩
  · simp only [sampled]
    refine (RecordedAs.pure _).weaken ?_
    rintro _ _ ⟨rfl, rfl⟩
    exact ⟨.unopened (.configuration ""), by simp [SampleVisit.addTo, sampled],
      by simp [SampleVisit.eventsFor, sampled]⟩

/-- Stopping early costs no call. -/
theorem stopEarly_recordedAs (procedure : Procedure) (failure : Failure) :
    RecordedAs (stopEarly procedure failure : Reading σ Procedure)
      (stopEarly procedure failure : Reading (σ × List (CatalogEvent ω)) Procedure)
      fun result events => result = procedure.stoppedBy failure ∧ events = [] := by
  unfold stopEarly Procedure.stoppedBy
  split
  · exact RecordedAs.throw failure
  · exact RecordedAs.pure _

/-- Loading a procedure is one visit of it. -/
theorem loadProcedure_recordedAs (reader : CatalogReader σ ω) (settings : Settings)
    (name : String) :
    RecordedAs (loadProcedure reader settings name) (loadProcedure reader.recorded settings name)
      fun result events => ∃ visit : ProcedureVisit ω,
        visit.name = name ∧ result = visit.outcome settings ∧ events = visit.events settings := by
  -- What follows an answer is described by the visits that have got this answer.
  refine ((loadParameters_recordedAs reader name).attemptBind fun parameters =>
    (?_ : RecordedAs _ _ fun result events => ∃ definition sample, ∀ answer,
      answer.bind Parameter.ofInfos = parameters →
        let visit : ProcedureVisit ω := ⟨name, answer, definition, sample⟩
        visit.events settings = .parametersRead name answer :: events ∧
        visit.outcome settings = result)).weaken ?_
  · cases parameters with
    | error failure =>
        refine (stopEarly_recordedAs _ failure).weaken ?_
        rintro _ _ ⟨rfl, rfl⟩
        exact ⟨.ok none, .unopened failure, fun _ unusable =>
          ProcedureVisit.course_unusable settings unusable⟩
    | ok parameters =>
        refine ((RecordedAs.noted _ _).attemptBind fun definition =>
          (?_ : RecordedAs _ _ fun result events => ∃ sample, ∀ answer,
            answer.bind Parameter.ofInfos = .ok parameters →
              let visit : ProcedureVisit ω := ⟨name, answer, definition, sample⟩
              visit.events settings =
                .parametersRead name answer :: .definitionRead name definition :: events ∧
              visit.outcome settings = result)).weaken ?_
        · cases definition with
          | error failure =>
              refine (stopEarly_recordedAs _ failure).weaken ?_
              rintro _ _ ⟨rfl, rfl⟩
              exact ⟨.unopened failure, fun _ usable =>
                ProcedureVisit.course_undefined settings usable rfl⟩
          | ok definition =>
              refine (addSample_recordedAs reader settings _).weaken ?_
              rintro _ _ ⟨sample, rfl, rfl⟩
              exact ⟨sample, fun _ usable => ProcedureVisit.course_whole settings usable rfl⟩
        · rintro _ _ ⟨definition, _, _, rfl, ⟨sample, fits⟩, rfl⟩
          exact ⟨definition, sample, fits⟩
  · rintro _ _ ⟨_, _, _, ⟨answer, rfl, rfl⟩, ⟨definition, sample, fits⟩, rfl⟩
    obtain ⟨written, come⟩ := fits answer rfl
    exact ⟨⟨name, answer, definition, sample⟩, rfl, come.symm, written.symm⟩

end Introspection

end DataLayer
