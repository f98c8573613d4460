import DataLayer.Proofs.Introspection.Tour

/-!
# Transcripts of introspection

A whole run lists and visits tables, then views, then procedures. `introspect_recordedAs` describes
it as three phases; `Phase` is the relation of one phase between its visits, its result and its
events, whether it comes to its end or not.
-/

namespace DataLayer

open Introspection Reading

/-- The part of a run in which a call is made: tables, views, then procedures. -/
def CatalogEvent.stage {ω : Type} : CatalogEvent ω → Nat
  | tablesListed _ | tableColumnsRead .. | primaryKeysRead .. => 0
  | viewsListed _ | viewColumnsRead .. => 1
  | _ => 2

/-- The part of a run in which the tables of a kind are read. -/
def TableKind.stage : TableKind → Nat
  | .table => 0
  | .view => 1

/-- The visit of a table makes its calls in the part for tables of its kind. -/
theorem TableVisit.stage_events {ω : Type} (kind : TableKind) (visit : TableVisit) :
    ∀ event ∈ (visit.events kind : List (CatalogEvent ω)), event.stage = kind.stage := by
  rcases visit with ⟨name, _ | _, keys⟩ <;> cases kind <;>
    simp [TableVisit.events, CatalogEvent.stage, TableKind.stage]

/-- Samples belong to the part for procedures, -/
theorem SampleVisit.stage_eventsFor {ω : Type} (settings : Settings) (procedure : Procedure)
    (visit : SampleVisit ω) : ∀ event ∈ visit.eventsFor settings procedure, event.stage = 2 := by
  unfold SampleVisit.eventsFor
  split
  · cases visit <;> simp [SampleVisit.events, CatalogEvent.stage]
  · simp

/-- as does all else in the visit of one. -/
theorem ProcedureVisit.stage_events {ω : Type} (settings : Settings) (visit : ProcedureVisit ω) :
    ∀ event ∈ visit.events settings, event.stage = 2 := by
  have metadata : ∀ event ∈ (visit.metadataEvents : List (CatalogEvent ω)), event.stage = 2 := by
    unfold ProcedureVisit.metadataEvents
    split <;> simp [CatalogEvent.stage]
  have sample : ∀ event ∈ visit.sampleEvents settings, event.stage = 2 := by
    unfold ProcedureVisit.sampleEvents
    split
    · simp
    · exact SampleVisit.stage_eventsFor settings _ _
  intro event member
  exact (List.mem_append.mp member).elim (metadata event) (sample event)

/-- No call is made in a later part of a run before one in an earlier part. -/
def InOrder {ω : Type} (events : List (CatalogEvent ω)) : Prop :=
  events.Pairwise fun earlier later => earlier.stage ≤ later.stage

/-- Calls in one part of a run are in order. -/
theorem InOrder.of_stage {ω : Type} {stage : Nat} {events : List (CatalogEvent ω)}
    (same : ∀ event ∈ events, event.stage = stage) : InOrder events := by
  refine List.pairwise_of_forall_mem_list fun earlier first later second => ?_
  exact Nat.le_of_eq ((same earlier first).trans (same later second).symm)

/-- Later parts may follow. -/
theorem InOrder.append {ω : Type} {stage : Nat} {events others : List (CatalogEvent ω)}
    (same : ∀ event ∈ events, event.stage = stage) (inOrder : InOrder others)
    (later : ∀ event ∈ others, stage ≤ event.stage) : InOrder (events ++ others) := by
  refine List.pairwise_append.mpr ⟨InOrder.of_stage same, inOrder, ?_⟩
  intro event first other second
  rw [same event first]
  exact later other second

/-- The names of a phase are given, or else asked for in one call. -/
def Requested {ω : Type} (given? : Option (List String))
    (listed : Except Failure (List String) → CatalogEvent ω) : Description ω (List String) :=
  fun answer events =>
    match given? with
    | some names => answer = .ok names ∧ events = []
    | none => events = [listed answer]

/-- How one phase goes: the names are requested, then a tour visits them. -/
inductive Phase {ω V α : Type} (given? : Option (List String))
    (listed : Except Failure (List String) → CatalogEvent ω) (name : V → String)
    (outcome : V → Except Failure α) (events : V → List (CatalogEvent ω)) :
    List V → Description ω (List α) where
  | unlisted {failure requested} (refused : Requested given? listed (.error failure) requested) :
      Phase given? listed name outcome events [] (.error failure) requested
  | toured {names requested visits result}
      (answered : Requested given? listed (.ok names) requested)
      (tour : Tour name outcome names visits result) :
      Phase given? listed name outcome events visits result (requested ++ visits.flatMap events)

section Phases

variable {σ ω V α : Type} {given? : Option (List String)}
  {listed : Except Failure (List String) → CatalogEvent ω} {name : V → String}
  {outcome : V → Except Failure α} {events : V → List (CatalogEvent ω)}

/-- A property of the listing call holds of all calls of a request. -/
theorem Requested.forall_events {property : CatalogEvent ω → Prop}
    {answer : Except Failure (List String)} {requested : List (CatalogEvent ω)}
    (request : Requested given? listed answer requested)
    (listing : ∀ answer, property (listed answer)) : ∀ event ∈ requested, property event := by
  cases given? with
  | some names => simp [show requested = _ from request.2]
  | none => simp [show requested = _ from request, listing]

/-- A property of the listing call and of all visits holds of all calls of a phase. -/
theorem Phase.forall_events {property : CatalogEvent ω → Prop} {visits : List V}
    {result : Except Failure (List α)} {written : List (CatalogEvent ω)}
    (phase : Phase given? listed name outcome events visits result written)
    (listing : ∀ answer, property (listed answer))
    (visiting : ∀ visit, ∀ event ∈ events visit, property event) :
    ∀ event ∈ written, property event := by
  intro event member
  cases phase with
  | unlisted refused => exact refused.forall_events listing event member
  | toured answered tour =>
      rcases List.mem_append.mp member with requested | visited
      · exact answered.forall_events listing event requested
      · obtain ⟨visit, _, among⟩ := List.mem_flatMap.mp visited
        exact visiting visit event among

/-- A phase that comes to its end has made all its calls, about the given names if there are any. -/
theorem Phase.written {visits : List V} {values : List α} {written : List (CatalogEvent ω)}
    (phase : Phase given? listed name outcome events visits (.ok values) written) :
    written = (if given?.isNone then [listed (.ok (visits.map name))] else []) ++
        visits.flatMap events ∧
      ∀ names, given? = some names → visits.map name = names := by
  cases phase with
  | toured answered tour =>
      rw [tour.ok.1]
      cases given? with
      | none => rw [show _ = _ from answered]; exact ⟨rfl, by simp⟩
      | some given =>
          obtain ⟨same, rfl⟩ := answered
          cases same
          exact ⟨rfl, by simp⟩

/-- A phase that comes to its end has kept what was not passed over. -/
theorem Phase.kept {visits : List V} {values : List α} {written : List (CatalogEvent ω)}
    (phase : Phase given? listed name outcome events visits (.ok values) written) :
    (visits.filter fun visit => !passesOver (outcome visit)).map outcome = values.map .ok := by
  cases phase with
  | toured _ tour => exact tour.ok.2

end Phases

/-- The names of the procedures are given when none are used. -/
def Settings.givenProcedures? (settings : Settings) : Option (List String) :=
  if settings.useProcedures then none else some []

namespace Introspection

variable {σ ω : Type}

/-- The phase of tables, which are selected or listed. -/
abbrev TablePhase (settings : Settings) : List TableVisit → Description ω (List Table) :=
  Phase settings.tableFilter.include? .tablesListed TableVisit.name (TableVisit.outcome .table)
    (TableVisit.events .table)

/-- The phase of views, which are always listed. -/
abbrev ViewPhase : List TableVisit → Description ω (List Table) :=
  Phase none .viewsListed TableVisit.name (TableVisit.outcome .view) (TableVisit.events .view)

/-- The phase of procedures, which are listed when they are used. -/
abbrev ProcedurePhase (settings : Settings) :
    List (ProcedureVisit ω) → Description ω (List Procedure) :=
  Phase settings.givenProcedures? .proceduresListed ProcedureVisit.name
    (ProcedureVisit.outcome settings) (ProcedureVisit.events settings)

/-- The phase of the tables of a kind makes all its calls in their part of the run. -/
theorem Phase.stage {kind : TableKind} {given? : Option (List String)}
    {listed : Except Failure (List String) → CatalogEvent ω} {visits : List TableVisit}
    {result : Except Failure (List Table)} {events : List (CatalogEvent ω)}
    (phase : Phase given? listed TableVisit.name (TableVisit.outcome kind) (TableVisit.events kind)
      visits result events)
    (listing : ∀ answer, (listed answer).stage = kind.stage) :
    ∀ event ∈ events, event.stage = kind.stage :=
  phase.forall_events listing (TableVisit.stage_events kind)

/-- The phase of procedures makes all its calls in the last part of the run. -/
theorem ProcedurePhase.stage {settings : Settings} {visits : List (ProcedureVisit ω)}
    {result : Except Failure (List Procedure)} {events : List (CatalogEvent ω)}
    (phase : ProcedurePhase settings visits result events) :
    ∀ event ∈ events, event.stage = 2 :=
  phase.forall_events (fun _ => rfl) (ProcedureVisit.stage_events settings)

/-- A request and a tour over the requested names make a phase. -/
theorem phase_recordedAs {V α : Type} {given? : Option (List String)}
    {listed : Except Failure (List String) → CatalogEvent ω} {name : V → String}
    {outcome : V → Except Failure α} {events : V → List (CatalogEvent ω)}
    {list : Reading σ (List String)}
    {recordedList : Reading (σ × List (CatalogEvent ω)) (List String)}
    {load : List String → Reading σ (List α)}
    {recordedLoad : List String → Reading (σ × List (CatalogEvent ω)) (List α)}
    (requested : RecordedAs list recordedList (Requested given? listed))
    (loaded : ∀ names, RecordedAs (load names) (recordedLoad names) fun result written =>
      ∃ visits, Tour name outcome names visits result ∧ written = visits.flatMap events) :
    RecordedAs (list >>= load) (recordedList >>= recordedLoad) fun result written =>
      ∃ visits, Phase given? listed name outcome events visits result written := by
  refine (requested.bind loaded).weaken ?_
  intro result written composed
  cases composed with
  | stopped refused => exact ⟨[], .unlisted refused⟩
  | continued answered toured =>
      obtain ⟨visits, tour, rfl⟩ := toured
      exact ⟨visits, .toured answered tour⟩

/-- How a whole run goes: a phase that fails is the last one, and the schema is what the three
phases have loaded. -/
inductive Run (settings : Settings) : List TableVisit → List TableVisit →
    List (ProcedureVisit ω) → Description ω Schema where
  | noTables {tableVisits failure tableEvents}
      (tablePhase : TablePhase settings tableVisits (.error failure) tableEvents) :
      Run settings tableVisits [] [] (.error failure) tableEvents
  | noViews {tableVisits tables tableEvents viewVisits failure viewEvents}
      (tablePhase : TablePhase settings tableVisits (.ok tables) tableEvents)
      (viewPhase : ViewPhase viewVisits (.error failure) viewEvents) :
      Run settings tableVisits viewVisits [] (.error failure) (tableEvents ++ viewEvents)
  | noProcedures {tableVisits tables tableEvents viewVisits views viewEvents procedureVisits
      failure procedureEvents}
      (tablePhase : TablePhase settings tableVisits (.ok tables) tableEvents)
      (viewPhase : ViewPhase viewVisits (.ok views) viewEvents)
      (procedurePhase : ProcedurePhase settings procedureVisits (.error failure)
        procedureEvents) :
      Run settings tableVisits viewVisits procedureVisits (.error failure)
        (tableEvents ++ (viewEvents ++ procedureEvents))
  | complete {tableVisits tables tableEvents viewVisits views viewEvents procedureVisits
      procedures procedureEvents}
      (tablePhase : TablePhase settings tableVisits (.ok tables) tableEvents)
      (viewPhase : ViewPhase viewVisits (.ok views) viewEvents)
      (procedurePhase : ProcedurePhase settings procedureVisits (.ok procedures)
        procedureEvents) :
      Run settings tableVisits viewVisits procedureVisits (.ok ⟨tables, views, procedures⟩)
        (tableEvents ++ (viewEvents ++ procedureEvents))

/-- Tables are read before views, and views before procedures. -/
theorem Run.inOrder {settings : Settings} {tableVisits viewVisits : List TableVisit}
    {procedureVisits : List (ProcedureVisit ω)} {result : Except Failure Schema}
    {events : List (CatalogEvent ω)}
    (run : Run settings tableVisits viewVisits procedureVisits result events) :
    InOrder events := by
  cases run with
  | noTables tablePhase => exact InOrder.of_stage (Phase.stage tablePhase fun _ => rfl)
  | noViews tablePhase viewPhase =>
      exact InOrder.append (Phase.stage tablePhase fun _ => rfl)
        (InOrder.of_stage (Phase.stage viewPhase fun _ => rfl)) (by simp [TableKind.stage])
  | noProcedures tablePhase viewPhase procedurePhase
  | complete tablePhase viewPhase procedurePhase =>
      refine InOrder.append (Phase.stage tablePhase fun _ => rfl)
        (InOrder.append (Phase.stage viewPhase fun _ => rfl)
          (InOrder.of_stage procedurePhase.stage) ?_) (by simp [TableKind.stage])
      intro event member
      rw [procedurePhase.stage event member]
      decide

/-- The procedures of a schema are what the visits have shown, one each. -/
theorem Run.procedures_eq {settings : Settings} {tableVisits viewVisits : List TableVisit}
    {procedureVisits : List (ProcedureVisit ω)} {schema : Schema} {events : List (CatalogEvent ω)}
    (run : Run settings tableVisits viewVisits procedureVisits (.ok schema) events) :
    procedureVisits.map (ProcedureVisit.outcome settings) = schema.procedures.map .ok := by
  cases run with
  | complete _ _ procedurePhase =>
      cases procedurePhase with
      | toured _ tour => exact tour.ok_all fun _ _ => ProcedureVisit.fatal_of_outcome

/-- The names of the tables to load. -/
def requestedTables (reader : CatalogReader σ ω) (settings : Settings) :
    Reading σ (List String) :=
  match settings.tableFilter.include? with
  | some selected => pure selected
  | none => reader.listTables

/-- The names of the procedures to load. -/
def requestedProcedures (reader : CatalogReader σ ω) (settings : Settings) :
    Reading σ (List String) :=
  if settings.useProcedures then reader.listProcedures else pure []

/-- Introspection written as its three phases in sequence. -/
theorem introspect_eq (reader : CatalogReader σ ω) (settings : Settings) :
    introspect reader settings = (do
      let tables ← requestedTables reader settings >>= loadTables reader .table
      let views ← reader.listViews >>= loadTables reader .view
      let procedures ← requestedProcedures reader settings >>=
        fun names => names.mapM (loadProcedure reader settings)
      pure ⟨tables, views, procedures⟩) := by
  unfold introspect requestedTables requestedProcedures
  cases settings.tableFilter.include? <;> cases settings.useProcedures <;>
    simp only [bind_assoc, pure_bind, if_true, Bool.false_eq_true, if_false, List.mapM_nil]

/-- Introspection is the three phases in sequence. -/
theorem introspect_recordedAs (reader : CatalogReader σ ω) (settings : Settings) :
    RecordedAs (introspect reader settings) (introspect reader.recorded settings)
      fun result events => ∃ tableVisits viewVisits procedureVisits,
        Run settings tableVisits viewVisits procedureVisits result events := by
  have tablesRequested : RecordedAs (requestedTables reader settings)
      (requestedTables reader.recorded settings)
      (Requested settings.tableFilter.include? .tablesListed) := by
    unfold requestedTables
    cases settings.tableFilter.include? with
    | some selected => exact RecordedAs.pure _
    | none => exact RecordedAs.noted _ _
  have viewsRequested : RecordedAs reader.listViews reader.recorded.listViews
      (Requested none .viewsListed) := RecordedAs.noted _ _
  have proceduresRequested : RecordedAs (requestedProcedures reader settings)
      (requestedProcedures reader.recorded settings)
      (Requested settings.givenProcedures? .proceduresListed) := by
    unfold requestedProcedures Settings.givenProcedures?
    cases settings.useProcedures with
    | true => exact RecordedAs.noted _ _
    | false => exact RecordedAs.pure _
  rw [introspect_eq, introspect_eq]
  refine ((phase_recordedAs tablesRequested (loadTables_recordedAs reader .table)).bind
    fun tables => (phase_recordedAs viewsRequested
      (loadTables_recordedAs reader .view)).bind
    fun views => (phase_recordedAs proceduresRequested
      (loadProcedures_recordedAs reader settings)).map
    fun procedures => (⟨tables, views, procedures⟩ : Schema)).weaken ?_
  intro result events composed
  -- The sequence stops in one of the phases, or it comes to the end of the last one.
  cases composed with
  | stopped tablePhase =>
      obtain ⟨tableVisits, tablePhase⟩ := tablePhase
      exact ⟨_, _, _, .noTables tablePhase⟩
  | continued tablePhase composed =>
      obtain ⟨tableVisits, tablePhase⟩ := tablePhase
      cases composed with
      | stopped viewPhase =>
          obtain ⟨viewVisits, viewPhase⟩ := viewPhase
          exact ⟨_, _, _, .noViews tablePhase viewPhase⟩
      | continued viewPhase finished =>
          obtain ⟨viewVisits, viewPhase⟩ := viewPhase
          obtain ⟨outcome, rfl, procedureVisits, procedurePhase⟩ := finished
          cases outcome with
          | error failure => exact ⟨_, _, _, .noProcedures tablePhase viewPhase procedurePhase⟩
          | ok procedures => exact ⟨_, _, _, .complete tablePhase viewPhase procedurePhase⟩

end Introspection

end DataLayer
