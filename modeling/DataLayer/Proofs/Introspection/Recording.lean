import DataLayer.Introspection

/-!
# Recorded readers

`CatalogReader.recorded` turns any reader into one that also writes down every call with its
answer. `Reading.RecordedAs` says that an action on the recorded reader does what it does on the
plain one, and that its outcome and the written events fit a description. Descriptions compose as
the actions do, so every loading step needs to be described only once.
-/

namespace DataLayer

/-- A call on a catalog with its answer. -/
inductive CatalogEvent (ω : Type) where
  | tablesListed (answer : Except Failure (List String))
  | viewsListed (answer : Except Failure (List String))
  | proceduresListed (answer : Except Failure (List String))
  | tableColumnsRead (name : String) (answer : Except Failure (List ColumnInfo))
  | viewColumnsRead (name : String) (answer : Except Failure (List ColumnInfo))
  | primaryKeysRead (name : String) (answer : Except Failure (List String))
  | parametersRead (name : String) (answer : Except Failure (List ParameterInfo))
  | definitionRead (name : String) (answer : Except Failure (Option String))
  | sessionOpened (answer : Except Failure ω)
  | transactionBegun (session : ω) (answer : Except Failure Unit)
  | batchExecuted (session : ω) (batch : String) (seconds : Nat)
      (answer : Except Failure ResultShape)
  | transactionRolledBack (session : ω) (answer : Except Failure Unit)

namespace Reading

variable {σ ω α β : Type}

/-- The outcome of an action, and the state after it. -/
def runFrom (action : Reading σ α) (state : σ) : Except Failure α × σ := action.run state

@[simp] theorem runFrom_conclude (outcome : Except Failure α) (state : σ) :
    runFrom (conclude outcome) state = (outcome, state) := rfl

@[simp] theorem runFrom_attempt (action : Reading σ α) (state : σ) :
    runFrom action.attempt state = (.ok (action.runFrom state).1, (action.runFrom state).2) := rfl

@[simp] theorem runFrom_adapt (change : Failure → Failure) (action : Reading σ α) (state : σ) :
    runFrom (ExceptT.adapt change action) state =
      ((action.runFrom state).1.mapError change, (action.runFrom state).2) := rfl

private theorem runFrom_bind (action : Reading σ α) (next : α → Reading σ β) (state : σ) :
    runFrom (action >>= next) state =
      (ExceptT.bindCont next (action.runFrom state).1 : StateM σ (Except Failure β))
        (action.runFrom state).2 := rfl

/-- After a value, the rest of a sequence runs from the state that was reached. -/
theorem runFrom_bind_ok {action : Reading σ α} {state after : σ} {value : α}
    (finished : action.runFrom state = (.ok value, after)) (next : α → Reading σ β) :
    runFrom (action >>= next) state = (next value).runFrom after := by
  rw [runFrom_bind, finished]
  rfl

/-- After a failure, the rest of a sequence does not run. -/
theorem runFrom_bind_error {action : Reading σ α} {state after : σ} {failure : Failure}
    (stopped : action.runFrom state = (.error failure, after)) (next : α → Reading σ β) :
    runFrom (action >>= next) state = (.error failure, after) := by
  rw [runFrom_bind, stopped]
  rfl

/-- Runs an action and writes down the event that its outcome makes. -/
def noted (event : Except Failure α → CatalogEvent ω) (action : Reading σ α) :
    Reading (σ × List (CatalogEvent ω)) α :=
  ExceptT.mk fun (state, events) =>
    let (outcome, after) := action.runFrom state
    (outcome, after, events ++ [event outcome])

/-- What an action may come to: an outcome together with the events on the way. -/
abbrev Description (ω α : Type) : Type := Except Failure α → List (CatalogEvent ω) → Prop

/-- The recorded action does what the plain one does, writes its events after the earlier ones,
and outcome and events fit the description. -/
def RecordedAs (plain : Reading σ α) (recorded : Reading (σ × List (CatalogEvent ω)) α)
    (description : Description ω α) : Prop :=
  ∀ state before, ∃ events,
    recorded.runFrom (state, before) =
      ((plain.runFrom state).1, (plain.runFrom state).2, before ++ events) ∧
    description (plain.runFrom state).1 events

/-- The description of two actions in sequence. -/
inductive Composed (first : Description ω α) (next : α → Description ω β) : Description ω β where
  | stopped {failure events} (described : first (.error failure) events) :
      Composed first next (.error failure) events
  | continued {value before outcome after} (described : first (.ok value) before)
      (followed : next value outcome after) :
      Composed first next outcome (before ++ after)

namespace RecordedAs

variable {plain : Reading σ α} {recorded : Reading (σ × List (CatalogEvent ω)) α}
  {description : Description ω α}

/-- A description may be weakened. -/
theorem weaken {weaker : Description ω α} (described : RecordedAs plain recorded description)
    (implied : ∀ outcome events, description outcome events → weaker outcome events) :
    RecordedAs plain recorded weaker := by
  intro state before
  obtain ⟨events, same, fits⟩ := described state before
  exact ⟨events, same, implied _ _ fits⟩

/-- A noted call is recorded with its outcome. -/
theorem noted (event : Except Failure α → CatalogEvent ω) (action : Reading σ α) :
    RecordedAs action (action.noted event) fun outcome events => events = [event outcome] := by
  intro state before
  exact ⟨[event (action.runFrom state).1], rfl, rfl⟩

/-- An outcome that is given makes no call, -/
theorem conclude (outcome : Except Failure α) :
    RecordedAs (Reading.conclude outcome : Reading σ α)
      (Reading.conclude outcome : Reading (σ × List (CatalogEvent ω)) α)
      fun result events => result = outcome ∧ events = [] := by
  intro state before
  exact ⟨[], by simp, by simp⟩

/-- nor does a value, -/
theorem pure (value : α) :
    RecordedAs (pure value : Reading σ α) (pure value : Reading (σ × List (CatalogEvent ω)) α)
      fun result events => result = .ok value ∧ events = [] :=
  conclude (.ok value)

/-- nor does a failure. -/
theorem throw (failure : Failure) :
    RecordedAs (throw failure : Reading σ α)
      (throw failure : Reading (σ × List (CatalogEvent ω)) α)
      fun result events => result = .error failure ∧ events = [] :=
  conclude (.error failure)

/-- A change of failures changes no calls. -/
theorem adapt (described : RecordedAs plain recorded description)
    (change : Failure → Failure) :
    RecordedAs (ExceptT.adapt change plain) (ExceptT.adapt change recorded) fun result events =>
      ∃ outcome, result = outcome.mapError change ∧ description outcome events := by
  intro state before
  obtain ⟨events, same, fits⟩ := described state before
  exact ⟨events, by simp [same], _, rfl, fits⟩

/-- What is concluded from a value makes no further call. -/
theorem thenConclude (described : RecordedAs plain recorded description)
    (judge : α → Except Failure β) :
    RecordedAs (do let value ← plain; Reading.conclude (judge value))
      (do let value ← recorded; Reading.conclude (judge value)) fun result events =>
      ∃ outcome, result = outcome.bind judge ∧ description outcome events := by
  intro state before
  obtain ⟨events, same, fits⟩ := described state before
  rcases reached : plain.runFrom state with ⟨outcome, after⟩
  rw [reached] at same fits
  refine ⟨events, ?_, outcome, ?_, fits⟩
  · cases outcome with
    | error failure => rw [runFrom_bind_error same, runFrom_bind_error reached]
    | ok value => rw [runFrom_bind_ok same, runFrom_bind_ok reached]; rfl
  · cases outcome with
    | error failure => rw [runFrom_bind_error reached]; rfl
    | ok value => rw [runFrom_bind_ok reached]; rfl

/-- A changed value is recorded with the calls of the original one. -/
theorem map (described : RecordedAs plain recorded description) (change : α → β) :
    RecordedAs (do let value ← plain; Pure.pure (change value))
      (do let value ← recorded; Pure.pure (change value)) fun result events =>
      ∃ outcome, result = outcome.map change ∧ description outcome events := by
  refine (described.thenConclude fun value => .ok (change value)).weaken ?_
  rintro _ events ⟨outcome, rfl, fits⟩
  refine ⟨outcome, ?_, fits⟩
  cases outcome <;> rfl

/-- Actions one after the other are recorded one after the other, up to the first failure. -/
theorem bind (described : RecordedAs plain recorded description)
    {next : α → Reading σ β} {recordedNext : α → Reading (σ × List (CatalogEvent ω)) β}
    {following : α → Description ω β}
    (followed : ∀ value, RecordedAs (next value) (recordedNext value) (following value)) :
    RecordedAs (plain >>= next) (recorded >>= recordedNext) (Composed description following) := by
  intro state before
  obtain ⟨events, same, fits⟩ := described state before
  rcases reached : plain.runFrom state with ⟨outcome, after⟩
  rw [reached] at same fits
  cases outcome with
  | error failure =>
      refine ⟨events, ?_, ?_⟩
      · rw [runFrom_bind_error same, runFrom_bind_error reached]
      · rw [runFrom_bind_error reached]
        exact .stopped fits
  | ok value =>
      obtain ⟨more, sameNext, fitsNext⟩ := followed value after (before ++ events)
      refine ⟨events ++ more, ?_, ?_⟩
      · rw [runFrom_bind_ok same, runFrom_bind_ok reached, sameNext, List.append_assoc]
      · rw [runFrom_bind_ok reached]
        exact .continued fits fitsNext

/-- An attempt never stops a sequence, so what follows is described for every outcome. -/
theorem attemptBind (described : RecordedAs plain recorded description)
    {next : Except Failure α → Reading σ β}
    {recordedNext : Except Failure α → Reading (σ × List (CatalogEvent ω)) β}
    {following : Except Failure α → Description ω β}
    (followed : ∀ outcome,
      RecordedAs (next outcome) (recordedNext outcome) (following outcome)) :
    RecordedAs (plain.attempt >>= next) (recorded.attempt >>= recordedNext)
      fun result events => ∃ outcome before after,
        description outcome before ∧ following outcome result after ∧
        events = before ++ after := by
  intro state before
  obtain ⟨events, same, fits⟩ := described state before
  rcases reached : plain.runFrom state with ⟨outcome, after⟩
  rw [reached] at same fits
  have attempted : plain.attempt.runFrom state = (.ok outcome, after) := by
    rw [runFrom_attempt, reached]
  have recordedAttempted :
      recorded.attempt.runFrom (state, before) = (.ok outcome, after, before ++ events) := by
    rw [runFrom_attempt, same]
  obtain ⟨more, sameNext, fitsNext⟩ := followed outcome after (before ++ events)
  refine ⟨events ++ more, ?_, outcome, events, more, fits, ?_, rfl⟩
  · rw [runFrom_bind_ok recordedAttempted, runFrom_bind_ok attempted, sameNext,
      List.append_assoc]
  · rw [runFrom_bind_ok attempted]
    exact fitsNext

end RecordedAs

end Reading

namespace CatalogReader

variable {σ ω : Type}

/-- The reader with a record of its calls: every call is handed on and written down with its
answer. -/
def recorded (reader : CatalogReader σ ω) :
    CatalogReader (σ × List (CatalogEvent ω)) ω where
  listTables := reader.listTables.noted .tablesListed
  listViews := reader.listViews.noted .viewsListed
  listProcedures := reader.listProcedures.noted .proceduresListed
  tableColumns name := (reader.tableColumns name).noted (.tableColumnsRead name)
  viewColumns name := (reader.viewColumns name).noted (.viewColumnsRead name)
  primaryKeys name := (reader.primaryKeys name).noted (.primaryKeysRead name)
  procedureParameters name := (reader.procedureParameters name).noted (.parametersRead name)
  procedureDefinition name := (reader.procedureDefinition name).noted (.definitionRead name)
  openSession := reader.openSession.noted .sessionOpened
  beginTransaction session :=
    (reader.beginTransaction session).noted (.transactionBegun session)
  execute session batch seconds :=
    (reader.execute session batch seconds).noted (.batchExecuted session batch seconds)
  rollBack session := (reader.rollBack session).noted (.transactionRolledBack session)

end CatalogReader

end DataLayer
