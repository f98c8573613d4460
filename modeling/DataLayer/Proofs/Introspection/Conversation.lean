import DataLayer.Proofs.Introspection.Interruption

/-!
# Conversations with a catalog

A catalog is used in steps: single calls, calls in sessions that were opened earlier, and whole runs
of introspection, each of them with failures in any of its calls. On readers that agree, a sequence
of steps gets the same answers.
-/

namespace DataLayer

open Introspection Reading

/-- A step on a catalog. A session is named by its number in the order in which they were opened. -/
inductive CatalogStep where
  | listTables
  | listViews
  | listProcedures
  | tableColumns (name : String)
  | viewColumns (name : String)
  | primaryKeys (name : String)
  | procedureParameters (name : String)
  | procedureDefinition (name : String)
  | openSession
  | beginTransaction (session : Nat)
  | execute (session : Nat) (batch : String) (seconds : Nat)
  | rollBack (session : Nat)
  | introspect (settings : Settings)

/-- What a step comes to when it does not fail. -/
inductive StepValue (ω : Type) where
  | names (names : List String)
  | columns (columns : List ColumnInfo)
  | parameters (parameters : List ParameterInfo)
  | definition (definition : Option String)
  | opened (session : ω)
  | done
  | shape (shape : ResultShape)
  | schema (schema : Schema)
  /-- There is no session of the number. -/
  | noSession

/-- The session that an answer opens. -/
def StepValue.opens {ω : Type} : Except Failure (StepValue ω) → List ω
  | .ok (.opened session) => [session]
  | _ => []

namespace CatalogStep

/-- Whether the step opens a session. -/
def isOpening : CatalogStep → Bool
  | openSession => true
  | _ => false

/-- The session that the step is made in. -/
def session? : CatalogStep → Option Nat
  | beginTransaction session | execute session _ _ | rollBack session => some session
  | _ => none

variable {σ ω τ : Type}

/-- Makes a call in the session of a number. -/
def inSession (sessions : List ω) (number : Nat) (call : ω → Reading σ (StepValue ω)) :
    Reading σ (StepValue ω) :=
  match sessions[number]? with
  | some session => call session
  | none => pure .noSession

/-- The calls that a step makes, with the sessions that were opened. -/
def action (reader : CatalogReader σ ω) (sessions : List ω) :
    CatalogStep → Reading σ (StepValue ω)
  | listTables => do pure (.names (← reader.listTables))
  | listViews => do pure (.names (← reader.listViews))
  | listProcedures => do pure (.names (← reader.listProcedures))
  | tableColumns name => do pure (.columns (← reader.tableColumns name))
  | viewColumns name => do pure (.columns (← reader.viewColumns name))
  | primaryKeys name => do pure (.names (← reader.primaryKeys name))
  | procedureParameters name => do pure (.parameters (← reader.procedureParameters name))
  | procedureDefinition name => do pure (.definition (← reader.procedureDefinition name))
  | openSession => do pure (.opened (← reader.openSession))
  | beginTransaction number => inSession sessions number fun session => do
      reader.beginTransaction session
      pure .done
  | execute number batch seconds => inSession sessions number fun session => do
      pure (.shape (← reader.execute session batch seconds))
  | rollBack number => inSession sessions number fun session => do
      reader.rollBack session
      pure .done
  | introspect settings => do pure (.schema (← Introspection.introspect reader settings))

/-- Each step is answered alike by readers that agree. -/
theorem action_agrees {first : CatalogReader σ ω} {second : CatalogReader τ ω}
    {alike : σ → τ → Prop} (agree : first.Agrees second alike) (sessions : List ω)
    (step : CatalogStep) :
    Corresponds alike Eq (step.action first sessions) (step.action second sessions) := by
  -- Without a session of this number nothing is called on either side.
  have within {number : Nat} {call : ω → Reading σ (StepValue ω)}
      {other : ω → Reading τ (StepValue ω)}
      (same : ∀ session, Corresponds alike Eq (call session) (other session)) :
      Corresponds alike Eq (inSession sessions number call)
        (inSession sessions number other) := by
    unfold inSession
    split
    · exact same _
    · exact .pure rfl
  cases step with
  | listTables => exact agree.tablesListed.bindSame fun _ => .pure rfl
  | listViews => exact agree.viewsListed.bindSame fun _ => .pure rfl
  | listProcedures => exact agree.proceduresListed.bindSame fun _ => .pure rfl
  | tableColumns name => exact (agree.tableColumns name).bindSame fun _ => .pure rfl
  | viewColumns name => exact (agree.viewColumns name).bindSame fun _ => .pure rfl
  | primaryKeys name => exact (agree.primaryKeys name).bindSame fun _ => .pure rfl
  | procedureParameters name => exact (agree.parameters name).bindSame fun _ => .pure rfl
  | procedureDefinition name => exact (agree.definition name).bindSame fun _ => .pure rfl
  | openSession => exact agree.opened.bindSame fun _ => .pure rfl
  | beginTransaction number =>
      exact within fun session => (agree.begun session).bindSame fun _ => .pure rfl
  | execute number batch seconds =>
      exact within fun session => (agree.executed session batch seconds).bindSame fun _ => .pure rfl
  | rollBack number =>
      exact within fun session => (agree.rolledBack session).bindSame fun _ => .pure rfl
  | introspect settings => exact (introspect_agrees agree settings).bindSame fun _ => .pure rfl

/-- A call whose value is no session opens none. -/
theorem opens_map {α : Type} {value : α → StepValue ω}
    (closed : ∀ found, StepValue.opens (.ok (value found)) = []) (call : Reading σ α) (state : σ) :
    StepValue.opens (runFrom (do pure (value (← call))) state).1 = [] := by
  rcases reached : call.runFrom state with ⟨outcome, after⟩
  cases outcome with
  | error failure =>
      rw [runFrom_bind_error reached]
      rfl
  | ok found =>
      rw [runFrom_bind_ok reached]
      exact closed found

/-- Only an opening step comes to a session. -/
theorem opens_action {step : CatalogStep} (closed : step.isOpening = false)
    (reader : CatalogReader σ ω) (sessions : List ω) (state : σ) :
    StepValue.opens ((step.action reader sessions).runFrom state).1 = [] := by
  have within {number : Nat} {call : ω → Reading σ (StepValue ω)}
      (each : ∀ session, StepValue.opens ((call session).runFrom state).1 = []) :
      StepValue.opens ((inSession sessions number call).runFrom state).1 = [] := by
    unfold inSession
    split
    · exact each _
    · rfl
  cases step with
  | openSession => cases closed
  | beginTransaction number => exact within fun session => opens_map (fun _ => rfl) _ state
  | execute number batch seconds => exact within fun session => opens_map (fun _ => rfl) _ state
  | rollBack number => exact within fun session => opens_map (fun _ => rfl) _ state
  | _ => exact opens_map (fun _ => rfl) _ state

/-- A step in no session does not look at the sessions. -/
theorem action_of_session?_eq_none {step : CatalogStep} (outside : step.session? = none)
    (reader : CatalogReader σ ω) (sessions others : List ω) :
    step.action reader sessions = step.action reader others := by
  cases step <;> first | rfl | cases outside

end CatalogStep

/-- A step with the failures that its calls meet. -/
structure InterruptedStep where
  step : CatalogStep
  plan : Interruptions := .none

/-- Whether the step opens a session, if it is not interrupted. -/
def InterruptedStep.isOpening (interrupted : InterruptedStep) : Bool := interrupted.step.isOpening

/-- A catalog in use: the state of its reader and the sessions that were opened. -/
structure Conversation (σ ω : Type) where
  state : σ
  sessions : List ω := []

namespace Conversation

variable {σ ω τ : Type}

/-- Makes a step: its answer, and the catalog after it. -/
def perform (reader : CatalogReader σ ω) (conversation : Conversation σ ω)
    (interrupted : InterruptedStep) : Except Failure (StepValue ω) × Conversation σ ω :=
  let ran := (interrupted.step.action (reader.interrupted interrupted.plan)
    conversation.sessions).runFrom (conversation.state, 0)
  (ran.1, ⟨ran.2.1, conversation.sessions ++ StepValue.opens ran.1⟩)

/-- The answer to a step. -/
def answer (reader : CatalogReader σ ω) (conversation : Conversation σ ω)
    (interrupted : InterruptedStep) : Except Failure (StepValue ω) :=
  (conversation.perform reader interrupted).1

/-- The catalog after a step. -/
def afterStep (reader : CatalogReader σ ω) (conversation : Conversation σ ω)
    (interrupted : InterruptedStep) : Conversation σ ω :=
  (conversation.perform reader interrupted).2

/-- The catalog after the steps of a history. -/
def after (reader : CatalogReader σ ω) (conversation : Conversation σ ω)
    (history : List InterruptedStep) : Conversation σ ω :=
  history.foldl (afterStep reader) conversation

/-- Alike states with the same sessions. -/
structure Alike (alike : σ → τ → Prop) (first : Conversation σ ω) (second : Conversation τ ω) :
    Prop where
  states : alike first.state second.state
  sessions : first.sessions = second.sessions

section Agreement

variable {first : CatalogReader σ ω} {second : CatalogReader τ ω} {alike : σ → τ → Prop}
  {left : Conversation σ ω} {right : Conversation τ ω}

/-- A step has one answer on catalogs that agree, and leaves them alike. -/
theorem perform_agrees (agree : first.Agrees second alike) (same : Alike alike left right)
    (interrupted : InterruptedStep) :
    left.answer first interrupted = right.answer second interrupted ∧
      Alike alike (left.afterStep first interrupted) (right.afterStep second interrupted) := by
  have corresponding := CatalogStep.action_agrees (agree.interrupted interrupted.plan)
    left.sessions interrupted.step
  obtain ⟨matched, states, -⟩ := corresponding (left.state, 0) (right.state, 0) ⟨same.states, rfl⟩
  have answers := matched.eq
  rw [same.sessions] at answers states
  have answered : left.answer first interrupted = right.answer second interrupted := by
    unfold answer perform
    rw [same.sessions]
    exact answers
  refine ⟨answered, ?_, ?_⟩
  · unfold afterStep perform
    rw [same.sessions]
    exact states
  · exact congrArg₂ (· ++ ·) same.sessions (congrArg StepValue.opens answered)

/-- Catalogs that agree still agree after any history. The induction is on the history, from the
first step on. -/
theorem after_agrees (agree : first.Agrees second alike) (same : Alike alike left right)
    (history : List InterruptedStep) :
    Alike alike (left.after first history) (right.after second history) := by
  induction history generalizing left right with
  | nil => exact same
  | cons interrupted history ih => exact ih (perform_agrees agree same interrupted).2

end Agreement

/-- Only an opening step opens a session. -/
theorem sessions_afterStep {interrupted : InterruptedStep}
    (closed : interrupted.isOpening = false) (reader : CatalogReader σ ω)
    (conversation : Conversation σ ω) :
    (conversation.afterStep reader interrupted).sessions = conversation.sessions := by
  unfold afterStep perform
  dsimp only
  rw [CatalogStep.opens_action closed, List.append_nil]

/-- A step in no session has one answer whatever sessions there are. -/
theorem answer_of_session?_eq_none {interrupted : InterruptedStep}
    (outside : interrupted.step.session? = none) (reader : CatalogReader σ ω) (state : σ)
    (sessions others : List ω) :
    answer reader ⟨state, sessions⟩ interrupted = answer reader ⟨state, others⟩ interrupted := by
  unfold answer perform
  rw [CatalogStep.action_of_session?_eq_none outside _ sessions others]

end Conversation

end DataLayer
