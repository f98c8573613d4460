import DataLayer.Proofs.Introspection.Agreement

/-!
# Readers that are interrupted

A plan says for each call of a step, by its number and its kind, whether it fails before it reaches
the reader. Readers that agree still agree when they are interrupted by one plan.
-/

namespace DataLayer

open Reading

variable {σ ω τ α β : Type}

/-- The failures that the calls of a step meet, from the first call on. -/
abbrev Interruptions : Type := Nat → Faults

/-- Nothing is interrupted. -/
def Interruptions.none : Interruptions := fun _ _ => .none

namespace Reading

/-- Counts a call, and lets it fail before it reaches the reader where the plan has a failure. -/
def interrupted (plan : Interruptions) (call : CatalogCall) (action : Reading σ α) :
    Reading (σ × Nat) α :=
  ExceptT.mk fun (state, calls) =>
    match plan calls call with
    | some failure => (.error failure, state, calls + 1)
    | none => ((action.runFrom state).1, (action.runFrom state).2, calls + 1)

/-- An interrupted call is counted even if it does not reach the reader. -/
theorem runFrom_interrupted (plan : Interruptions) (call : CatalogCall) (action : Reading σ α)
    (state : σ) (calls : Nat) :
    (action.interrupted plan call).runFrom (state, calls) =
      match plan calls call with
      | some failure => (.error failure, state, calls + 1)
      | none => ((action.runFrom state).1, (action.runFrom state).2, calls + 1) := rfl

/-- Actions that correspond still do when one plan interrupts both, since they come to the same
number of calls. -/
theorem Corresponds.interrupted {alike : σ → τ → Prop} {same : α → β → Prop}
    {left : Reading σ α} {right : Reading τ β} (corresponding : Corresponds alike same left right)
    (plan : Interruptions) (call : CatalogCall) :
    Corresponds (fun first second => alike first.1 second.1 ∧ first.2 = second.2) same
      (left.interrupted plan call) (right.interrupted plan call) := by
  rintro ⟨first, calls⟩ ⟨second, _⟩ ⟨states, rfl⟩
  rw [runFrom_interrupted, runFrom_interrupted]
  cases plan calls call with
  | some failure => exact ⟨.failed failure, states, rfl⟩
  | none =>
      obtain ⟨matched, after⟩ := corresponding first second states
      exact ⟨matched, after, rfl⟩

end Reading

namespace CatalogReader

/-- The reader with failures for some of its calls. -/
def interrupted (reader : CatalogReader σ ω) (plan : Interruptions) :
    CatalogReader (σ × Nat) ω where
  listTables := reader.listTables.interrupted plan .listTables
  listViews := reader.listViews.interrupted plan .listViews
  listProcedures := reader.listProcedures.interrupted plan .listProcedures
  tableColumns name := (reader.tableColumns name).interrupted plan .tableColumns
  viewColumns name := (reader.viewColumns name).interrupted plan .viewColumns
  primaryKeys name := (reader.primaryKeys name).interrupted plan .primaryKeys
  procedureParameters name :=
    (reader.procedureParameters name).interrupted plan .procedureParameters
  procedureDefinition name :=
    (reader.procedureDefinition name).interrupted plan .procedureDefinition
  openSession := reader.openSession.interrupted plan .openSession
  beginTransaction session := (reader.beginTransaction session).interrupted plan .beginTransaction
  execute session batch seconds :=
    (reader.execute session batch seconds).interrupted plan .execute
  rollBack session := (reader.rollBack session).interrupted plan .rollBack

/-- And so do all calls of readers that agree. -/
theorem Agrees.interrupted {first : CatalogReader σ ω} {second : CatalogReader τ ω}
    {alike : σ → τ → Prop} (agree : first.Agrees second alike) (plan : Interruptions) :
    (first.interrupted plan).Agrees (second.interrupted plan)
      fun left right => alike left.1 right.1 ∧ left.2 = right.2 where
  tablesListed := agree.tablesListed.interrupted plan _
  viewsListed := agree.viewsListed.interrupted plan _
  proceduresListed := agree.proceduresListed.interrupted plan _
  tableColumns name := (agree.tableColumns name).interrupted plan _
  viewColumns name := (agree.viewColumns name).interrupted plan _
  primaryKeys name := (agree.primaryKeys name).interrupted plan _
  parameters name := (agree.parameters name).interrupted plan _
  definition name := (agree.definition name).interrupted plan _
  opened := agree.opened.interrupted plan _
  begun session := (agree.begun session).interrupted plan _
  executed session batch seconds := (agree.executed session batch seconds).interrupted plan _
  rolledBack session := (agree.rolledBack session).interrupted plan _

end CatalogReader

end DataLayer
