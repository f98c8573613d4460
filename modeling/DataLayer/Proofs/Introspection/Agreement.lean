import DataLayer.Proofs.Introspection.Correspondence
import DataLayer.Proofs.Introspection.Transcript

/-!
# Introspection on readers that agree

Introspection does nothing but call its reader, so on two readers that answer alike it comes to the
same schema. Readers that answer alike only where no session is concerned still lead it the same way
up to the samples.
-/

namespace DataLayer

open Introspection Reading

variable {σ ω τ ψ : Type}

/-- From alike states two readers answer every call alike that concerns no session. -/
structure CatalogReader.AgreesOnObjects (first : CatalogReader σ ω) (second : CatalogReader τ ψ)
    (alike : σ → τ → Prop) : Prop where
  tablesListed : Corresponds alike Eq first.listTables second.listTables
  viewsListed : Corresponds alike Eq first.listViews second.listViews
  proceduresListed : Corresponds alike Eq first.listProcedures second.listProcedures
  tableColumns : ∀ name, Corresponds alike Eq (first.tableColumns name) (second.tableColumns name)
  viewColumns : ∀ name, Corresponds alike Eq (first.viewColumns name) (second.viewColumns name)
  primaryKeys : ∀ name, Corresponds alike Eq (first.primaryKeys name) (second.primaryKeys name)
  parameters : ∀ name,
    Corresponds alike Eq (first.procedureParameters name) (second.procedureParameters name)
  definition : ∀ name,
    Corresponds alike Eq (first.procedureDefinition name) (second.procedureDefinition name)

/-- From alike states two readers answer every call alike, and open the same sessions. -/
structure CatalogReader.Agrees (first : CatalogReader σ ω) (second : CatalogReader τ ω)
    (alike : σ → τ → Prop) : Prop extends first.AgreesOnObjects second alike where
  opened : Corresponds alike Eq first.openSession second.openSession
  begun : ∀ session,
    Corresponds alike Eq (first.beginTransaction session) (second.beginTransaction session)
  executed : ∀ session batch seconds,
    Corresponds alike Eq (first.execute session batch seconds)
      (second.execute session batch seconds)
  rolledBack : ∀ session, Corresponds alike Eq (first.rollBack session) (second.rollBack session)

namespace Introspection

section Objects

variable {first : CatalogReader σ ω} {second : CatalogReader τ ψ} {alike : σ → τ → Prop}
  {same : Procedure → Procedure → Prop}

/-- The columns of a table or view are read alike, -/
theorem loadColumns_corresponds (agree : first.AgreesOnObjects second alike) (name : String)
    (kind : TableKind) :
    Corresponds alike Eq (loadColumns first name kind) (loadColumns second name kind) := by
  cases kind with
  | table => exact (agree.tableColumns name).bindSame fun _ => .pure rfl
  | view => exact (agree.viewColumns name).bindSame fun _ => .pure rfl

/-- and so are they with the keys, -/
theorem loadTable_corresponds (agree : first.AgreesOnObjects second alike) (name : String)
    (kind : TableKind) :
    Corresponds alike Eq (loadTable first name kind) (loadTable second name kind) := by
  refine (loadColumns_corresponds agree name kind).bindSame fun columns => ?_
  cases kind with
  | table => exact (agree.primaryKeys name).bindSame fun _ => .pure rfl
  | view => exact .pure rfl

/-- and so are all tables of a list. -/
theorem loadTables_corresponds (agree : first.AgreesOnObjects second alike) (kind : TableKind)
    (names : List String) :
    Corresponds alike Eq (loadTables first kind names) (loadTables second kind names) := by
  induction names with
  | nil => exact .pure rfl
  | cons name names ih =>
      refine (loadTable_corresponds agree name kind).attempt.bind ?_
      rintro _ _ (failure | ⟨rfl⟩)
      · by_cases fatal : failure.isFatal
        · simp only [fatal, if_true]
          exact .throw failure
        · simp only [fatal]
          exact ih
      · exact ih.bindSame fun _ => .pure rfl

/-- The parameters of a procedure are read alike. -/
theorem loadParameters_corresponds (agree : first.AgreesOnObjects second alike)
    (procedure : String) :
    Corresponds alike Eq (loadParameters first procedure) (loadParameters second procedure) :=
  (agree.parameters procedure).bindSame fun infos => .conclude (.refl (Parameter.ofInfos infos))

/-- A procedure that is left half loaded does not depend on the reader. -/
theorem stopEarly_corresponds (itself : ∀ procedure, same procedure procedure)
    (procedure : Procedure) (failure : Failure) :
    Corresponds alike same (stopEarly procedure failure) (stopEarly procedure failure) := by
  unfold stopEarly
  split
  · exact .throw failure
  · exact .pure (itself _)

/-- Procedures are read alike up to what becomes of them with their samples. -/
theorem loadProcedure_corresponds (agree : first.AgreesOnObjects second alike)
    (itself : ∀ procedure, same procedure procedure) {settings : Settings}
    (sampled : ∀ procedure,
      Corresponds alike same (addSample first settings procedure)
        (addSample second settings procedure)) (name : String) :
    Corresponds alike same (loadProcedure first settings name)
      (loadProcedure second settings name) := by
  refine (loadParameters_corresponds agree name).attempt.bind ?_
  rintro _ _ (failure | ⟨rfl⟩)
  · exact stopEarly_corresponds itself _ failure
  · refine (agree.definition name).attempt.bind ?_
    rintro _ _ (failure | ⟨rfl⟩)
    · exact stopEarly_corresponds itself _ failure
    · exact sampled _

/-- Introspection comes to the same tables and views, and to procedures that are related one by one,
when what becomes of a procedure with its sample is related. -/
theorem introspect_corresponds (agree : first.AgreesOnObjects second alike)
    (itself : ∀ procedure, same procedure procedure) {settings : Settings}
    (sampled : ∀ procedure,
      Corresponds alike same (addSample first settings procedure)
        (addSample second settings procedure)) :
    Corresponds alike
      (fun left right => right.tables = left.tables ∧ right.views = left.views ∧
        List.Forall₂ same left.procedures right.procedures)
      (introspect first settings) (introspect second settings) := by
  have tablesRequested : Corresponds alike Eq (requestedTables first settings)
      (requestedTables second settings) := by
    unfold requestedTables
    cases settings.tableFilter.include? with
    | some selected => exact .pure rfl
    | none => exact agree.tablesListed
  have proceduresRequested : Corresponds alike Eq (requestedProcedures first settings)
      (requestedProcedures second settings) := by
    unfold requestedProcedures
    cases settings.useProcedures with
    | true => exact agree.proceduresListed
    | false => exact .pure rfl
  rw [introspect_eq, introspect_eq]
  refine (tablesRequested.bindSame (loadTables_corresponds agree .table)).bindSame fun tables => ?_
  refine (agree.viewsListed.bindSame (loadTables_corresponds agree .view)).bindSame fun views => ?_
  refine (proceduresRequested.bindSame
    (.mapM (loadProcedure_corresponds agree itself sampled))).bind ?_
  exact fun _ _ procedures => .pure ⟨rfl, rfl, procedures⟩

end Objects

section Sessions

variable {first : CatalogReader σ ω} {second : CatalogReader τ ω} {alike : σ → τ → Prop}

/-- The calls of a sample are answered alike, so its outcome is the same. -/
theorem captureSample_agrees (agree : first.Agrees second alike) (procedure batch : String)
    (seconds : Nat) :
    Corresponds alike Eq (captureSample first procedure batch seconds)
      (captureSample second procedure batch seconds) := by
  refine (agree.opened.adapt _).bindSame fun session => ?_
  refine ((agree.begun session).adapt _).bindSame fun _ => ?_
  refine (agree.executed session batch seconds).attempt.bind fun outcome other matched => ?_
  refine (agree.rolledBack session).attempt.bind fun _ _ _ => ?_
  rw [matched.eq]
  exact .conclude (.refl _)

/-- Procedures get the same samples. -/
theorem addSample_agrees (agree : first.Agrees second alike) (settings : Settings)
    (procedure : Procedure) :
    Corresponds alike Eq (addSample first settings procedure)
      (addSample second settings procedure) := by
  unfold addSample
  split
  · refine Corresponds.bindSame ?_ fun _ => .pure rfl
    refine (captureSample_agrees agree _ _ _).attempt.bind fun outcome other matched => ?_
    rw [matched.eq]
    exact .pure rfl
  · exact .pure rfl

/-- On two readers that agree in all calls, introspection comes to the same outcome. -/
theorem introspect_agrees (agree : first.Agrees second alike) (settings : Settings) :
    Corresponds alike Eq (introspect first settings) (introspect second settings) := by
  refine (introspect_corresponds agree.toAgreesOnObjects (fun _ => rfl)
    (addSample_agrees agree settings)).weaken ?_
  rintro left right ⟨tables, views, procedures⟩
  rw [List.forall₂_eq_eq_eq] at procedures
  cases left
  cases right
  cases tables
  cases views
  cases procedures
  rfl

end Sessions

end Introspection

end DataLayer
