import DataLayer.Proofs.Introspection.Visit
import DataLayer.Proofs.Outcomes

/-!
# Tours over named objects

Introspection visits tables, views and procedures in turn. `Tour` is the relation between the
names, the visits that were made and the result: what could be read is kept, an object with a
failure that is not fatal is left out, and a fatal failure ends the tour.
-/

namespace DataLayer

open Introspection Reading

/-- The failure of an outcome, if it is fatal. -/
def fatalFailure? {α : Type} : Except Failure α → Option Failure
  | .error failure => if failure.isFatal then some failure else none
  | .ok _ => none

/-- Whether an outcome is a failure that leaves out one object and lets the others be read. -/
def passesOver {α : Type} : Except Failure α → Bool
  | .error failure => !failure.isFatal
  | .ok _ => false

/-- The visits made for a list of names, and what they come to together. -/
inductive Tour {V α : Type} (name : V → String) (outcome : V → Except Failure α) :
    List String → List V → Except Failure (List α) → Prop where
  | done : Tour name outcome [] [] (.ok [])
  | kept {visit value names visits result} (read : outcome visit = .ok value)
      (rest : Tour name outcome names visits result) :
      Tour name outcome (name visit :: names) (visit :: visits) (result.map (value :: ·))
  | leftOut {visit failure names visits result} (unread : outcome visit = .error failure)
      (passing : failure.isFatal = false) (rest : Tour name outcome names visits result) :
      Tour name outcome (name visit :: names) (visit :: visits) result
  | ended {visit failure names} (unread : outcome visit = .error failure)
      (fatal : failure.isFatal = true) :
      Tour name outcome (name visit :: names) [visit] (.error failure)

namespace Tour

variable {V α : Type} {name : V → String} {outcome : V → Except Failure α}
  {names : List String} {visits : List V}

/-- A tour fails with the first fatal failure among its visits, and with nothing else. -/
theorem failure?_eq {result : Except Failure (List α)}
    (tour : Tour name outcome names visits result) :
    failure? result = visits.findSome? fun visit => fatalFailure? (outcome visit) := by
  induction tour with
  | done => rfl
  | @kept visit value _ _ result read rest ih =>
      have passed : fatalFailure? (outcome visit) = none := by rw [read]; rfl
      simp only [List.findSome?_cons, passed]
      rw [← ih]
      cases result <;> rfl
  | @leftOut visit failure _ _ _ unread passing rest ih =>
      have passed : fatalFailure? (outcome visit) = none := by
        simp [fatalFailure?, unread, passing]
      simpa only [List.findSome?_cons, passed] using ih
  | ended unread fatal =>
      simp [fatalFailure?, failure?, unread, fatal]

/-- A tour that comes to its end has visited every name, and has kept every object but those it
passed over. -/
theorem ok {values : List α} (tour : Tour name outcome names visits (.ok values)) :
    visits.map name = names ∧
      (visits.filter fun visit => !passesOver (outcome visit)).map outcome = values.map .ok := by
  generalize finished : Except.ok values = result at tour
  induction tour generalizing values with
  | done => cases finished; exact ⟨rfl, rfl⟩
  | @kept _ _ _ _ result read rest ih =>
      cases result with
      | error failure => cases finished
      | ok others =>
          cases finished
          obtain ⟨visited, kept⟩ := ih rfl
          refine ⟨by rw [List.map_cons, visited], ?_⟩
          rw [List.filter_cons_of_pos (by simp [read, passesOver]), List.map_cons, kept, read]
          rfl
  | leftOut unread passing rest ih =>
      obtain ⟨visited, kept⟩ := ih finished
      refine ⟨by rw [List.map_cons, visited], ?_⟩
      rw [List.filter_cons_of_neg (by simp [unread, passesOver, passing]), kept]
  | ended unread fatal => cases finished

/-- Where only fatal failures occur, a tour that comes to its end keeps every object. -/
theorem ok_all {values : List α} (tour : Tour name outcome names visits (.ok values))
    (strict : ∀ visit failure, outcome visit = .error failure → failure.isFatal = true) :
    visits.map outcome = values.map .ok := by
  have noneOver : ∀ visit ∈ visits, (!passesOver (outcome visit)) = true := by
    intro visit _
    cases read : outcome visit with
    | error failure => simp [passesOver, strict visit failure read]
    | ok value => rfl
  rw [← tour.ok.2, List.filter_eq_self.mpr noneOver]

end Tour

/-- Only a failure that ends the run keeps a procedure from being loaded. -/
theorem Procedure.fatal_of_stoppedBy {procedure : Procedure} {reason failure : Failure}
    (stopped : procedure.stoppedBy reason = .error failure) : failure.isFatal = true := by
  unfold Procedure.stoppedBy at stopped
  split at stopped
  · rename_i fatal
    cases stopped
    exact fatal
  · cases stopped

/-- A procedure that is not kept at all has met a fatal failure. -/
theorem ProcedureVisit.fatal_of_outcome {ω : Type} {settings : Settings} {visit : ProcedureVisit ω}
    {failure : Failure} (unread : visit.outcome settings = .error failure) :
    failure.isFatal = true := by
  unfold ProcedureVisit.outcome at unread
  split at unread
  · exact Procedure.fatal_of_stoppedBy unread
  · cases unread

namespace Introspection

variable {σ ω : Type}

/-- Loading tables or views is a tour over them. -/
theorem loadTables_recordedAs (reader : CatalogReader σ ω) (kind : TableKind)
    (names : List String) :
    RecordedAs (loadTables reader kind names) (loadTables reader.recorded kind names)
      fun result events => ∃ visits,
        Tour TableVisit.name (TableVisit.outcome kind) names visits result ∧
        events = visits.flatMap (TableVisit.events kind) := by
  induction names with
  | nil =>
      refine (RecordedAs.pure []).weaken ?_
      rintro _ _ ⟨rfl, rfl⟩
      exact ⟨[], .done, rfl⟩
  | cons name names ih =>
      -- The rest of the tour is fixed by the outcome of the first visit, not by its answers.
      refine ((loadTable_recordedAs reader name kind).attemptBind fun outcome =>
        (?_ : RecordedAs _ _ fun result events => ∃ visits,
          (∀ visit : TableVisit, visit.name = name → visit.outcome kind = outcome →
            Tour TableVisit.name (TableVisit.outcome kind) (name :: names) (visit :: visits)
              result) ∧
          events = visits.flatMap (TableVisit.events kind))).weaken ?_
      · cases outcome with
        | ok table =>
            refine (ih.map (table :: ·)).weaken ?_
            rintro _ _ ⟨result, rfl, visits, tour, rfl⟩
            exact ⟨visits, fun visit named read => named ▸ .kept read tour, rfl⟩
        | error failure =>
            cases fatal : failure.isFatal with
            | true =>
                simp only [fatal, if_true]
                refine (RecordedAs.throw failure).weaken ?_
                rintro _ _ ⟨rfl, rfl⟩
                exact ⟨[], fun visit named unread => named ▸ .ended unread fatal, rfl⟩
            | false =>
                simp only [fatal]
                refine ih.weaken ?_
                rintro _ _ ⟨visits, tour, rfl⟩
                exact ⟨visits, fun visit named unread => named ▸ .leftOut unread fatal tour, rfl⟩
      · rintro _ _ ⟨_, _, _, ⟨visit, named, rfl, rfl⟩, ⟨visits, tour, rfl⟩, rfl⟩
        exact ⟨visit :: visits, tour visit named rfl, rfl⟩

/-- Loading procedures is a tour over them. -/
theorem loadProcedures_recordedAs (reader : CatalogReader σ ω) (settings : Settings)
    (names : List String) :
    RecordedAs (names.mapM (loadProcedure reader settings))
      (names.mapM (loadProcedure reader.recorded settings))
      fun result events => ∃ visits : List (ProcedureVisit ω),
        Tour ProcedureVisit.name (ProcedureVisit.outcome settings) names visits result ∧
        events = visits.flatMap (ProcedureVisit.events settings) := by
  induction names with
  | nil =>
      refine (RecordedAs.pure []).weaken ?_
      rintro _ _ ⟨rfl, rfl⟩
      exact ⟨[], .done, rfl⟩
  | cons name names ih =>
      rw [List.mapM_cons, List.mapM_cons]
      refine ((loadProcedure_recordedAs reader settings name).bind fun procedure =>
        ih.map (procedure :: ·)).weaken ?_
      intro result events composed
      cases composed with
      | stopped visited =>
          obtain ⟨visit, rfl, unread, rfl⟩ := visited
          -- A procedure is kept with its error unless the error ends the run.
          have fatal := ProcedureVisit.fatal_of_outcome unread.symm
          exact ⟨[visit], .ended unread.symm fatal, by simp⟩
      | continued visited toured =>
          obtain ⟨visit, rfl, read, rfl⟩ := visited
          obtain ⟨rest, rfl, visits, tour, rfl⟩ := toured
          exact ⟨visit :: visits, .kept read.symm tour, rfl⟩

end Introspection

end DataLayer
