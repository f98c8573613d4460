import DataLayer.Failure
import Mathlib.Data.List.Forall2

/-!
# Outcomes of many steps

A step that may fail is done for every member of a list. All of it succeeds exactly when every
single step does, and otherwise the first failure is the outcome.
-/

namespace DataLayer

/-- The failure of an outcome. -/
def failure? {α : Type} : Except Failure α → Option Failure
  | .error failure => some failure
  | .ok _ => none

@[simp] theorem failure?_eq_some_iff {α : Type} {outcome : Except Failure α}
    {failure : Failure} : failure? outcome = some failure ↔ outcome = .error failure := by
  cases outcome <;> simp [failure?]

section Outcomes

variable {V α : Type} {outcome : V → Except Failure α}

/-- All steps succeed with the given values exactly when each one does with its own. -/
theorem mapM_eq_ok_iff {members : List V} {values : List α} :
    members.mapM outcome = .ok values ↔ members.map outcome = values.map .ok := by
  induction members generalizing values with
  | nil => cases values <;> simp [pure, Except.pure]
  | cons member members ih =>
      rw [List.mapM_cons, List.map_cons]
      cases read : outcome member with
      | error failure => cases values <;> simp [bind, Except.bind]
      | ok value =>
          cases others : members.mapM outcome with
          | error failure =>
              cases values with
              | nil => simp [bind, Except.bind]
              | cons first rest => simp [bind, Except.bind, ← ih, others]
          | ok found =>
              cases values with
              | nil => simp [bind, Except.bind, pure, Except.pure]
              | cons first rest => simp [bind, Except.bind, pure, Except.pure, ← ih, others]

/-- Steps that all succeed give the list of their values. -/
theorem mapM_eq_ok_map {value : V → α} (read : ∀ member, outcome member = .ok (value member))
    (members : List V) : members.mapM outcome = .ok (members.map value) := by
  rw [mapM_eq_ok_iff, List.map_map]
  exact List.map_congr_left fun member _ => read member

/-- Every value comes from a member. -/
theorem exists_member_of_mapM {members : List V} {values : List α}
    (read : members.mapM outcome = .ok values) {value : α} (among : value ∈ values) :
    ∃ member ∈ members, outcome member = .ok value := by
  have here : .ok value ∈ values.map (Except.ok (ε := Failure)) := List.mem_map_of_mem among
  rw [← mapM_eq_ok_iff.mp read] at here
  exact List.mem_map.mp here

/-- Every member has a value. -/
theorem exists_value_of_mapM {members : List V} {values : List α}
    (read : members.mapM outcome = .ok values) {member : V} (among : member ∈ members) :
    ∃ value ∈ values, outcome member = .ok value := by
  have here : outcome member ∈ members.map outcome := List.mem_map_of_mem among
  rw [mapM_eq_ok_iff.mp read] at here
  obtain ⟨value, valued, same⟩ := List.mem_map.mp here
  exact ⟨value, valued, same.symm⟩

/-- What is made of a value never adds a failure. -/
theorem failure?_bind_pure {β : Type} (result : Except Failure α) (change : α → β) :
    failure? (do let value ← result; pure (change value)) = failure? result := by
  cases result <;> rfl

/-- Of many steps the first failure is the outcome. -/
theorem failure?_mapM (members : List V) :
    failure? (members.mapM outcome) =
      members.findSome? fun member => failure? (outcome member) := by
  induction members with
  | nil => rfl
  | cons member members ih =>
      rw [List.mapM_cons, List.findSome?_cons, ← ih]
      cases outcome member with
      | error failure => rfl
      | ok value => cases members.mapM outcome <;> rfl

/-- What each value shows of its member can be told from the members. -/
theorem map_eq_of_outcomes {γ : Type} {label : V → γ} {shown : α → γ}
    (same : ∀ visit value, outcome visit = .ok value → shown value = label visit)
    {visits : List V} {values : List α} (kept : visits.map outcome = values.map .ok) :
    values.map shown = visits.map label := by
  induction visits generalizing values with
  | nil =>
      cases values with
      | nil => rfl
      | cons value values => cases kept
  | cons visit visits ih =>
      cases values with
      | nil => cases kept
      | cons value values =>
          obtain ⟨read, others⟩ := List.cons.inj kept
          rw [List.map_cons, List.map_cons, same visit value read, ih others]

/-- The values stand beside the members they come from. -/
theorem outcome_of_mem_zip {visits : List V} {values : List α}
    (kept : visits.map outcome = values.map .ok) {visit : V} {value : α}
    (paired : (visit, value) ∈ visits.zip values) : outcome visit = .ok value := by
  induction visits generalizing values with
  | nil => cases paired
  | cons first visits ih =>
      cases values with
      | nil => cases paired
      | cons _ values =>
          obtain ⟨read, others⟩ := List.cons.inj kept
          rcases List.mem_cons.mp paired with same | later
          · cases same
            exact read
          · exact ih others later

end Outcomes

/-- Members that are related one by one agree in what related members agree in. -/
theorem map_eq_of_forall₂ {α β γ : Type} {related : α → β → Prop} {left : α → γ}
    {right : β → γ} (equal : ∀ first second, related first second → left first = right second)
    {firsts : List α} {seconds : List β} (pairwise : List.Forall₂ related firsts seconds) :
    firsts.map left = seconds.map right := by
  induction pairwise with
  | nil => rfl
  | cons same _ ih => rw [List.map_cons, List.map_cons, equal _ _ same, ih]

end DataLayer
