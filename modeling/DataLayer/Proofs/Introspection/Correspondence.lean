import DataLayer.Proofs.Introspection.Recording
import Mathlib.Data.List.Forall2

/-!
# Two runs side by side

`Reading.Corresponds` relates an action on one reader to an action on another: from states that are
alike they come to matching outcomes, and to states that are alike again. Correspondences compose as
the actions do. A call that only one of the two makes has to keep the states alike, which
`Reading.Keeps` says of one state at a time.
-/

namespace DataLayer

/-- The same failure, or values that are related. -/
inductive Matching {α β : Type} (same : α → β → Prop) :
    Except Failure α → Except Failure β → Prop where
  | failed (failure : Failure) : Matching same (.error failure) (.error failure)
  | finished {left : α} {right : β} (related : same left right) :
      Matching same (.ok left) (.ok right)

namespace Matching

/-- An outcome matches itself. -/
theorem refl {α : Type} (outcome : Except Failure α) : Matching Eq outcome outcome := by
  cases outcome with
  | error failure => exact .failed failure
  | ok value => exact .finished rfl

/-- Outcomes that match in their very values are the same. -/
theorem eq {α : Type} {outcome other : Except Failure α} (matched : Matching Eq outcome other) :
    outcome = other := by
  cases matched with
  | failed failure => rfl
  | finished related => rw [related]

/-- What values have in common may be weakened. -/
theorem imp {α β : Type} {same weaker : α → β → Prop} {outcome : Except Failure α}
    {other : Except Failure β} (matched : Matching same outcome other)
    (implied : ∀ value result, same value result → weaker value result) :
    Matching weaker outcome other := by
  cases matched with
  | failed failure => exact .failed failure
  | finished related => exact .finished (implied _ _ related)

/-- A change of failures leaves a match. -/
theorem mapError {α β : Type} {same : α → β → Prop} {outcome : Except Failure α}
    {other : Except Failure β} (matched : Matching same outcome other)
    (change : Failure → Failure) :
    Matching same (outcome.mapError change) (other.mapError change) := by
  cases matched with
  | failed failure => exact .failed (change failure)
  | finished related => exact .finished related

end Matching

namespace Reading

variable {σ τ α β γ δ : Type}

/-- The action leaves the property of the state as it was, whatever the action comes to. -/
def Keeps (property : σ → Prop) (action : Reading σ α) : Prop :=
  ∀ state, property state → property (action.runFrom state).2

namespace Keeps

variable {property : σ → Prop} {action : Reading σ α}

/-- An outcome that is given needs no state, so it changes none. -/
theorem conclude (outcome : Except Failure α) :
    Keeps property (Reading.conclude outcome : Reading σ α) := fun _ holds => holds

/-- Another failure makes no difference to the state, -/
theorem adapt (kept : Keeps property action) (change : Failure → Failure) :
    Keeps property (ExceptT.adapt change action) := by
  intro state holds
  rw [runFrom_adapt]
  exact kept state holds

/-- and neither does a failure that is caught. -/
theorem attempt (kept : Keeps property action) : Keeps property action.attempt := by
  intro state holds
  rw [runFrom_attempt]
  exact kept state holds

/-- An action that keeps a property may be followed by others that do. -/
theorem bind {next : α → Reading σ β} (kept : Keeps property action)
    (keptNext : ∀ value, Keeps property (next value)) : Keeps property (action >>= next) := by
  intro state holds
  have after := kept state holds
  rcases reached : action.runFrom state with ⟨outcome, between⟩
  rw [reached] at after
  cases outcome with
  | error failure =>
      rw [runFrom_bind_error reached]
      exact after
  | ok value =>
      rw [runFrom_bind_ok reached]
      exact keptNext value between after

end Keeps

/-- From alike states the actions come to matching outcomes and to alike states. -/
def Corresponds (alike : σ → τ → Prop) (same : α → β → Prop) (left : Reading σ α)
    (right : Reading τ β) : Prop :=
  ∀ first second, alike first second →
    Matching same (left.runFrom first).1 (right.runFrom second).1 ∧
      alike (left.runFrom first).2 (right.runFrom second).2

namespace Corresponds

variable {alike : σ → τ → Prop} {same : α → β → Prop} {left : Reading σ α} {right : Reading τ β}

/-- Outcomes that match correspond in every state. -/
theorem conclude {outcome : Except Failure α} {other : Except Failure β}
    (matched : Matching same outcome other) :
    Corresponds alike same (Reading.conclude outcome) (Reading.conclude other) :=
  fun _ _ states => ⟨matched, states⟩

/-- So do values that are alike, -/
theorem pure {value : α} {other : β} (related : same value other) :
    Corresponds alike same (pure value) (pure other) :=
  conclude (.finished related)

/-- and equal failures. -/
theorem throw (failure : Failure) :
    Corresponds alike same (throw failure : Reading σ α) (throw failure : Reading τ β) :=
  conclude (.failed failure)

/-- What the values have in common may be weakened. -/
theorem weaken {weaker : α → β → Prop} (corresponding : Corresponds alike same left right)
    (implied : ∀ value other, same value other → weaker value other) :
    Corresponds alike weaker left right := fun first second states =>
  ⟨(corresponding first second states).1.imp implied, (corresponding first second states).2⟩

/-- A change of failures leaves a correspondence. -/
theorem adapt (corresponding : Corresponds alike same left right) (change : Failure → Failure) :
    Corresponds alike same (ExceptT.adapt change left) (ExceptT.adapt change right) := by
  intro first second states
  rw [runFrom_adapt, runFrom_adapt]
  obtain ⟨matched, after⟩ := corresponding first second states
  exact ⟨matched.mapError change, after⟩

/-- Caught failures match as the outcomes do. -/
theorem attempt (corresponding : Corresponds alike same left right) :
    Corresponds alike (Matching same) left.attempt right.attempt := by
  intro first second states
  rw [runFrom_attempt, runFrom_attempt]
  obtain ⟨matched, after⟩ := corresponding first second states
  exact ⟨.finished matched, after⟩

/-- Actions that correspond may be followed by actions that do wherever the values are alike. -/
theorem bind {sameNext : γ → δ → Prop} {next : α → Reading σ γ} {nextRight : β → Reading τ δ}
    (corresponding : Corresponds alike same left right)
    (following : ∀ value other, same value other →
      Corresponds alike sameNext (next value) (nextRight other)) :
    Corresponds alike sameNext (left >>= next) (right >>= nextRight) := by
  intro first second states
  obtain ⟨matched, after⟩ := corresponding first second states
  rcases reached : left.runFrom first with ⟨outcome, between⟩
  rcases reachedRight : right.runFrom second with ⟨other, betweenRight⟩
  rw [reached, reachedRight] at matched after
  cases matched with
  | failed failure =>
      rw [runFrom_bind_error reached, runFrom_bind_error reachedRight]
      exact ⟨.failed failure, after⟩
  | finished related =>
      rw [runFrom_bind_ok reached, runFrom_bind_ok reachedRight]
      exact following _ _ related between betweenRight after

/-- The same where the values are equal. -/
theorem bindSame {right : Reading τ α} {sameNext : γ → δ → Prop} {next : α → Reading σ γ}
    {nextRight : α → Reading τ δ} (corresponding : Corresponds alike Eq left right)
    (following : ∀ value, Corresponds alike sameNext (next value) (nextRight value)) :
    Corresponds alike sameNext (left >>= next) (right >>= nextRight) := by
  refine corresponding.bind ?_
  rintro value _ rfl
  exact following value

/-- Actions that each keep the states alike on their own correspond when their outcomes match. -/
theorem of_keeps
    (keptLeft : ∀ second, Keeps (fun first => alike first second) left)
    (keptRight : ∀ first, Keeps (fun second => alike first second) right)
    (matched : ∀ first second, Matching same (left.runFrom first).1 (right.runFrom second).1) :
    Corresponds alike same left right := fun first second states =>
  ⟨matched first second, keptRight _ second (keptLeft second first states)⟩

/-- A row of steps corresponds to a row of steps for the same members. -/
theorem mapM {V : Type} {step : V → Reading σ α} {stepRight : V → Reading τ β}
    (corresponding : ∀ member, Corresponds alike same (step member) (stepRight member))
    (members : List V) :
    Corresponds alike (List.Forall₂ same) (members.mapM step) (members.mapM stepRight) := by
  induction members with
  | nil => exact pure .nil
  | cons member members ih =>
      rw [List.mapM_cons, List.mapM_cons]
      refine (corresponding member).bind fun _ _ related => ih.bind fun _ _ others => ?_
      exact pure (.cons related others)

end Corresponds

end Reading

end DataLayer
