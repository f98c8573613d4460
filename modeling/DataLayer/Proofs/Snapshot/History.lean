import DataLayer.Proofs.Introspection.Conversation
import DataLayer.Proofs.Introspection.SampleInfluence

/-!
# A snapshot answers independently of its history

All that a step leaves behind in the catalog of a snapshot is the number of rollbacks, and no answer
depends on it. `historyFree` concludes that after every sequence of steps the catalog answers as an
unused one, and that it has counted exactly the rollbacks that were made.
-/

namespace DataLayer

open Introspection Reading

/-- A rollback that was made. -/
def CatalogEvent.isRolledBack {ω : Type} : CatalogEvent ω → Bool
  | transactionRolledBack _ (.ok _) => true
  | _ => false

namespace SnapshotCatalog

section Agreement

variable {alike : SnapshotCatalog → SnapshotCatalog → Prop}

/-- A snapshot answers alike wherever the states are written down alike and stay so when a rollback
is counted in both. -/
theorem agrees_of_writtenAlike (written : ∀ first second, alike first second →
      first.WrittenAlike second)
    (counted : ∀ first second, alike first second →
      alike (first.afterRollbacks (first.rollbacks + 1))
        (second.afterRollbacks (second.rollbacks + 1))) :
    reader.Agrees reader alike := by
  have asked {α : Type} {question : SnapshotCatalog → Except Failure α}
      (same : ∀ catalog rollbacks,
        question (catalog.afterRollbacks rollbacks) = question catalog) :
      Corresponds alike Eq (ask question) (ask question) := fun first second states =>
    ⟨(ask_corresponds same first second (written first second states)).1, states⟩
  constructor
  case opened => exact .pure rfl
  case begun => exact fun _ => .pure rfl
  case rolledBack => exact fun _ first second states => ⟨.refl _, counted first second states⟩
  case executed => exact fun _ _ _ => asked fun _ _ => rfl
  case toAgreesOnObjects =>
    constructor
    all_goals
      intros
      exact asked fun _ _ => rfl

/-- The second catalog was written down as the first one, and is some rollbacks ahead of it. -/
def AheadBy (rollbacks : Nat) (first second : SnapshotCatalog) : Prop :=
  second = first.afterRollbacks (first.rollbacks + rollbacks)

/-- A snapshot answers alike whatever the number of rollbacks counted before. -/
theorem agrees_aheadBy (rollbacks : Nat) : reader.Agrees reader (AheadBy rollbacks) := by
  refine agrees_of_writtenAlike ?_ ?_
  · rintro first _ rfl
    rfl
  · rintro first _ rfl
    exact congrArg first.afterRollbacks (Nat.add_right_comm ..)

/-- A snapshot answers alike to catalogs that are written alike. -/
theorem agrees_writtenAlike : reader.Agrees reader WrittenAlike :=
  agrees_of_writtenAlike (fun _ _ same => same) fun _ _ same => same

/-- Nothing changes what was written down. -/
theorem agrees_unchanged (catalog : SnapshotCatalog) :
    reader.Agrees reader fun first second => first = second ∧ catalog.WrittenAlike second := by
  refine agrees_of_writtenAlike ?_ ?_
  · rintro first _ ⟨rfl, -⟩
    rfl
  · rintro first _ ⟨rfl, same⟩
    exact ⟨rfl, same⟩

/-- The record of a catalog has as many rollbacks as the catalog has counted. -/
def Counts (catalog : SnapshotCatalog)
    (recorded : SnapshotCatalog × List (CatalogEvent Unit)) : Prop :=
  catalog = recorded.1 ∧ catalog.rollbacks = recorded.2.countP CatalogEvent.isRolledBack

/-- A call that leaves the catalog alone makes no rollback. -/
theorem noted_counts {α : Type} {event : Except Failure α → CatalogEvent Unit}
    {action : Reading SnapshotCatalog α} (still : ∀ catalog, (action.runFrom catalog).2 = catalog)
    (quiet : ∀ answer, (event answer).isRolledBack = false) :
    Corresponds Counts Eq action (action.noted event) := by
  rintro catalog ⟨_, events⟩ ⟨rfl, counted⟩
  refine ⟨.refl _, rfl, ?_⟩
  change ((action.runFrom catalog).2).rollbacks = List.countP _ (events ++ [event _])
  rw [still, List.countP_append, List.countP_singleton, quiet, counted]
  rfl

/-- The record of a catalog is complete. -/
theorem agrees_recorded : reader.Agrees reader.recorded Counts := by
  constructor
  case opened => exact noted_counts (fun _ => rfl) fun _ => rfl
  case begun => exact fun _ => noted_counts (fun _ => rfl) fun _ => rfl
  case executed => exact fun _ _ _ => noted_counts (fun _ => rfl) fun _ => rfl
  case rolledBack =>
    rintro _ catalog ⟨_, events⟩ ⟨rfl, counted⟩
    refine ⟨.refl _, rfl, ?_⟩
    change catalog.rollbacks + 1 = List.countP _ (events ++ [.transactionRolledBack () (.ok ())])
    rw [List.countP_append, counted]
    rfl
  case toAgreesOnObjects =>
    constructor
    all_goals
      intros
      exact noted_counts (fun _ => rfl) fun _ => rfl

end Agreement

/-- An unused catalog of a snapshot. -/
def unused (snapshot : Snapshot) : Conversation SnapshotCatalog Unit where
  state := .ofSnapshot snapshot

/-- An unused catalog with an empty record. -/
def unusedRecorded (snapshot : Snapshot) :
    Conversation (SnapshotCatalog × List (CatalogEvent Unit)) Unit where
  state := (.ofSnapshot snapshot, [])

/-- Steps leave what was written down as it was. -/
theorem writtenAlike_after (conversation : Conversation SnapshotCatalog Unit)
    (history : List InterruptedStep) :
    conversation.state.WrittenAlike (conversation.after reader history).state :=
  (Conversation.after_agrees (agrees_unchanged conversation.state) ⟨⟨rfl, rfl⟩, rfl⟩
    history).states.2

/-- Only the openings of sessions have an effect on later answers. -/
theorem alike_after_openings {left right : Conversation SnapshotCatalog Unit}
    (same : left.Alike WrittenAlike right) (history : List InterruptedStep) :
    (left.after reader history).Alike WrittenAlike
      (right.after reader (history.filter InterruptedStep.isOpening)) := by
  induction history generalizing left right with
  | nil => exact same
  | cons interrupted history ih =>
      cases opening : interrupted.isOpening with
      | true =>
          rw [List.filter_cons_of_pos opening]
          exact ih (Conversation.perform_agrees agrees_writtenAlike same interrupted).2
      | false =>
          rw [List.filter_cons_of_neg (by simp [opening])]
          have unchanged := writtenAlike_after left [interrupted]
          refine ih ⟨unchanged.symm.trans same.states, ?_⟩
          exact (Conversation.sessions_afterStep opening reader left).trans same.sessions

/-- A catalog that was used is as many rollbacks ahead of the unused one as it has counted. -/
theorem aheadBy_of_writtenAlike {snapshot : Snapshot} {used : SnapshotCatalog}
    (written : (ofSnapshot snapshot).WrittenAlike used) :
    AheadBy used.rollbacks (ofSnapshot snapshot) used :=
  written.eq.trans (congrArg (afterRollbacks _) (Nat.zero_add _).symm)

/-- Whatever steps were made on the catalog of a snapshot, it answers as if they had not been. -/
structure HistoryFree (snapshot : Snapshot) : Prop where
  /-- A step in no session is answered as on an unused catalog. -/
  outside : ∀ history (interrupted : InterruptedStep), interrupted.step.session? = none →
    ((unused snapshot).after reader history).answer reader interrupted =
      (unused snapshot).answer reader interrupted
  /-- Every step is answered as on a catalog where nothing was done but opening the sessions. -/
  inside : ∀ history interrupted,
    ((unused snapshot).after reader history).answer reader interrupted =
      ((unused snapshot).after reader
        (history.filter InterruptedStep.isOpening)).answer reader interrupted
  /-- The rollbacks that were counted are those that were made. -/
  counted : ∀ history,
    let recorded := (unusedRecorded snapshot).after reader.recorded history
    ((unused snapshot).after reader history).Alike Counts recorded
  /-- A second run of introspection comes to the same schema, and to as many rollbacks again. -/
  twice : ∀ settings,
    let first := (introspect reader settings).runFrom (.ofSnapshot snapshot)
    let second := (introspect reader settings).runFrom first.2
    second.1 = first.1 ∧ second.2.rollbacks = 2 * first.2.rollbacks
  /-- So does a run that is interrupted, if it is interrupted in the same way. -/
  again : ∀ settings plan,
    let run : InterruptedStep := ⟨.introspect settings, plan⟩
    let used := (unused snapshot).afterStep reader run
    used.answer reader run = (unused snapshot).answer reader run ∧
      (used.afterStep reader run).state.rollbacks = 2 * used.state.rollbacks

/-- The catalog of a snapshot answers independently of its history. -/
theorem historyFree (snapshot : Snapshot) : HistoryFree snapshot := by
  constructor
  case outside =>
    intro history interrupted outside
    have written := writtenAlike_after (unused snapshot) history
    let used := (unused snapshot).after reader history
    have same : Conversation.Alike WrittenAlike ⟨used.state, []⟩ (unused snapshot) :=
      ⟨written.symm, rfl⟩
    exact (Conversation.answer_of_session?_eq_none outside reader used.state used.sessions []).trans
      (Conversation.perform_agrees agrees_writtenAlike same interrupted).1
  case inside =>
    intro history interrupted
    have alike : (unused snapshot).Alike WrittenAlike (unused snapshot) := ⟨rfl, rfl⟩
    have same := alike_after_openings alike history
    exact (Conversation.perform_agrees agrees_writtenAlike same interrupted).1
  case counted => exact Conversation.after_agrees agrees_recorded ⟨⟨rfl, rfl⟩, rfl⟩
  -- The second run starts where the first one ended, ahead of it by the rollbacks that it counted.
  case twice =>
    intro settings first second
    have written := (introspect_agrees (agrees_unchanged (.ofSnapshot snapshot)) settings
      (.ofSnapshot snapshot) _ ⟨rfl, rfl⟩).2.2
    obtain ⟨matched, further⟩ := introspect_agrees (agrees_aheadBy _) settings _ _
      (aheadBy_of_writtenAlike written)
    exact ⟨matched.eq.symm, (congrArg rollbacks further).trans (Nat.two_mul _).symm⟩
  case again =>
    intro settings plan run used
    have written : (ofSnapshot snapshot).WrittenAlike used.state :=
      writtenAlike_after (unused snapshot) [run]
    have ahead : (unused snapshot).Alike (AheadBy used.state.rollbacks) used :=
      ⟨aheadBy_of_writtenAlike written, (Conversation.sessions_afterStep rfl reader _).symm⟩
    obtain ⟨answers, further⟩ := Conversation.perform_agrees (agrees_aheadBy _) ahead run
    exact ⟨answers.symm, (congrArg rollbacks further.states).trans (Nat.two_mul _).symm⟩

/-- Of two transactions in two sessions at a time one is rolled back; the other rollback is
interrupted. -/
example :
    let lost : Interruptions := fun _ _ => some (.connectionFailed "lost")
    ((unused {}).after reader
      [⟨.openSession, .none⟩, ⟨.openSession, .none⟩, ⟨.beginTransaction 1, .none⟩,
       ⟨.beginTransaction 0, .none⟩, ⟨.rollBack 1, .none⟩, ⟨.rollBack 0, lost⟩]).state.rollbacks =
      1 := by
  decide

end SnapshotCatalog

end DataLayer
