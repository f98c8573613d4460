import DataLayer.Text.CaseTable
import Mathlib.Data.List.Chain
import Mathlib.Data.List.TakeWhile

/-!
# Runs of case mappings

All members of a run keep their distance when they are mapped. So the ends of two runs and their
steps tell whether what one of them yields are members of the other, or whether none of it is. Runs
in ascending order are searched side by side, which spares most of the comparisons.
-/

namespace DataLayer.Text

namespace CaseRun

variable {run next : CaseRun} {code image : Nat}

/-- A run applies to every code of its progression, and shifts it by a constant. -/
theorem applies_iff : run.apply? code = some image ↔
    run.first ≤ code ∧ code ≤ run.last ∧ (code - run.first) % run.step = 0 ∧
      run.target + (code - run.first) = image := by
  unfold CaseRun.apply?
  split
  · rename_i inside
    simp [inside]
  · rename_i outside
    simp only [reduceCtorEq, false_iff]
    rintro ⟨low, high, steps, -⟩
    exact outside ⟨low, high, steps⟩

/-- The code point that the last member is mapped to. -/
def lastTarget (run : CaseRun) : Nat := run.target + (run.last - run.first)

/-- The images of a run lie between its first and its last target. -/
theorem target_le (applied : run.apply? code = some image) :
    run.target ≤ image ∧ image ≤ run.lastTarget := by
  obtain ⟨low, high, -, rfl⟩ := applies_iff.mp applied
  unfold lastTarget
  omega

/-- No code point that the run yields is a member of the next run: they lie apart, or they are odd
in one of the runs and even in the other. -/
def misses (run next : CaseRun) : Bool :=
  Nat.blt run.lastTarget next.first || Nat.blt next.last run.target ||
    (Nat.beq next.step 2 && (Nat.beq run.step 2 || Nat.beq run.first run.last) &&
      Nat.beq ((run.target + next.first) % 2) 1)

/-- What a run yields is no member of a run that it misses. -/
theorem none_of_misses (missed : run.misses next = true) (applied : run.apply? code = some image) :
    next.apply? image = none := by
  obtain ⟨low, high, steps, rfl⟩ := applies_iff.mp applied
  refine if_neg fun inside => ?_
  obtain ⟨nextLow, nextHigh, nextSteps⟩ := inside
  simp only [misses, lastTarget, Bool.or_eq_true, Bool.and_eq_true, Nat.blt_eq, Nat.beq_eq] at missed
  rcases missed with (before | behind) | ⟨⟨two, even⟩, odd⟩
  · omega
  · omega
  · rw [two] at nextSteps
    rcases even with two | single
    · rw [two] at steps
      omega
    · omega

/-- Every code point that the run yields is a member of the next run. -/
def within (run next : CaseRun) : Bool :=
  Nat.ble next.first run.target && Nat.ble run.lastTarget next.last &&
    Nat.beq ((run.target - next.first) % next.step) 0 &&
    (Nat.beq (run.step % next.step) 0 || Nat.beq run.first run.last)

/-- Both runs in sequence. -/
def andThen (run next : CaseRun) : CaseRun :=
  { run with target := next.target + (run.target - next.first) }

/-- Within the next run, both in sequence yield what the next one makes of the image. -/
theorem exists_andThen (covered : run.within next = true) (applied : run.apply? code = some image) :
    ∃ further, next.apply? image = some further ∧
      CaseRun.apply? (run.andThen next) code = some further := by
  obtain ⟨low, high, steps, rfl⟩ := applies_iff.mp applied
  simp only [within, lastTarget, Bool.or_eq_true, Bool.and_eq_true, Nat.ble_eq, Nat.beq_eq]
    at covered
  obtain ⟨⟨⟨above, below⟩, aligned⟩, divides⟩ := covered
  have split : run.target + (code - run.first) - next.first =
      (run.target - next.first) + (code - run.first) := by
    omega
  have nextSteps : (run.target + (code - run.first) - next.first) % next.step = 0 := by
    have stepped : (code - run.first) % next.step = 0 := by
      rcases divides with divides | single
      · exact Nat.mod_eq_zero_of_dvd
          (Nat.dvd_trans (Nat.dvd_of_mod_eq_zero divides) (Nat.dvd_of_mod_eq_zero steps))
      · have same : code - run.first = 0 := by omega
        rw [same, Nat.zero_mod]
    rw [split, Nat.add_mod, aligned, stepped]
    rfl
  refine ⟨_, applies_iff.mpr ⟨by omega, by omega, nextSteps, rfl⟩, ?_⟩
  refine applies_iff.mpr ⟨low, high, steps, ?_⟩
  change next.target + (run.target - next.first) + (code - run.first) = _
  omega

/-- The run that maps one code point to itself. -/
def point (code : Nat) : CaseRun := ⟨code, code, 1, code⟩

/-- The run of a single code maps it to itself. -/
theorem point_applies (code : Nat) : CaseRun.apply? (point code) code = some code :=
  applies_iff.mpr ⟨Nat.le_refl _, Nat.le_refl _, Nat.mod_one _, by simp [point]⟩

/-- A run that misses a code does not yield it. -/
theorem ne_of_misses_point {member : Nat} (missed : run.misses (point code) = true)
    (applied : run.apply? member = some image) : code ≠ image := by
  rintro rfl
  have none := none_of_misses missed applied
  rw [point_applies] at none
  cases none

/-- The members of the run, each mapped to itself. -/
def members (run : CaseRun) : CaseRun := { run with target := run.first }

/-- A code that a run applies to is among its members. -/
theorem members_applies (applied : run.apply? code = some image) :
    run.members.apply? code = some code := by
  obtain ⟨low, high, steps, -⟩ := applies_iff.mp applied
  exact applies_iff.mpr ⟨low, high, steps, Nat.add_sub_cancel' low⟩

/-- The run has members, and it ends before the next one begins. -/
def Before (run next : CaseRun) : Prop := run.first ≤ run.last ∧ run.last < next.first

instance : DecidableRel Before := fun _ _ => instDecidableAnd

instance : Trans Before Before Before where
  trans := fun first second =>
    ⟨first.1, Nat.lt_trans first.2 (Nat.lt_of_le_of_lt second.1 second.2)⟩

/-- Runs in ascending order have no members in common. -/
theorem findSome?_of_mem {runs : List CaseRun} (ascending : runs.IsChain Before)
    (member : run ∈ runs) (applied : run.apply? code = some image) :
    runs.findSome? (fun run => run.apply? code) = some image := by
  have apart := List.isChain_iff_pairwise.mp ascending
  clear ascending
  induction runs with
  | nil => cases member
  | cons other rest ih =>
      obtain ⟨before, apartRest⟩ := List.pairwise_cons.mp apart
      rcases List.mem_cons.mp member with rfl | later
      · rw [List.findSome?_cons, applied]
      · obtain ⟨low, -, -, -⟩ := applies_iff.mp applied
        have beyond : other.last < code := Nat.lt_of_lt_of_le (before run later).2 low
        have missed : other.apply? code = none :=
          if_neg fun inside => Nat.not_le.mpr beyond inside.2.1
        rw [List.findSome?_cons, missed]
        exact ih later apartRest

section Alongside

variable {α : Type} {yields : α → CaseRun} {check : α → List CaseRun → Bool}
  {others ahead : List CaseRun} {other : CaseRun} {item : α}

/-- Whether the other run lies among the given ones or apart from what the run yields. -/
def Near (near : List CaseRun) (run other : CaseRun) : Prop :=
  other ∈ near ∨ other.last < run.target ∨ run.lastTarget < other.first

/-- Checks each item with those of the other runs that can have members among the code points the
item's run yields. The search for them goes on where the last one ended, or it begins again when an
item yields less than the one before. -/
def walk (yields : α → CaseRun) (check : α → List CaseRun → Bool) (others : List CaseRun) :
    Nat → List CaseRun → List α → Bool
  | _, _, [] => true
  | start, ahead, item :: items =>
    let run := yields item
    let near := (if Nat.blt run.target start then others else ahead).dropWhile fun other =>
      Nat.blt other.last run.target
    check item (near.takeWhile fun other => Nat.ble other.first run.lastTarget) &&
      walk yields check others run.target near items

/-- Checks each item with those of the other runs that it can meet. -/
def alongside (yields : α → CaseRun) (check : α → List CaseRun → Bool) (others : List CaseRun)
    (items : List α) : Bool := walk yields check others 0 others items

/-- The runs ahead that begin up to the last target are near the run. -/
theorem near_takeWhile (ascending : ahead.Pairwise Before) (member : other ∈ ahead) :
    run.Near (ahead.takeWhile fun other => Nat.ble other.first run.lastTarget) other := by
  induction ahead with
  | nil => cases member
  | cons next rest ih =>
      obtain ⟨before, apartRest⟩ := List.pairwise_cons.mp ascending
      rw [List.takeWhile_cons]
      split
      · rcases List.mem_cons.mp member with rfl | later
        · exact .inl List.mem_cons_self
        · exact (ih apartRest later).imp_left (List.mem_cons_of_mem next)
      · rename_i stops
        rw [Nat.ble_eq, Nat.not_le] at stops
        rcases List.mem_cons.mp member with rfl | later
        · exact .inr (.inr stops)
        · have beyond := before other later
          exact .inr (.inr (by unfold Before at beyond; omega))

private theorem mem_dropWhile_or {passed : CaseRun → Bool} (member : other ∈ ahead) :
    other ∈ ahead.dropWhile passed ∨ passed other = true := by
  rw [← List.takeWhile_append_dropWhile (p := passed) (l := ahead), List.mem_append] at member
  exact member.symm.imp_right List.mem_takeWhile_imp

private theorem exists_near_of_walk {start : Nat} {items : List α} (among : ahead.Sublist others)
    (behind : ∀ other ∈ others, other ∈ ahead ∨ other.last < start)
    (checked : walk yields check others start ahead items = true) (member : item ∈ items) :
    ∃ near ⊆ others, check item near = true ∧
      (others.IsChain Before → ∀ other ∈ others, (yields item).Near near other) := by
  induction items generalizing start ahead with
  | nil => cases member
  | cons first items ih =>
      let target := (yields first).target
      let rest := if Nat.blt target start then others else ahead
      let near := rest.dropWhile fun other => Nat.blt other.last target
      have amongRest : rest.Sublist others := by
        unfold rest
        split
        · exact List.Sublist.refl others
        · exact among
      have amongNear : near.Sublist others := (List.dropWhile_sublist _).trans amongRest
      -- What the search has passed lies in front of all that the item yields. It begins again for
      -- an item that yields less than the one before.
      have behindRest : ∀ other ∈ others, other ∈ rest ∨ other.last < target := by
        intro other present
        unfold rest
        split
        · exact .inl present
        · rename_i onwards
          rw [Nat.blt_eq, Nat.not_lt] at onwards
          exact (behind other present).imp_right fun passed => Nat.lt_of_lt_of_le passed onwards
      have behindNear : ∀ other ∈ others, other ∈ near ∨ other.last < target := by
        intro other present
        rcases behindRest other present with inside | passed
        · exact (mem_dropWhile_or inside).imp_right Nat.blt_eq.mp
        · exact .inr passed
      obtain ⟨here, later⟩ := Bool.and_eq_true_iff.mp checked
      rcases List.mem_cons.mp member with rfl | further
      · refine ⟨_, List.Subset.trans (List.takeWhile_sublist _).subset amongNear.subset, here, ?_⟩
        intro ascending other present
        rcases behindNear other present with inside | passed
        · exact near_takeWhile ((List.isChain_iff_pairwise.mp ascending).sublist amongNear) inside
        · exact .inr (.inl passed)
      · exact ih amongNear behindNear later further

/-- An item is checked with some of the other runs, and when these ascend, the rest of them lie apart
from what the item's run yields. -/
theorem exists_near {items : List α} (checked : alongside yields check others items = true)
    (member : item ∈ items) :
    ∃ near ⊆ others, check item near = true ∧
      (others.IsChain Before → ∀ other ∈ others, (yields item).Near near other) :=
  exists_near_of_walk (List.Sublist.refl others) (fun _ present => .inl present) checked member

/-- A run that applies to what the run yields is among the near ones. -/
theorem mem_of_near {further : Nat} (close : run.Near ahead other)
    (applied : run.apply? code = some image) (applies : other.apply? image = some further) :
    other ∈ ahead := by
  have bounds := target_le applied
  obtain ⟨low, high, -, -⟩ := applies_iff.mp applies
  rcases close with inside | before | behind
  · exact inside
  · omega
  · omega

/-- A run that misses the near ones yields no member of any other. -/
theorem none_of_near (close : run.Near ahead other) (missed : ahead.all run.misses = true)
    (applied : run.apply? code = some image) : other.apply? image = none := by
  refine Option.eq_none_iff_forall_ne_some.mpr fun further applies => ?_
  have inside := mem_of_near close applied applies
  rw [none_of_misses (List.all_eq_true.mp missed other inside) applied] at applies
  cases applies

end Alongside

end CaseRun

end DataLayer.Text
