import DataLayer.Proofs.Procedure.Wrapping
import DataLayer.Proofs.Sql.Statements
import DataLayer.Proofs.Text.Case
import Mathlib.Data.List.Induction
import Mathlib.Data.List.Nodup
import Mathlib.Data.List.TakeWhile

/-!
# Reported names of result columns

Every result column is reported under its base name, with the number of earlier columns of this base
behind it. The numbers keep columns of one base apart. They are not themselves counted as uses, so a
numbered name can meet the base name of another column, and this is the only way in which two
columns are reported alike.
-/

namespace DataLayer

open Naming (numbered numbered_injective)
open Text (isAsciiDigit isBlank lower trim)

/-- Leading digits of a number are the digits of a number of their own. -/
private theorem exists_leading (number : Nat) (leading trailing : List Char) (some : leading ≠ [])
    (digits : Nat.toDigits 10 number = leading ++ trailing) :
    ∃ start, leading = Nat.toDigits 10 start ∧ start ≤ number ∧ (0 < number → 0 < start) ∧
      (trailing ≠ [] → start < number) := by
  induction trailing using List.reverseRecOn generalizing number with
  | nil => exact ⟨number, by simpa using digits.symm, Nat.le_refl _, id, by simp⟩
  | append_singleton trailing last ih =>
      have wide : 10 ≤ number := by
        by_contra narrow
        rw [Nat.toDigits_of_lt_base (by omega), ← List.append_assoc] at digits
        have short := congrArg List.length digits
        have long := List.length_pos_iff.mpr some
        simp only [List.length_append, List.length_singleton] at short
        omega
      rw [Nat.toDigits_of_base_le (by decide) wide, ← List.append_assoc] at digits
      have initial := (List.append_inj' digits rfl).1
      obtain ⟨start, same, atMost, positive, -⟩ := ih (number / 10) initial
      exact ⟨start, same, by omega, fun _ => positive (by omega), fun _ => by omega⟩

/-- If a longer name is the same with a smaller number, it ends in digits that make it a numbered
name itself. -/
private theorem exists_numbered {left right : String} {first second : Nat} {leading : List Char}
    (positive : 0 < first) (apart : left ≠ right) (extended : right.toList = left.toList ++ leading)
    (digits : Nat.toDigits 10 first = leading ++ Nat.toDigits 10 second) :
    ∃ number, 0 < number ∧ number < first ∧ numbered left number = right := by
  have some : leading ≠ [] := by
    rintro rfl
    exact apart (String.toList_inj.mp (by simpa using extended.symm))
  obtain ⟨number, same, -, counted, less⟩ := exists_leading first leading _ some digits
  refine ⟨number, counted positive, less Nat.toDigits_ne_nil, String.toList_inj.mp ?_⟩
  rw [numbered, String.toList_append, Nat.toList_repr, ← same, extended]

/-- Two bases that agree with numbers behind them are the same base, or one of them is the other
with a smaller number. -/
private theorem numbered_eq_numbered {left right : String} {first second : Nat}
    (positive : 0 < first) (positiveSecond : 0 < second)
    (same : numbered left first = numbered right second) (apart : left ≠ right) :
    (∃ number, 0 < number ∧ number < first ∧ numbered left number = right) ∨
      ∃ number, 0 < number ∧ number < second ∧ numbered right number = left := by
  have characters := congrArg String.toList same
  simp only [numbered, String.toList_append, Nat.toList_repr] at characters
  rcases List.append_eq_append_iff.mp characters with
    ⟨leading, extended, digits⟩ | ⟨leading, extended, digits⟩
  · exact .inl (exists_numbered positive apart extended digits)
  · exact .inr (exists_numbered positiveSecond apart.symm extended digits)

/-- The name that is reported for a base after a number of earlier uses. -/
def withUses (base : String) (uses : Nat) : String :=
  if uses = 0 then base else numbered base uses

/-- A number at the end of a name is left alone by lower-casing. -/
theorem lower_numbered (base : String) (number : Nat) :
    lower (numbered base number) = numbered (lower base) number :=
  Text.lower_append_digits fun _ member => Naming.isAsciiDigit_of_mem_repr member

/-- The mark of an earlier use is left alone by lower-casing. -/
theorem lower_withUses (base : String) (uses : Nat) :
    lower (withUses base uses) = withUses (lower base) uses := by
  unfold withUses
  split
  · rfl
  · exact lower_numbered base uses

/-- Every member of a list with the number of times it stood before. -/
def occurrences (earlier : List String) : List String → List (String × Nat)
  | [] => []
  | key :: rest => (key, earlier.count key) :: occurrences (key :: earlier) rest

/-- The occurrences of a key are numbered from those seen earlier up to all of them. -/
theorem mem_occurrences {earlier keys : List String} {key : String} {uses : Nat} :
    (key, uses) ∈ occurrences earlier keys ↔
      earlier.count key ≤ uses ∧ uses < earlier.count key + keys.count key := by
  induction keys generalizing earlier with
  | nil => simp [occurrences]
  | cons first rest ih =>
      rw [occurrences, List.mem_cons, ih, List.count_cons, List.count_cons, Prod.mk.injEq]
      by_cases same : first = key
      · subst same
        simp
        omega
      · simp [same, Ne.symm same]

/-- No member stands twice with the same number of earlier uses. -/
theorem nodup_occurrences (earlier keys : List String) : (occurrences earlier keys).Nodup := by
  induction keys generalizing earlier with
  | nil => exact .nil
  | cons first rest ih =>
      refine List.nodup_cons.mpr ⟨fun again => ?_, ih _⟩
      have counted := (mem_occurrences.mp again).1
      rw [List.count_cons_self] at counted
      exact Nat.not_succ_le_self _ counted

/-- With nothing seen earlier, the occurrences of a key are numbered from zero. -/
theorem mem_occurrences_nil {keys : List String} {key : String} {uses : Nat} :
    (key, uses) ∈ occurrences [] keys ↔ uses < keys.count key := by
  simp [mem_occurrences]

/-- Names with their earlier uses are distinct exactly when no numbered name is among the names
without a number. -/
theorem nodup_withUses_iff (keys : List String) :
    ((occurrences [] keys).map fun entry => withUses entry.1 entry.2).Nodup ↔
      ∀ key ∈ keys, ∀ number, 0 < number → number < keys.count key →
        numbered key number ∉ keys := by
  rw [List.nodup_map_iff_inj_on (nodup_occurrences [] keys)]
  constructor
  · intro injective key _ number positive less met
    have first : (key, number) ∈ occurrences [] keys := mem_occurrences_nil.mpr less
    have second : (numbered key number, 0) ∈ occurrences [] keys :=
      mem_occurrences_nil.mpr (List.count_pos_iff.mpr met)
    have same := injective _ first _ second (by simp [withUses, Nat.ne_of_gt positive])
    exact Nat.ne_of_gt positive (Prod.mk.inj same).2
  · rintro free ⟨left, first⟩ memberLeft ⟨right, second⟩ memberRight same
    have lessLeft := mem_occurrences_nil.mp memberLeft
    have lessRight := mem_occurrences_nil.mp memberRight
    have amongLeft : left ∈ keys := List.count_pos_iff.mp (Nat.zero_lt_of_lt lessLeft)
    have amongRight : right ∈ keys := List.count_pos_iff.mp (Nat.zero_lt_of_lt lessRight)
    rcases Nat.eq_zero_or_pos first with rfl | positive <;>
      rcases Nat.eq_zero_or_pos second with rfl | positiveSecond
    · exact Prod.ext same rfl
    · rw [withUses, withUses, if_pos rfl, if_neg (Nat.ne_of_gt positiveSecond)] at same
      exact absurd (same ▸ amongLeft) (free right amongRight second positiveSecond lessRight)
    · rw [withUses, withUses, if_pos rfl, if_neg (Nat.ne_of_gt positive)] at same
      exact absurd (same ▸ amongRight) (free left amongLeft first positive lessLeft)
    · rw [withUses, withUses, if_neg (Nat.ne_of_gt positive),
        if_neg (Nat.ne_of_gt positiveSecond)] at same
      by_cases apart : left = right
      · subst apart
        exact Prod.ext rfl (numbered_injective same)
      -- Two numbered names of different bases meet only if one base is the other with a number.
      rcases numbered_eq_numbered positive positiveSecond same apart with
        ⟨number, counted, less, rfl⟩ | ⟨number, counted, less, rfl⟩
      · exact absurd amongRight (free left amongLeft number counted (Nat.lt_trans less lessLeft))
      · exact absurd amongLeft (free right amongRight number counted (Nat.lt_trans less lessRight))

/-- The base names of columns: an unnamed column is numbered among the unnamed ones. -/
def baseNamesFrom (unnamed : Nat) : List String → List String
  | [] => []
  | name :: rest =>
    if trim name = "" then numbered "Column" (unnamed + 1) :: baseNamesFrom (unnamed + 1) rest
    else name :: baseNamesFrom unnamed rest

/-- A blank column is named after its place among the blank ones, any other keeps its name. -/
theorem baseNamesFrom_eq (unnamed : Nat) (names : List String) :
    baseNamesFrom unnamed names = names.mapIdx fun index name =>
      if trim name = "" then
        numbered "Column" (unnamed + (names.take (index + 1)).countP (trim · = ""))
      else name := by
  induction names generalizing unnamed with
  | nil => rfl
  | cons name rest ih =>
      rw [baseNamesFrom, List.mapIdx_cons]
      by_cases nameless : trim name = ""
      · simp [nameless, ih, Nat.add_assoc, Nat.add_comm 1]
      · simp [nameless, ih]

/-- The names reported for bases, each after the uses that the bases before it have made. -/
def reportBases (earlier : List String) : List String → List String
  | [] => []
  | base :: rest =>
    withUses base (earlier.count (lower base)) :: reportBases (lower base :: earlier) rest

/-- The reported names are the base names with their earlier uses marked. -/
theorem reportedNamesFrom_eq (earlier : List String) (unnamed : Nat) (names : List String) :
    reportedNamesFrom earlier unnamed names =
      reportBases earlier (baseNamesFrom unnamed names) := by
  induction names generalizing earlier unnamed with
  | nil => rfl
  | cons name rest ih =>
      rw [reportedNamesFrom, baseNamesFrom]
      by_cases nameless : trim name = ""
      · simp only [nameless, if_true, beq_self_eq_true, reportBases, ih, withUses]
      · simp only [nameless, if_false, beq_iff_eq, reportBases, ih, withUses]

/-- A base name is marked with how often it came before, whatever its letters' case. -/
theorem reportBases_eq (earlier bases : List String) :
    reportBases earlier bases = bases.mapIdx fun index base =>
      withUses base (earlier.count (lower base) +
        ((bases.take index).map lower).count (lower base)) := by
  induction bases generalizing earlier with
  | nil => rfl
  | cons base rest ih =>
      rw [reportBases, List.mapIdx_cons, ih]
      simp [List.count_cons, Nat.add_assoc, Nat.add_comm, Nat.add_left_comm]

/-- Lower-cased, the reported names are the occurrences of the lower-cased bases. -/
theorem map_lower_reportBases (earlier bases : List String) :
    (reportBases earlier bases).map lower =
      (occurrences earlier (bases.map lower)).map fun entry => withUses entry.1 entry.2 := by
  induction bases generalizing earlier with
  | nil => rfl
  | cons base rest ih =>
      rw [reportBases, List.map_cons, List.map_cons, occurrences, List.map_cons, lower_withUses, ih]

/-- Trimming leaves nothing exactly of a text of blanks. -/
theorem Text.trim_eq_empty_iff {text : String} :
    trim text = "" ↔ ∀ c ∈ text.toList, isBlank c = true := by
  have kept : trim text = "" ↔ ∀ c ∈ text.toList.dropWhile isBlank, isBlank c = true := by
    rw [← String.toList_inj]
    simp [trim, dropEnd, dropStart, List.dropWhile_eq_nil_iff]
  rw [kept]
  constructor
  · intro rest c member
    rw [← List.takeWhile_append_dropWhile (p := isBlank) (l := text.toList)] at member
    exact (List.mem_append.mp member).elim List.mem_takeWhile_imp (rest c)
  · exact fun all c member => all c ((List.dropWhile_sublist _).subset member)

/-- What is not blank stays so with an ending. -/
theorem Text.trim_append_ne_empty {text : String} (named : trim text ≠ "") (ending : String) :
    trim (text ++ ending) ≠ "" := by
  intro blank
  refine named (trim_eq_empty_iff.mpr fun c member => trim_eq_empty_iff.mp blank c ?_)
  rw [String.toList_append]
  exact List.mem_append_left _ member

/-- What is not blank stays so with a number. -/
theorem trim_numbered_ne_empty {base : String} (named : trim base ≠ "") (number : Nat) :
    trim (numbered base number) ≠ "" :=
  Text.trim_append_ne_empty named number.repr

/-- No base name is blank. -/
theorem trim_ne_empty_of_mem_baseNamesFrom {unnamed : Nat} {names : List String} {base : String}
    (member : base ∈ baseNamesFrom unnamed names) : trim base ≠ "" := by
  induction names generalizing unnamed with
  | nil => cases member
  | cons name rest ih =>
      rw [baseNamesFrom] at member
      split at member
      · rcases List.mem_cons.mp member with rfl | later
        · exact trim_numbered_ne_empty (by decide) _
        · exact ih later
      · rename_i named
        rcases List.mem_cons.mp member with rfl | later
        · exact named
        · exact ih later

/-- Each base that is claimed gets one name. -/
theorem Naming.Allocator.length_claimAll (allocator : Allocator) (bases : List String) :
    (allocator.claimAll bases).length = bases.length := by
  induction bases generalizing allocator with
  | nil => rfl
  | cons base rest ih => rw [claimAll, List.length_cons, List.length_cons, ih]

namespace ResultTable

/-- The base names of the columns. -/
def baseNames (table : ResultTable) : List String := baseNamesFrom 0 (table.columns.map (·.name))

/-- A column is reported under its base name, marked with the earlier columns of that name. -/
theorem reportedNames_eq (table : ResultTable) :
    table.reportedNames = table.baseNames.mapIdx fun index base =>
      withUses base (((table.baseNames.take index).map lower).count (lower base)) := by
  rw [reportedNames, reportedNamesFrom_eq, reportBases_eq]
  simp [baseNames]

/-- Each column is reported under one name. -/
theorem length_reportedNames (table : ResultTable) :
    table.reportedNames.length = table.columns.length := by
  rw [reportedNames_eq, List.length_mapIdx, baseNames, baseNamesFrom_eq, List.length_mapIdx,
    List.length_map]

/-- Each reported name gets one member name. -/
theorem length_memberNames (settings : Settings) (table : ResultTable) :
    (ResultClass.memberNames settings table).length = table.reportedNames.length := by
  rw [ResultClass.memberNames, Naming.Allocator.length_claimAll, List.length_map]

/-- Every column has a reported name and a member. -/
theorem length_zip_memberNames (settings : Settings) (table : ResultTable) :
    (table.reportedNames.zip (ResultClass.memberNames settings table)).length =
      table.columns.length := by
  rw [List.length_zip, length_memberNames, Nat.min_self, length_reportedNames]

/-- Every property is bound to the reported name of its column. -/
theorem columnName_typedProperties (settings : Settings) (table : ResultTable) :
    (ResultClass.typedProperties settings table).map (·.columnName) = table.reportedNames := by
  calc (ResultClass.typedProperties settings table).map (·.columnName)
      = (((table.reportedNames.zip (ResultClass.memberNames settings table)).zip
          table.columns).map Prod.fst).map Prod.fst := by
        rw [ResultClass.typedProperties, List.map_map, List.map_map]
        rfl
    _ = (table.reportedNames.zip (ResultClass.memberNames settings table)).map Prod.fst := by
        rw [List.map_fst_zip (Nat.le_of_eq (length_zip_memberNames settings table))]
    _ = table.reportedNames :=
        List.map_fst_zip (Nat.le_of_eq (length_memberNames settings table).symm)

/-- The columns of a result are reported in order, each under its base name with the number of
earlier columns of this base, never under a blank name. Two of them are reported alike up to letter
case exactly when a base name is one that a column of another base is given with its number. -/
theorem reportedNames_apart (settings : Settings) (table : ResultTable) :
    let names := table.columns.map (·.name)
    table.baseNames = (names.mapIdx fun index name =>
        if trim name = "" then
          numbered "Column" ((names.take (index + 1)).countP (trim · = ""))
        else name) ∧
      table.reportedNames = (table.baseNames.mapIdx fun index base =>
        withUses base (((table.baseNames.take index).map lower).count (lower base))) ∧
      (∀ name ∈ table.reportedNames, trim name ≠ "") ∧
      (∃ properties, ResultClass.propertiesOf settings table = .ok properties ∧
        properties.map (·.columnName) = table.reportedNames) ∧
      ((table.reportedNames.map lower).Nodup ↔
        ∀ base ∈ table.baseNames, ∀ number, 0 < number →
          number < (table.baseNames.map lower).count (lower base) →
          ∀ other ∈ table.baseNames, lower other ≠ lower (numbered base number)) := by
  intro names
  refine ⟨?_, table.reportedNames_eq, ?_, ⟨_, ResultClass.propertiesOf_eq settings table,
    columnName_typedProperties settings table⟩, ?_⟩
  · exact (baseNamesFrom_eq 0 names).trans (by simp only [Nat.zero_add])
  · intro name member
    rw [reportedNames_eq] at member
    obtain ⟨index, inside, rfl⟩ := List.mem_mapIdx.mp member
    have named := trim_ne_empty_of_mem_baseNamesFrom (List.getElem_mem inside)
    unfold withUses
    split
    · exact named
    · exact trim_numbered_ne_empty named _
  · have folded : table.reportedNames.map lower =
        (occurrences [] (table.baseNames.map lower)).map fun entry =>
          withUses entry.1 entry.2 := by
      rw [reportedNames, reportedNamesFrom_eq]
      exact map_lower_reportBases [] _
    -- Lower-casing leaves numbers alone, so the condition is one on the bases.
    rw [folded, nodup_withUses_iff]
    simp only [List.mem_map, not_exists, not_and, forall_exists_index, and_imp,
      forall_apply_eq_imp_iff₂, lower_numbered]

/-- The number that a repeated name is given can make it the name of a third column. -/
theorem reportedNames_meet :
    (⟨[⟨"id", .int32⟩, ⟨"id", .int32⟩, ⟨"id1", .int32⟩], 0⟩ : ResultTable).reportedNames =
        ["id", "id1", "id1"] ∧
      ¬ ∀ table : ResultTable, (table.reportedNames.map lower).Nodup := by
  have reported : (⟨[⟨"id", .int32⟩, ⟨"id", .int32⟩, ⟨"id1", .int32⟩], 0⟩ :
      ResultTable).reportedNames = ["id", "id1", "id1"] := by decide +kernel
  refine ⟨reported, fun always => ?_⟩
  have distinct := always ⟨[⟨"id", .int32⟩, ⟨"id", .int32⟩, ⟨"id1", .int32⟩], 0⟩
  rw [reported] at distinct
  simp at distinct

end ResultTable

end DataLayer
