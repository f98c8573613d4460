import DataLayer.Proofs.Keyed
import DataLayer.Proofs.Snapshot.Answers
import Mathlib.Data.List.Nodup

/-!
# The order in which a catalog lists columns

Columns with distinct names have exactly one order, by name in lower case and then by name. A
snapshot whose columns and key columns are listed in another order therefore describes the same
schema, and the same code is generated for it.
-/

namespace DataLayer

open Introspection Reading
open Text (lower)

namespace Column

/-- Columns are ordered by their lower-cased names, and by the names themselves where these agree.
-/
theorem precedes_iff {left right : Column} :
    left.precedes right = true ↔
      lower left.name < lower right.name ∨
        lower left.name = lower right.name ∧ left.name ≤ right.name := by
  simp [precedes, ← String.not_lt]

/-- The order of columns is transitive. -/
theorem precedes_trans {first second third : Column} (before : first.precedes second = true)
    (after : second.precedes third = true) : first.precedes third = true := by
  rw [precedes_iff] at before after ⊢
  rcases before with before | ⟨sameBefore, before⟩
  · rcases after with after | ⟨sameAfter, -⟩
    · exact .inl (String.lt_trans before after)
    · exact .inl (sameAfter ▸ before)
  · rcases after with after | ⟨sameAfter, after⟩
    · exact .inl (sameBefore ▸ after)
    · exact .inr ⟨sameBefore.trans sameAfter, String.le_trans before after⟩

/-- Of two columns one comes first. -/
theorem precedes_total (left right : Column) :
    (left.precedes right || right.precedes left) = true := by
  rw [Bool.or_eq_true, precedes_iff, precedes_iff]
  by_cases before : lower left.name < lower right.name
  · exact .inl (.inl before)
  by_cases after : lower right.name < lower left.name
  · exact .inr (.inl after)
  have same : lower left.name = lower right.name :=
    String.le_antisymm (String.not_lt.mp after) (String.not_lt.mp before)
  rcases String.le_total left.name right.name with notAfter | notBefore
  · exact .inl (.inr ⟨same, notAfter⟩)
  · exact .inr (.inr ⟨same.symm, notBefore⟩)

/-- Columns that precede each other have one name. -/
theorem name_eq_of_precedes {left right : Column} (before : left.precedes right = true)
    (after : right.precedes left = true) : left.name = right.name := by
  rw [precedes_iff] at before after
  rcases before with before | ⟨same, notAfter⟩
  · rcases after with after | ⟨same, -⟩
    · exact absurd (String.lt_trans before after) (String.lt_irrefl _)
    · exact absurd (same ▸ before) (String.lt_irrefl _)
  · rcases after with after | ⟨-, notBefore⟩
    · exact absurd (same ▸ after) (String.lt_irrefl _)
    · exact String.le_antisymm notAfter notBefore

end Column

namespace Table

/-- Columns with distinct names are brought into one order, whatever order they come in. -/
theorem ofColumns_perm {columns others : List Column} (reordered : columns.Perm others)
    (distinct : (columns.map (·.name)).Nodup) (name : String) (kind : TableKind) :
    ofColumns name kind columns = ofColumns name kind others := by
  have sorted (listed : List Column) :
      (listed.mergeSort Column.precedes).Pairwise fun left right =>
        left.precedes right = true := by
    refine List.pairwise_mergeSort ?_ ?_ listed
    · exact fun _ _ _ => Column.precedes_trans
    · exact Column.precedes_total
  have shuffled : (columns.mergeSort Column.precedes).Perm (others.mergeSort Column.precedes) :=
    (List.mergeSort_perm _ _).trans (reordered.trans (List.mergeSort_perm _ _).symm)
  have same : columns.mergeSort Column.precedes = others.mergeSort Column.precedes := by
    refine List.Perm.eq_of_pairwise ?_ (sorted columns) (sorted others) shuffled
    -- Only a name can tie with itself, so two columns that precede each other are one.
    intro left right inFirst inSecond before after
    have leftMember : left ∈ columns := List.mem_mergeSort.mp inFirst
    have rightMember : right ∈ columns :=
      reordered.mem_iff.mpr (List.mem_mergeSort.mp inSecond)
    exact List.inj_on_of_nodup_map distinct leftMember rightMember
      (Column.name_eq_of_precedes before after)
  rw [ofColumns, ofColumns, same]

/-- The key columns may be listed in any order. -/
theorem markKeys_perm {keys others : List String} (reordered : keys.Perm others) (table : Table) :
    table.markKeys keys = table.markKeys others := by
  have named (column : Column) : column.isNamedIn keys = column.isNamedIn others := by
    unfold Column.isNamedIn
    exact reordered.any_eq
  simp only [markKeys, named]

end Table

/-- The same table or view with its columns and its key listed in another order. -/
structure SnapshotTable.Reordered (listed relisted : SnapshotTable) : Prop where
  name : listed.name = relisted.name
  columns : listed.columns.Perm relisted.columns
  primaryKey : listed.primaryKey.Perm relisted.primaryKey

/-- The same snapshot with the columns and keys of its tables and views listed in another order. -/
structure Snapshot.Reordered (listed relisted : Snapshot) : Prop where
  tables : List.Forall₂ SnapshotTable.Reordered listed.tables relisted.tables
  views : List.Forall₂ SnapshotTable.Reordered listed.views relisted.views
  procedures : listed.procedures = relisted.procedures

/-- No table or view of the snapshot has two columns of one name. -/
def Snapshot.HasDistinctColumns (snapshot : Snapshot) : Prop :=
  ∀ entry ∈ snapshot.tables ++ snapshot.views, (entry.columns.map (·.name)).Nodup

/-- A reordered table with distinct columns is described alike. -/
theorem SnapshotTable.Reordered.described_eq {listed relisted : SnapshotTable}
    (reordered : listed.Reordered relisted) (distinct : (listed.columns.map (·.name)).Nodup)
    (name : String) (kind : TableKind) :
    listed.described name kind = relisted.described name kind := by
  have names : (listed.columns.map Column.ofInfo).map (·.name) = listed.columns.map (·.name) := by
    rw [List.map_map]
    rfl
  have sorted := Table.ofColumns_perm (reordered.columns.map Column.ofInfo) (names ▸ distinct) name
  cases kind with
  | table => rw [described, described, sorted, Table.markKeys_perm reordered.primaryKey]
  | view => rw [described, described, sorted]

/-- The entries of a reordered snapshot are reordered one by one, whatever their kind. -/
theorem Snapshot.Reordered.entries {listed relisted : Snapshot}
    (reordered : listed.Reordered relisted) (kind : TableKind) :
    List.Forall₂ SnapshotTable.Reordered (listed.entries kind) (relisted.entries kind) := by
  cases kind with
  | table => exact reordered.tables
  | view => exact reordered.views

/-- Each entry of a snapshot with distinct columns has distinct columns. -/
theorem Snapshot.HasDistinctColumns.entries {snapshot : Snapshot}
    (distinct : snapshot.HasDistinctColumns) (kind : TableKind) :
    ∀ entry ∈ snapshot.entries kind, (entry.columns.map (·.name)).Nodup := by
  intro entry member
  refine distinct entry (List.mem_append.mpr ?_)
  cases kind with
  | table => exact .inl member
  | view => exact .inr member

namespace SnapshotCatalog

variable {listed relisted : Snapshot}

/-- The same tables and views are asked for. -/
theorem tableNames_reordered (reordered : listed.Reordered relisted) (settings : Settings)
    (kind : TableKind) :
    (ofSnapshot listed).tableNames settings kind =
      (ofSnapshot relisted).tableNames settings kind := by
  have keys (kind : TableKind) :
      ((ofSnapshot listed).entries kind).keys = ((ofSnapshot relisted).entries kind).keys := by
    have names : (listed.entries kind).map (·.name) = (relisted.entries kind).map (·.name) :=
      map_eq_of_forall₂ (fun _ _ same => same.name) (reordered.entries kind)
    have keys (snapshot : Snapshot) : ((ofSnapshot snapshot).entries kind).keys =
        ((snapshot.entries kind).map (·.name)).eraseDups := by
      rw [entries_ofSnapshot]
      exact Keyed.keys_ofList_keyed SnapshotTable.name id _
    rw [keys, keys, names]
  cases kind with
  | table => rw [tableNames, tableNames, keys]
  | view => rw [tableNames, tableNames, keys]

/-- The same is read under a name. -/
theorem table?_reordered (reordered : listed.Reordered relisted)
    (distinct : listed.HasDistinctColumns) (kind : TableKind) (name : String) :
    (ofSnapshot listed).table? kind name = (ofSnapshot relisted).table? kind name := by
  have described :
      (listed.entries kind).map (fun entry => (entry.name, entry.described name kind)) =
        (relisted.entries kind).map fun entry => (entry.name, entry.described name kind) := by
    refine map_eq_of_forall₂ ?_
      ((List.forall₂_and_left _ _).mpr ⟨distinct.entries kind, reordered.entries kind⟩)
    rintro entry reentry ⟨distinct, same⟩
    rw [same.name, same.described_eq distinct]
  have found (snapshot : Snapshot) : (ofSnapshot snapshot).table? kind name =
      (Keyed.ofList ((snapshot.entries kind).map fun entry =>
        (entry.name, entry.described name kind))).get? name := by
    rw [table?, entries_ofSnapshot, ← Keyed.get?_ofList_map, List.map_map]
    rfl
  rw [found, found, described]

/-- A reordered snapshot with distinct columns is read into the same tables. -/
theorem tablesRead_reordered (reordered : listed.Reordered relisted)
    (distinct : listed.HasDistinctColumns) (settings : Settings) (kind : TableKind) :
    (ofSnapshot listed).tablesRead settings kind =
      (ofSnapshot relisted).tablesRead settings kind := by
  have same : (ofSnapshot listed).table? kind = (ofSnapshot relisted).table? kind :=
    funext (table?_reordered reordered distinct kind)
  rw [tablesRead, tablesRead, tableNames_reordered reordered, same]

end SnapshotCatalog

/-- The order in which the columns of tables and views and of their keys are listed has no
influence on the output. -/
theorem Generator.outputFor_reordered (generator : Generator) {listed relisted : Snapshot}
    (reordered : listed.Reordered relisted) (distinct : listed.HasDistinctColumns) :
    generator.outputFor listed = generator.outputFor relisted := by
  refine outputFor_congr reordered.procedures fun kind => ?_
  rw [SnapshotCatalog.tablesRead_reordered reordered distinct]

/-- Columns whose names differ in letter case only have an order of their own. -/
theorem Generator.outputFor_reordered_twins :
    let twin : ColumnInfo := { name := "ID", dbType := "int" }
    let key : ColumnInfo := { name := "id", dbType := "bigint" }
    let plain : ColumnInfo := { name := "at", dbType := "datetime" }
    let listed : Snapshot := { tables :=
      [{ name := "t", columns := [key, plain, twin], primaryKey := ["id", "at"] }] }
    let relisted : Snapshot := { tables :=
      [{ name := "t", columns := [twin, key, plain], primaryKey := ["at", "id"] }] }
    let generator : Generator := { settings := { sqlStatements := true } }
    listed.Reordered relisted ∧ listed.HasDistinctColumns ∧
      generator.outputFor listed = generator.outputFor relisted := by
  intro twin key plain listed relisted generator
  have reordered : listed.Reordered relisted := by
    refine ⟨.cons ⟨rfl, ?columns, ?primaryKey⟩ .nil, .nil, rfl⟩
    case columns => decide
    case primaryKey => decide
  have distinct : listed.HasDistinctColumns := by
    unfold Snapshot.HasDistinctColumns
    decide
  exact ⟨reordered, distinct, generator.outputFor_reordered reordered distinct⟩

end DataLayer
