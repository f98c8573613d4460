import DataLayer.Proofs.Keyed
import DataLayer.Proofs.Snapshot.Answers

/-!
# Excluded tables

Tables and views that the settings exclude are read like all others, and a filter in front of the
class declarations keeps them out of the output. `outputFor_withoutExcluded` states that nothing
else depends on them: the output is that for a snapshot in which they never were.
-/

namespace DataLayer

open Introspection Reading

/-- Tables and views of this name are left out: the trimmed name in upper case is listed, or begins
as the settings say. -/
def Settings.Excludes (settings : Settings) (name : String) : Prop :=
  Text.upper (Text.trim name) ∈ settings.excludedTables ∨
    ∃ start ∈ settings.excludedPrefix, start.toList <+: (Text.upper (Text.trim name)).toList

instance Settings.decidableExcludes (settings : Settings) : DecidablePred settings.Excludes :=
  fun _ => inferInstanceAs (Decidable (_ ∨ _))

/-- The table filter passes over exactly the names that the settings exclude. -/
theorem Settings.excludes_tableFilter (settings : Settings) (name : String) :
    settings.tableFilter.excludes name = decide (settings.Excludes name) := by
  rw [Bool.eq_iff_iff, decide_eq_true_iff]
  unfold TableFilter.excludes Excludes tableFilter Text.startsWith
  cases settings.excludedPrefix <;> simp

/-- The snapshot without the tables and views of some names. -/
def Snapshot.without (snapshot : Snapshot) (removed : String → Prop) [DecidablePred removed] :
    Snapshot :=
  { snapshot with
    tables := snapshot.tables.filter fun table => ¬ removed table.name
    views := snapshot.views.filter fun view => ¬ removed view.name }

@[simp] theorem SnapshotTable.name_described (name : String) (kind : TableKind)
    (entry : SnapshotTable) : (entry.described name kind).name = name := by
  cases kind <;> rfl

namespace SnapshotCatalog

variable (snapshot : Snapshot) (removed : String → Prop) [DecidablePred removed]

/-- The catalog without some entries lists the others. -/
theorem entries_without (kind : TableKind) :
    (ofSnapshot (snapshot.without removed)).entries kind =
      .ofList (((snapshot.entries kind).map fun entry => (entry.name, entry)).filter
        fun entry => ¬ removed entry.1) := by
  rw [entries_ofSnapshot, List.filter_map]
  cases kind <;> rfl

/-- Nothing is read under a name that was removed, and the same as before under every other. -/
theorem table?_without (kind : TableKind) (name : String) :
    (ofSnapshot (snapshot.without removed)).table? kind name =
      if removed name then none else (ofSnapshot snapshot).table? kind name := by
  have found := Keyed.get?_ofList_filter (fun name => ¬ removed name)
    ((snapshot.entries kind).map fun entry => (entry.name, entry)) name
  rw [table?, entries_without, found, table?, entries_ofSnapshot]
  by_cases gone : removed name <;> simp [gone]

/-- The names without the removed ones are the other names, in order. -/
theorem keys_without (kind : TableKind) :
    ((ofSnapshot (snapshot.without removed)).entries kind).keys =
      ((ofSnapshot snapshot).entries kind).keys.filter fun name => ¬ removed name := by
  rw [entries_without, entries_ofSnapshot]
  exact Keyed.keys_ofList_filter (fun name => ¬ removed name) _

/-- Of a snapshot without some names, the tables and views of the other names are read, in the same
order. -/
theorem tablesRead_without (settings : Settings) (kind : TableKind) :
    (ofSnapshot (snapshot.without removed)).tablesRead settings kind =
      ((ofSnapshot snapshot).tablesRead settings kind).filter
        fun table => ¬ removed table.name := by
  have asked (names : List String) :
      names.filterMap ((ofSnapshot (snapshot.without removed)).table? kind) =
        (names.filterMap ((ofSnapshot snapshot).table? kind)).filter
          fun table => ¬ removed table.name := by
    rw [List.filter_filterMap]
    refine congrArg (names.filterMap ·) (funext fun name => ?_)
    rw [table?_without, table?]
    by_cases gone : removed name
    · cases ((ofSnapshot snapshot).entries kind).get? name <;> simp [gone, Option.filter_some]
    · cases ((ofSnapshot snapshot).entries kind).get? name <;> simp [gone, Option.filter_some]
  have listed : ((ofSnapshot (snapshot.without removed)).entries kind).keys.filterMap
        ((ofSnapshot (snapshot.without removed)).table? kind) =
      ((ofSnapshot snapshot).entries kind).keys.filterMap
        ((ofSnapshot (snapshot.without removed)).table? kind) := by
    rw [keys_without, List.filterMap_filter]
    refine congrArg (List.filterMap · _) (funext fun name => ?_)
    rw [table?_without]
    by_cases gone : removed name <;> simp [gone]
  rw [tablesRead, tablesRead, ← asked]
  cases kind with
  | view => exact listed
  | table =>
      -- A selection is asked for as it is, so removed names are among those that are not found.
      unfold tableNames
      cases settings.tableFilter.include? with
      | some selected => rfl
      | none => exact listed

end SnapshotCatalog

namespace Generator

/-- The classes of some tables are the one of the first, where it has one, and those of the rest. -/
theorem entitiesOf_cons (generator : Generator) (table : Table) (tables : List Table) :
    generator.entitiesOf (table :: tables) = (do
      let entity ← EntityClass.ofTable generator.settings generator.types table
      let entities ← generator.entitiesOf tables
      pure (entity.toList ++ entities)) := by
  unfold entitiesOf
  rw [List.mapM_cons]
  cases EntityClass.ofTable generator.settings generator.types table with
  | error failure => rfl
  | ok entity =>
      cases tables.mapM (EntityClass.ofTable generator.settings generator.types) with
      | error failure => rfl
      | ok entities => cases entity <;> rfl

/-- An excluded table has no declaration, whatever the types of its columns. -/
theorem entitiesOf_filter (generator : Generator) (tables : List Table) :
    generator.entitiesOf (tables.filter fun table => ¬ generator.settings.Excludes table.name) =
      generator.entitiesOf tables := by
  induction tables with
  | nil => rfl
  | cons table tables ih =>
      by_cases excluded : generator.settings.Excludes table.name
      · have undeclared : EntityClass.ofTable generator.settings generator.types table =
            .ok none := by
          rw [EntityClass.ofTable, Settings.excludes_tableFilter, if_pos (decide_eq_true excluded)]
        rw [List.filter_cons_of_neg (by simpa using excluded), ih, entitiesOf_cons, undeclared]
        cases generator.entitiesOf tables <;> rfl
      · rw [List.filter_cons_of_pos (by simpa using excluded), entitiesOf_cons, entitiesOf_cons, ih]

/-- Excluded tables and views have no influence on the output. -/
theorem outputFor_withoutExcluded (generator : Generator) (snapshot : Snapshot) :
    generator.outputFor (snapshot.without generator.settings.Excludes) =
      generator.outputFor snapshot := by
  refine outputFor_congr rfl fun kind => ?_
  rw [SnapshotCatalog.tablesRead_without, entitiesOf_filter]

end Generator

end DataLayer
