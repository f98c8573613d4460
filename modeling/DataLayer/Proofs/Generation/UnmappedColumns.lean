import DataLayer.Proofs.Generation.Sections
import DataLayer.Proofs.Snapshot.ColumnOrder
import DataLayer.Proofs.Snapshot.Exclusion

/-!
# Columns without a counterpart

Whatever entries of the type map are replaced, every parameter and every result column has a type,
and so has a column whose type name is built in or was added. Generation therefore fails with the
first other column of the tables and views that are not excluded, and with nothing else.
-/

namespace DataLayer

open Text (lower)

namespace TypeMap

/-- An entry to be replaced in a type map, or added to it. -/
inductive Override where
  | column (dbType : String) (nullable : Bool) (target : String)
  | parameter (parameterType : ParameterType) (input output : String)

/-- The map with an entry replaced. -/
def override (map : TypeMap) : Override → TypeMap
  | .column dbType nullable target => map.withColumn dbType nullable target
  | .parameter parameterType input output => map.withParameter parameterType input output

/-- The map of a SQL Server catalog with entries replaced in order. -/
def overridden (overrides : List Override) : TypeMap := overrides.foldl override sqlServer

/-- The entry is one for columns of this nullability and, up to letter case, this type name. -/
def Override.Covers (dbType : String) (nullable : Bool) : Override → Prop
  | column given optional _ => lower given = lower dbType ∧ optional = nullable
  | parameter .. => False

instance (dbType : String) (nullable : Bool) : DecidablePred (Override.Covers dbType nullable)
  | .column .. => inferInstanceAs (Decidable (_ ∧ _))
  | .parameter .. => inferInstanceAs (Decidable False)

/-- A column type has a counterpart: its name is built in, or an entry was added for it. -/
def Maps (overrides : List Override) (dbType : String) (nullable : Bool) : Prop :=
  lower dbType ∈ ColumnMapping.builtin.map (·.dbType) ∨
    ∃ entry ∈ overrides, entry.Covers dbType nullable

instance (overrides : List Override) (dbType : String) (nullable : Bool) :
    Decidable (Maps overrides dbType nullable) :=
  inferInstanceAs (Decidable (_ ∨ _))

/-- The type that the entry gives parameters of a class in a direction. -/
def Override.target? (parameterType : ParameterType) (isOutput : Bool) : Override → Option String
  | column .. => none
  | parameter given input output =>
    if given = parameterType then some (if isOutput then output else input) else none

/-- The entry of a class of parameters is the replaced one if it was replaced. -/
theorem parameterMapping?_withParameter (map : TypeMap) (given parameterType : ParameterType)
    (input output : String) :
    (map.withParameter given input output).parameterMapping? parameterType =
      if given = parameterType then some ⟨given, input, output⟩
      else map.parameterMapping? parameterType := by
  unfold parameterMapping? withParameter
  rw [List.cons_append]
  by_cases same : given = parameterType
  · rw [List.find?_cons_of_pos (by simpa using same), if_pos same]
  · rw [List.find?_cons_of_neg (by simpa using same), if_neg same]

/-- A replaced entry gives its type to the parameters of its class and keeps all others. -/
theorem resolveParameter_override (map : TypeMap) (entry : Override) {parameterType : ParameterType}
    {isOutput : Bool} {found : String}
    (resolved : map.resolveParameter parameterType isOutput = .ok found) :
    (map.override entry).resolveParameter parameterType isOutput =
      .ok ((entry.target? parameterType isOutput).getD found) := by
  cases entry with
  | column dbType nullable target => exact resolved
  | parameter given input output =>
      rw [override, resolveParameter, parameterMapping?_withParameter, Override.target?]
      by_cases same : given = parameterType
      · rw [if_pos same, if_pos same]
        rfl
      · rw [if_neg same, if_neg same]
        exact resolved

/-- A type that is found for a parameter is replaced by that of the latest entry for its class. -/
theorem resolveParameter_foldl (overrides : List Override) {map : TypeMap}
    {parameterType : ParameterType} {isOutput : Bool} {found : String}
    (resolved : map.resolveParameter parameterType isOutput = .ok found) :
    (overrides.foldl override map).resolveParameter parameterType isOutput =
      .ok ((overrides.reverse.findSome? (Override.target? parameterType isOutput)).getD found) := by
  induction overrides generalizing map found with
  | nil => exact resolved
  | cons first others ih =>
      -- The type found after the first entry is the one that the other entries may replace.
      rw [List.foldl_cons, ih (resolveParameter_override map first resolved), List.reverse_cons,
        List.findSome?_append]
      cases others.reverse.findSome? (Override.target? parameterType isOutput) <;>
        cases taken : first.target? parameterType isOutput <;> simp [taken]

/-- The entries for columns of a type are those that were there before and those that were replaced.
-/
theorem exists_column_foldl (overrides : List Override) (map : TypeMap) (dbType : String)
    (nullable : Bool) :
    (∃ entry ∈ (overrides.foldl override map).columns,
        entry.dbType = lower dbType ∧ entry.nullable = nullable) ↔
      (∃ entry ∈ map.columns, entry.dbType = lower dbType ∧ entry.nullable = nullable) ∨
        ∃ entry ∈ overrides, entry.Covers dbType nullable := by
  induction overrides generalizing map with
  | nil => simp
  | cons first others ih =>
      rw [List.foldl_cons, ih]
      cases first with
      | column given optional target =>
          simp [override, withColumn, Override.Covers, or_assoc, or_left_comm]
      | parameter parameterType input output => simp [override, withParameter, Override.Covers]

/-- A type has no built-in counterpart exactly when its name is on no row of the table. -/
theorem builtinColumn?_eq_none_iff {dbType : String} (nullable : Bool) :
    builtinColumn? dbType nullable = none ↔ dbType ∉ ColumnMapping.builtin.map (·.dbType) := by
  rw [builtinColumn?, Option.map_eq_none_iff, List.find?_eq_none]
  simp

/-- A map that began without replacements has an entry for each replaced column type. -/
theorem exists_column_overridden (overrides : List Override) (dbType : String) (nullable : Bool) :
    (∃ entry ∈ (overridden overrides).columns,
        entry.dbType = lower dbType ∧ entry.nullable = nullable) ↔
      ∃ entry ∈ overrides, entry.Covers dbType nullable := by
  rw [overridden, exists_column_foldl]
  simp [sqlServer]

/-- A lookup finds nothing exactly when the type has no counterpart. -/
theorem column?_eq_none_iff {overrides : List Override} {dbType : String} {nullable : Bool} :
    (overridden overrides).column? (lower dbType) nullable = none ↔
      ¬ Maps overrides dbType nullable := by
  unfold column? Maps
  rw [not_or, ← builtinColumn?_eq_none_iff nullable, ← exists_column_overridden]
  split
  · rename_i entry found
    have member := List.mem_of_find?_eq_some found
    have fits := List.find?_some found
    simp only [Bool.and_eq_true, beq_iff_eq] at fits
    simp only [reduceCtorEq, false_iff, not_and, not_not]
    exact fun _ => ⟨entry, member, fits⟩
  · rename_i missing
    refine (and_iff_left ?_).symm
    simpa using List.find?_eq_none.mp missing

end TypeMap

namespace EntityClass

variable (settings : Settings) (overrides : List TypeMap.Override)

/-- A property fails exactly when its column has no counterpart, and names table and column. -/
theorem failure?_property (table : Table) (column : Column) :
    failure? (property settings (.overridden overrides) table column) =
      if TypeMap.Maps overrides column.dbType column.nullable then none
      else some (.unmappedType column.dbType (table.name ++ "." ++ column.name)) := by
  unfold property TypeMap.resolve
  by_cases maps : TypeMap.Maps overrides column.dbType column.nullable
  · rw [if_pos maps]
    have found := mt TypeMap.column?_eq_none_iff.mp (not_not.mpr maps)
    cases looked : (TypeMap.overridden overrides).column? (lower column.dbType) column.nullable with
    | none => exact absurd looked found
    | some target => dsimp only; split <;> split at * <;> simp_all [failure?]
  · rw [if_neg maps, TypeMap.column?_eq_none_iff.mpr maps]
    rfl

/-- An excluded table never fails, and any other table with its first column that does. -/
theorem failure?_ofTable (types : TypeMap) (table : Table) :
    failure? (ofTable settings types table) =
      if settings.Excludes table.name then none
      else table.columns.findSome? fun column =>
        failure? (property settings types table column) := by
  rw [ofTable, Settings.excludes_tableFilter]
  by_cases excluded : settings.Excludes table.name
  · rw [if_pos (decide_eq_true excluded), if_pos excluded]
    rfl
  · rw [if_neg (by simpa using excluded), if_neg excluded, ← failure?_mapM]
    exact failure?_bind_pure _ _

end EntityClass

/-- The columns without a counterpart in the tables and views that are not excluded, each with its
table: tables before views, and columns in the order of their tables. -/
def Schema.unmappedColumns (schema : Schema) (settings : Settings)
    (overrides : List TypeMap.Override) : List (Table × Column) :=
  ((schema.tables ++ schema.views).filter fun table => ¬ settings.Excludes table.name).flatMap
    fun table => (table.columns.filter fun column =>
      ¬ TypeMap.Maps overrides column.dbType column.nullable).map (table, ·)

/-- To search what a filter leaves is to pass over what it removes. -/
private theorem findSome?_filter_not {α β : Type} (removed : α → Prop) [DecidablePred removed]
    (f : α → Option β) (members : List α) :
    (members.filter fun member => ¬ removed member).findSome? f =
      members.findSome? fun member => if removed member then none else f member := by
  induction members with
  | nil => rfl
  | cons member members ih =>
      by_cases gone : removed member
      · rw [List.filter_cons_of_neg (by simpa using gone), List.findSome?_cons, if_pos gone, ih]
      · rw [List.filter_cons_of_pos (by simpa using gone), List.findSome?_cons, List.findSome?_cons,
          if_neg gone, ih]

private theorem map_head? {α β : Type} (f : α → β) (members : List α) :
    members.head?.map f = members.findSome? fun member => some (f member) := by
  cases members <;> rfl

/-- A table sorts its columns when it is made. -/
theorem Table.pairwise_ofColumns (name : String) (kind : TableKind) (columns : List Column) :
    (ofColumns name kind columns).columns.Pairwise fun left right => left.precedes right := by
  refine List.pairwise_mergeSort ?_ ?_ columns
  · exact fun _ _ _ => Column.precedes_trans
  · exact Column.precedes_total

namespace Schema

variable (settings : Settings) (overrides : List TypeMap.Override) (schema : Schema)

/-- A search for a failure among the declarations comes to the first column without a
counterpart. -/
theorem findSome?_ofTable :
    ((schema.tables ++ schema.views).findSome? fun table =>
        failure? (EntityClass.ofTable settings (.overridden overrides) table)) =
      (schema.unmappedColumns settings overrides).head?.map fun entry =>
        .unmappedType entry.2.dbType (entry.1.name ++ "." ++ entry.2.name) := by
  rw [unmappedColumns, List.head?_flatMap, List.map_findSome?, findSome?_filter_not]
  refine congrArg (List.findSome? · _) (funext fun table => ?_)
  rw [EntityClass.failure?_ofTable]
  by_cases excluded : settings.Excludes table.name
  · rw [if_pos excluded, if_pos excluded]
  · rw [if_neg excluded, if_neg excluded, Function.comp_apply, List.head?_map, Option.map_map,
      map_head?, findSome?_filter_not]
    exact congrArg (List.findSome? · _)
      (funext fun column => EntityClass.failure?_property settings overrides table column)

/-- There are columns to report exactly when a table that is not excluded has one. -/
theorem unmappedColumns_ne_nil_iff :
    schema.unmappedColumns settings overrides ≠ [] ↔
      ∃ table ∈ schema.tables ++ schema.views, ¬ settings.Excludes table.name ∧
        ∃ column ∈ table.columns, ¬ TypeMap.Maps overrides column.dbType column.nullable := by
  rw [unmappedColumns, Ne, List.flatMap_eq_nil_iff]
  simp only [List.map_eq_nil_iff, List.filter_eq_nil_iff, List.mem_filter, decide_eq_true_iff]
  push Not
  simp only [and_assoc]

end Schema

namespace Generator

/-- Of all declarations, tables before views, the first that fails makes a generation fail. -/
theorem failure?_generate (generator : Generator) (schema : Schema) :
    failure? (generator.generate schema) =
      (schema.tables ++ schema.views).findSome? fun table =>
        failure? (EntityClass.ofTable generator.settings generator.types table) := by
  have declared (tables : List Table) : failure? (generator.entitiesOf tables) =
      tables.findSome? fun table =>
        failure? (EntityClass.ofTable generator.settings generator.types table) := by
    rw [← failure?_mapM]
    exact failure?_bind_pure _ _
  rw [List.findSome?_append, ← declared, ← declared, generate_eq]
  -- The procedures follow the views, and they never fail.
  cases generator.entitiesOf schema.tables with
  | error failure => rfl
  | ok tables => cases generator.entitiesOf schema.views <;> rfl

/-- What makes a generation with replaced entries of the type map fail, and what never does. -/
structure FailsOnUnmapped (generator : Generator) (overrides : List TypeMap.Override)
    (schema : Schema) : Prop where
  /-- The failure tells the type and the place of the first column without a counterpart. -/
  first : failure? (generator.generate schema) =
    (schema.unmappedColumns generator.settings overrides).head?.map fun (table, column) =>
      .unmappedType column.dbType (table.name ++ "." ++ column.name)
  failing : (∃ failure, generator.generate schema = .error failure) ↔
    ∃ table ∈ schema.tables ++ schema.views, ¬ generator.settings.Excludes table.name ∧
      ∃ column ∈ table.columns, ¬ TypeMap.Maps overrides column.dbType column.nullable
  /-- A table has its columns in the order of their names. -/
  order : ∀ (name : String) (kind : TableKind) (columns : List Column),
    (Table.ofColumns name kind columns).columns.Pairwise fun left right => left.precedes right
  /-- Procedures make no difference: there is code for any of them, -/
  procedures : ∀ procedures : List Procedure,
    (∃ text, generator.proceduresText procedures = .ok text) ∧
      failure? (generator.generate { schema with procedures := procedures }) =
        failure? (generator.generate schema)
  /-- since every parameter finds a type in both directions: the built-in one of its class, or that
  of the latest entry for the class, -/
  parameters : ∀ (parameterType : ParameterType) (isOutput : Bool), ∃ builtin,
    TypeMap.sqlServer.resolveParameter parameterType isOutput = .ok builtin ∧
      generator.types.resolveParameter parameterType isOutput =
        .ok ((overrides.reverse.findSome?
          (TypeMap.Override.target? parameterType isOutput)).getD builtin)
  /-- and so does every column of a result. -/
  results : ∀ runtimeType : RuntimeType, ∃ memberType,
    TypeMap.resolveResult runtimeType = .ok memberType

/-- Whatever entries of the type map are replaced, generation fails exactly when a table or view
that is not excluded has a column without a counterpart, and then with the first one. Neither
parameters nor columns of results ever make it fail. -/
theorem generate_unmapped (settings : Settings) (clips : Clips)
    (overrides : List TypeMap.Override) (schema : Schema) :
    FailsOnUnmapped ⟨settings, .overridden overrides, clips⟩ overrides schema := by
  let generator : Generator := ⟨settings, .overridden overrides, clips⟩
  have failing := (failure?_generate generator schema).trans
    (schema.findSome?_ofTable settings overrides)
  constructor
  case first => exact failing
  case failing =>
    rw [← schema.unmappedColumns_ne_nil_iff settings overrides]
    simp only [← failure?_eq_some_iff, generator, failing]
    cases schema.unmappedColumns settings overrides with
    | nil => simp
    | cons entry others => simp
  case order => exact Table.pairwise_ofColumns
  case procedures =>
    intro procedures
    exact ⟨⟨_, generator.proceduresText_eq procedures⟩,
      (failure?_generate generator _).trans (failure?_generate generator schema).symm⟩
  case parameters =>
    intro parameterType isOutput
    have builtin := TypeMap.sqlServer.resolveParameter_eq parameterType isOutput
    exact ⟨_, builtin, TypeMap.resolveParameter_foldl overrides builtin⟩
  case results => exact fun runtimeType => ⟨_, TypeMap.resolveResult_eq runtimeType⟩

end Generator

end DataLayer
