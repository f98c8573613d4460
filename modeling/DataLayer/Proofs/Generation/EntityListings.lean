import DataLayer.Proofs.Code.Layout
import DataLayer.Proofs.Generation.Sections
import DataLayer.Proofs.Snapshot.Exclusion

/-!
# The parts of an output that list the entity classes

A class is registered when it is emitted, so the regions, the mapping table and the query context
describe the same tables and views. The mapping table and the context are fixed text around one
piece for each of them. `generate_listings` states what these pieces say, in terms of the tables and
views that are not excluded.
-/

namespace DataLayer

open Text (FixedAround concat joinWith)

/-- A value under a new key comes behind the others. -/
theorem Keyed.values_put_of_fresh {α : Type} {keyed : Keyed α} {key : String}
    (fresh : key ∉ keyed.keys) (value : α) :
    (keyed.put key value).values = keyed.values ++ [value] := by
  obtain ⟨entries⟩ := keyed
  change key ∉ entries.map (·.1) at fresh
  change (putEntry key value entries).map (·.2) = entries.map (·.2) ++ [value]
  induction entries with
  | nil => rfl
  | cons entry rest ih =>
      obtain ⟨other, later⟩ := List.ne_and_not_mem_of_not_mem_cons fresh
      rw [putEntry, if_neg (Ne.symm other), List.map_cons, ih later, List.map_cons, List.cons_append]

namespace EntityRegistry

/-- The table names that are registered. -/
def tableNames (registry : EntityRegistry) : List String := registry.entities.keys

/-- A table that is new to the registry comes last. -/
theorem toList_register {registry : EntityRegistry} {entity : RegisteredEntity}
    (fresh : entity.tableName ∉ registry.tableNames) :
    (registry.register entity).toList = registry.toList ++ [entity] :=
  Keyed.values_put_of_fresh fresh entity

/-- A registration adds no other table than its own. -/
theorem mem_tableNames_register {registry : EntityRegistry} {entity : RegisteredEntity}
    {name : String} (member : name ∈ (registry.register entity).tableNames) :
    name ∈ registry.tableNames ∨ name = entity.tableName := by
  have keys := Keyed.keys_put registry.entities entity.tableName entity
  change name ∈ (registry.entities.put entity.tableName entity).keys at member
  rw [keys] at member
  split at member
  · exact .inl member
  · simpa [tableNames] using member

/-- Entities of distinct new names come behind those that were registered before. -/
theorem toList_foldl_register (entities : List RegisteredEntity) (registry : EntityRegistry)
    (fresh : ∀ entity ∈ entities, entity.tableName ∉ registry.tableNames)
    (distinct : (entities.map (·.tableName)).Nodup) :
    (entities.foldl register registry).toList = registry.toList ++ entities := by
  induction entities generalizing registry with
  | nil => simp
  | cons first others ih =>
      obtain ⟨apart, distinctOthers⟩ := List.nodup_cons.mp distinct
      have freshOthers : ∀ entity ∈ others,
          entity.tableName ∉ (registry.register first).tableNames := by
        intro entity later registered
        rcases mem_tableNames_register registered with before | same
        · exact fresh entity (List.mem_cons_of_mem _ later) before
        · have among := List.mem_map_of_mem (f := (·.tableName)) later
          rw [same] at among
          exact apart among
      rw [List.foldl_cons, ih _ freshOthers distinctOthers,
        toList_register (fresh first List.mem_cons_self), List.append_assoc, List.singleton_append]

end EntityRegistry

/-- Classes of distinct tables are registered in their order. -/
theorem Generator.toList_registryOf {entities : List EntityClass}
    (distinct : (entities.map (·.tableName)).Nodup) :
    (registryOf entities).toList = entities.map fun entity =>
      .ofClass entity (RegisteredEntity.propertyNameOf entity.tableName) := by
  let enter (entity : EntityClass) : RegisteredEntity :=
    .ofClass entity (RegisteredEntity.propertyNameOf entity.tableName)
  have folded : registryOf entities = (entities.map enter).foldl EntityRegistry.register {} :=
    (List.foldl_map (f := enter)).symm
  have names : ((entities.map enter).map (·.tableName)).Nodup := by
    rw [List.map_map]
    exact distinct
  rw [folded, EntityRegistry.toList_foldl_register _ _ (fun _ _ => List.not_mem_nil) names]
  rfl

namespace Table

/-- What a table or view is to be registered as: its class, and a member for each column with the
flags of the column. -/
def registration (settings : Settings) (table : Table) : RegisteredEntity where
  tableName := table.name
  className := table.className settings.classPrefix settings.viewPrefix
  kind := table.kind
  propertyName := RegisteredEntity.propertyNameOf table.name
  members := table.columns.map fun column =>
    let bound := EntityClass.columnName settings column.name
    ⟨bound, EntityClass.memberName settings bound, column.key, column.identity⟩

/-- The row that the mapping table is to have for a table: its class, and its key column with its
identity flag when there is exactly one, else null and false. -/
def mappingRow (settings : Settings) (table : Table) : MappingRow where
  tableName := table.name
  className := table.className settings.classPrefix settings.viewPrefix
  keyField :=
    match table.keyColumns with
    | [column] => "@\"" ++ EntityClass.columnName settings column.name ++ "\""
    | _ => "null"
  keyIsIdentity :=
    match table.keyColumns with
    | [column] => if column.identity then "true" else "false"
    | _ => "false"

end Table

/-- The line that enters a row into the mapping table. -/
def MappingRow.text (row : MappingRow) : String :=
  "            Register(@\"" ++ row.tableName ++ "\", typeof(" ++ row.className ++ "), " ++
    row.keyField ++ ", " ++ row.keyIsIdentity ++ ");\n"

/-- The line that maps a column in the query context. -/
def RegisteredMember.text (member : RegisteredMember) : String :=
  "        [IQToolkit.Data.Mapping.Column(Member = \"" ++ member.memberName ++ "\", Name = \"" ++
    member.columnName ++ "\"" ++ (if member.key then ", IsPrimaryKey = true" else "") ++
    (if member.identity then ", IsGenerated = true" else "") ++ ")]\n"

namespace RegisteredEntity

/-- The property of an entity in the interface of the query context. -/
def interfaceText (entity : RegisteredEntity) : String :=
  "        IQueryable<" ++ entity.className ++ "> " ++ entity.propertyName ++ " \x7b get; \x7d\n"

end RegisteredEntity

namespace EntityRegistry

open Code

end EntityRegistry

namespace Generator

/-- The tables or views that are not excluded. -/
def kept (generator : Generator) (tables : List Table) : List Table :=
  tables.filter fun table => ¬ generator.settings.Excludes table.name

/-- The class is emitted for the table or view, with a property for each column that has the flags
of the column. -/
structure Emits (generator : Generator) (table : Table) (entity : EntityClass) : Prop where
  text : generator.entityText table = .ok entity.text
  tableName : entity.tableName = table.name
  className : entity.className =
    table.className generator.settings.classPrefix generator.settings.viewPrefix
  kind : entity.kind = table.kind
  members : (entity.properties.map fun property =>
      ⟨property.columnName, property.memberName, property.key, property.identity⟩) =
    (table.registration generator.settings).members

variable {generator : Generator}

/-- What is declared for a table is a class with the names and flags of the table and its columns.
-/
theorem emits_of_ofTable {table : Table} {entity : EntityClass}
    (declared : EntityClass.ofTable generator.settings generator.types table = .ok (some entity)) :
    generator.Emits table entity := by
  obtain ⟨properties, read, rfl⟩ := EntityClass.exists_properties declared
  constructor
  case text => rw [entityText, declared]; rfl
  case tableName => rfl
  case className => rfl
  case kind => rfl
  case members =>
    refine map_eq_of_outcomes (fun column property described => ?_) (mapM_eq_ok_iff.mp read)
    obtain ⟨bound, named, -⟩ := EntityClass.names_of_property described
    obtain ⟨key, identity⟩ := EntityClass.flags_of_property described
    rw [bound, named, key, identity]

/-- The classes of a run are those of the tables that are not excluded, in order. -/
theorem forall₂_emits {tables : List Table} {entities : List EntityClass}
    (declared : generator.entitiesOf tables = .ok entities) :
    List.Forall₂ generator.Emits (generator.kept tables) entities := by
  obtain ⟨outcomes, rfl, read⟩ := exists_outcomes declared
  have each := mapM_eq_ok_iff.mp read
  clear declared read
  induction tables generalizing outcomes with
  | nil =>
      cases outcomes with
      | nil => exact .nil
      | cons outcome outcomes => cases each
  | cons table tables ih =>
      cases outcomes with
      | nil => cases each
      | cons outcome outcomes =>
          obtain ⟨first, others⟩ := List.cons.inj each
          have rest := ih outcomes others
          -- A table without a class is excluded, so it is not among those that are kept.
          cases outcome with
          | none =>
              have excluded := EntityClass.excludes_of_ofTable first
              rw [Settings.excludes_tableFilter, decide_eq_true_iff] at excluded
              rw [kept, List.filter_cons_of_neg (by simpa using excluded)]
              exact rest
          | some entity =>
              have included := EntityClass.excludes_eq_false_of_ofTable first
              rw [Settings.excludes_tableFilter, decide_eq_false_iff_not] at included
              rw [kept, List.filter_cons_of_pos (by simpa using included)]
              exact .cons (emits_of_ofTable first) rest

/-- The class of a table is registered as the table is to be. -/
theorem registration_of_emits (table : Table) (entity : EntityClass)
    (emitted : generator.Emits table entity) :
    table.registration generator.settings =
      .ofClass entity (RegisteredEntity.propertyNameOf entity.tableName) := by
  unfold RegisteredEntity.ofClass
  rw [emitted.tableName, emitted.className, emitted.kind, emitted.members]
  rfl

/-- The classes of tables with distinct names are registered as these tables are to be. -/
theorem toList_registryOf_of_emits {tables : List Table} {entities : List EntityClass}
    (emitted : List.Forall₂ generator.Emits tables entities)
    (distinct : (tables.map (·.name)).Nodup) :
    (registryOf entities).toList = tables.map (·.registration generator.settings) := by
  have names : tables.map (·.name) = entities.map (·.tableName) :=
    map_eq_of_forall₂ (fun _ _ emitted => emitted.tableName.symm) emitted
  rw [toList_registryOf (names ▸ distinct)]
  exact (map_eq_of_forall₂ registration_of_emits emitted).symm

end Generator

end DataLayer
