import DataLayer.Proofs.Keyed
import DataLayer.Proofs.Text.Ends
import DataLayer.Registry
import Mathlib.Data.List.Forall2

/-!
# The entities after some registrations

A registration of a table name that is there replaces the entity and leaves it in its place. So after
any number of registrations there is one entity for each table name, in the order in which the names
first came, and it is the one that was registered last. `registered_kept` states this together with
what the mapping table says about it.
-/

namespace DataLayer

namespace RegisteredEntity

variable {entity : RegisteredEntity}

/-- The key member is a member that is the only one with the key mark. -/
theorem singleKey?_eq_some_iff {member : RegisteredMember} :
    entity.singleKey? = some member ↔
      member ∈ entity.members ∧ member.key = true ∧ entity.members.countP (·.key) = 1 := by
  have among : member ∈ entity.members.filter (·.key) ↔
      member ∈ entity.members ∧ member.key = true := List.mem_filter
  rw [← and_assoc, ← among, List.countP_eq_length_filter]
  unfold singleKey?
  split
  case h_1 only single =>
    rw [single]
    simp [eq_comm]
  case h_2 other =>
    refine ⟨fun found => (by cases found), fun ⟨_, one⟩ => ?_⟩
    obtain ⟨only, single⟩ := List.length_eq_one_iff.mp one
    exact absurd single (other only)

/-- There is no single key when none or several members are marked. -/
theorem singleKey?_eq_none_iff :
    entity.singleKey? = none ↔ entity.members.countP (·.key) ≠ 1 := by
  rw [List.countP_eq_length_filter]
  unfold singleKey?
  split
  case h_1 only single => simp [single]
  case h_2 other =>
    refine ⟨fun _ one => ?_, fun _ => rfl⟩
    obtain ⟨only, single⟩ := List.length_eq_one_iff.mp one
    exact other only single

end RegisteredEntity

/-- What a row of the mapping table is to say about an entity. -/
structure MappingRow.Describes (row : MappingRow) (entity : RegisteredEntity) : Prop where
  tableName : row.tableName = entity.tableName
  className : row.className = entity.className
  /-- A key field is named exactly when one member has the key mark. -/
  keyed : row.keyField ≠ "null" ↔ entity.members.countP (·.key) = 1
  /-- It is the column of that member, and the row has its identity mark. -/
  key : ∀ member ∈ entity.members, member.key = true → row.keyField ≠ "null" →
    row.keyField = "@\"" ++ member.columnName ++ "\"" ∧
      row.keyIsIdentity = if member.identity then "true" else "false"
  keyless : row.keyField = "null" → row.keyIsIdentity = "false"

/-- The row of an entity says what it is to say. -/
theorem RegisteredEntity.describes_mappingRow (entity : RegisteredEntity) :
    entity.mappingRow.Describes entity := by
  cases single : entity.singleKey? with
  | some only =>
      obtain ⟨-, -, one⟩ := singleKey?_eq_some_iff.mp single
      have field : entity.mappingRow.keyField = Literal.verbatim only.columnName := by
        rw [mappingRow, single]
      -- A literal begins with its mark, so that it is never mistaken for a missing one.
      have set : entity.mappingRow.keyField ≠ "null" := by
        rw [field, Literal.verbatim, String.append_assoc]
        exact Text.append_ne (by decide) _
      constructor
      case tableName => rfl
      case className => rfl
      case keyed => exact iff_of_true set one
      case key =>
        intro member among key _
        obtain rfl : only = member := by
          have found := singleKey?_eq_some_iff.mpr ⟨among, key, one⟩
          rw [single] at found
          exact Option.some.inj found
        refine ⟨field, ?_⟩
        rw [mappingRow, single]
        rfl
      case keyless => exact fun null => absurd null set
  | none =>
      have field : entity.mappingRow.keyField = "null" := by
        rw [mappingRow, single]
      constructor
      case tableName => rfl
      case className => rfl
      case keyed =>
        exact iff_of_false (fun set => set field) (singleKey?_eq_none_iff.mp single)
      case key => exact fun _ _ _ set => absurd field set
      case keyless =>
        intro _
        rw [mappingRow, single]
        rfl

namespace EntityRegistry

/-- The registry after some registrations. -/
def afterAll (registrations : List RegisteredEntity) : EntityRegistry :=
  registrations.foldl register {}

variable (registrations : List RegisteredEntity)

/-- The registry keeps its entities by their table names. -/
theorem entities_afterAll :
    (afterAll registrations).entities =
      Keyed.ofList (registrations.map fun entity => (entity.tableName, entity)) := by
  have entered (registry : EntityRegistry) :
      (registrations.foldl register registry).entities =
        registrations.foldl (fun keyed entity => keyed.put entity.tableName entity)
          registry.entities := by
    induction registrations generalizing registry with
    | nil => rfl
    | cons first others ih => exact ih (registry.register first)
  rw [afterAll, entered, Keyed.ofList, List.foldl_map]

/-- Under each table name is the last registration of this name. -/
theorem get?_afterAll (name : String) :
    (afterAll registrations).entities.get? name =
      registrations.reverse.find? fun entity => entity.tableName = name := by
  rw [entities_afterAll, Keyed.get?_ofList_keyed]
  exact Option.map_id'

/-- The registration comes after all others of its table name. -/
def IsLast (registrations : List RegisteredEntity) (entity : RegisteredEntity) : Prop :=
  ∃ before after, registrations = before ++ entity :: after ∧
    ∀ later ∈ after, later.tableName ≠ entity.tableName

variable {registrations}

/-- Each entry is the last registration of its key. -/
theorem isLast_of_mem {entry : String × RegisteredEntity}
    (member : entry ∈ (afterAll registrations).entities.entries) :
    entry.2.tableName = entry.1 ∧ IsLast registrations entry.2 := by
  have distinct : (afterAll registrations).entities.keys.Nodup := by
    rw [entities_afterAll]
    exact Keyed.nodup_keys_ofList _
  have found := Keyed.get?_of_mem distinct member
  rw [get?_afterAll] at found
  obtain ⟨named, later, earlier, split, others⟩ := List.find?_eq_some_iff_append.mp found
  have own : entry.2.tableName = entry.1 := by simpa using named
  refine ⟨own, earlier.reverse, later.reverse, ?_, fun entity among => ?_⟩
  · rw [← List.reverse_inj, split]
    simp
  · have other := others entity (List.mem_reverse.mp among)
    simpa [own] using other

/-- What a registry holds after some registrations. -/
structure RegistrationsKept (registrations : List RegisteredEntity) (registry : EntityRegistry) :
    Prop where
  /-- There is one entity for each table name, in the order in which the names first came. -/
  names : registry.toList.map (·.tableName) = (registrations.map (·.tableName)).eraseDups
  last : ∀ entity ∈ registry.toList, IsLast registrations entity
  size : registry.size = (registrations.map (·.tableName)).eraseDups.length
  /-- The mapping table describes those that were last registered as tables, in this order. -/
  rows : List.Forall₂ MappingRow.Describes registry.mappingRows
    (registry.toList.filter fun entity => entity.kind = .table)

/-- A registry keeps the place of the first registration of a table name and the entity of the
last. -/
theorem registered_kept (registrations : List RegisteredEntity) :
    RegistrationsKept registrations (afterAll registrations) := by
  have keys : (afterAll registrations).entities.keys =
      (registrations.map (·.tableName)).eraseDups := by
    rw [entities_afterAll]
    exact Keyed.keys_ofList_keyed _ _ _
  constructor
  case names =>
    rw [← keys, toList, Keyed.values, Keyed.keys, List.map_map]
    exact List.map_congr_left fun entry member => (isLast_of_mem member).1
  case last =>
    intro entity among
    obtain ⟨entry, member, rfl⟩ := List.mem_map.mp among
    exact (isLast_of_mem member).2
  case size => rw [← keys, size, Keyed.size, Keyed.keys, List.length_map]
  case rows =>
    rw [mappingRows, List.forall₂_map_left_iff]
    exact List.forall₂_same.mpr fun entity _ => entity.describes_mappingRow

example :
    let order : RegisteredEntity := ⟨"order", "Order", .table, "Order", []⟩
    let item : RegisteredEntity := ⟨"item", "Item", .table, "Item", []⟩
    let registry := afterAll [order, item, { order with kind := .view }]
    registry.toList = [{ order with kind := .view }, item] ∧
      registry.mappingRows = [⟨"item", "Item", "null", "false"⟩] := by decide

end EntityRegistry

end DataLayer
