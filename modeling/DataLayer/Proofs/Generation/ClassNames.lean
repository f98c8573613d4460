import DataLayer.Proofs.Generation.EntityListings
import DataLayer.Proofs.Identifier.Pascal

/-!
# The names of classes and context properties

The class of a table or view is named by a start for its kind and the name in Pascal case, and its
property in the query context by the identifier for the name in Pascal case. `entityNames_apart`
says which of these names are the same: those of names with one Pascal case, and no others as long
as the names are different up to letter case, for classes without their underscores and for
properties without everything but their letters and digits.
-/

namespace DataLayer

open Identifier (isSimple pascalCase withoutUnderscores)
open Text (letters lower upper)

/-- Values are different when something that depends on them alone is. -/
theorem nodup_map_of_imp {α β γ : Type} {values : α → β} {keys : α → γ} {members : List α}
    (apart : (members.map keys).Nodup)
    (same : ∀ first second, values first = values second → keys first = keys second) :
    (members.map values).Nodup :=
  List.pairwise_map.mpr ((List.pairwise_map.mp apart).imp fun different met =>
    different (same _ _ met))

namespace Table

/-- The name of the table in Pascal case. -/
def pascalName (table : Table) : String := pascalCase table.name

/-- The name of the table up to letter case, without underscores. -/
def looseName (table : Table) : String := upper (lower (withoutUnderscores table.name))

/-- The letters and digits of the name of the table, up to letter case. -/
def nameLetters (table : Table) : List Char := letters table.name.toList

/-- The property of the query context for the table. -/
def propertyName (table : Table) : String := RegisteredEntity.propertyNameOf table.name

/-- Tables with one Pascal case have names that agree up to letter case without underscores. -/
theorem looseName_eq_of_pascalName {left right : Table} (same : left.pascalName = right.pascalName) :
    left.looseName = right.looseName :=
  Identifier.upper_lower_eq_of_pascalCase same

/-- Tables with one property have the same letters and digits in their names. -/
theorem nameLetters_eq_of_propertyName {left right : Table}
    (same : left.propertyName = right.propertyName) : left.nameLetters = right.nameLetters := by
  have kept (table : Table) : letters table.propertyName.toList = table.nameLetters := by
    rw [propertyName, RegisteredEntity.propertyNameOf, Identifier.letters_ofText,
      Identifier.letters_pascalCase]
    rfl
  rw [← kept left, ← kept right, same]

/-- A table is registered under the property for its name. -/
theorem propertyName_registration (table : Table) (settings : Settings) :
    (table.registration settings).propertyName = table.propertyName := by
  rw [registration, propertyName]

/-- The property depends on the Pascal case alone. -/
theorem propertyName_eq_of_pascalName {left right : Table}
    (same : left.pascalName = right.pascalName) : left.propertyName = right.propertyName :=
  congrArg Identifier.ofText same

/-- A Pascal case that is an identifier needs no cleaning, since no reserved word begins with a
capital. -/
theorem propertyName_eq_of_isSimple {table : Table}
    (simple : isSimple table.pascalName.toList = true) : table.propertyName = table.pascalName :=
  Identifier.ofText_of_isSimple simple (Identifier.isReserved_pascalCase table.name)

end Table

/-- The classes of tables or views have different names exactly when these have different Pascal
cases. -/
structure ClassesApart (tables : List Table) (classes : List EntityClass) : Prop where
  ofPascal : (classes.map (·.className)).Nodup ↔ (tables.map (·.pascalName)).Nodup
  /-- So it is enough that the names are different up to letter case without their underscores. -/
  ofLoose : (tables.map (·.looseName)).Nodup → (classes.map (·.className)).Nodup

/-- Each table or view has one property in the query context, and those with one Pascal case have
one name. -/
structure PropertiesApart (tables : List Table) (registered : List RegisteredEntity) : Prop where
  listed : registered.map (·.tableName) = tables.map (·.name)
  met : (registered.map (·.propertyName)).Nodup → (tables.map (·.pascalName)).Nodup
  /-- A Pascal case that is an identifier is the name of the property. -/
  ofPascal : (∀ table ∈ tables, isSimple table.pascalName.toList = true) →
    registered.map (·.propertyName) = tables.map (·.pascalName)
  /-- It is enough that the letters and digits of the names are different up to letter case. -/
  ofLetters : (tables.map (·.nameLetters)).Nodup → (registered.map (·.propertyName)).Nodup

/-- When the names of the classes of an output and of their properties in the query context are
different. Classes are compared with those of their kind, properties with all others. -/
structure Generator.NamesEntities (generator : Generator) (schema : Schema) (output : String) :
    Prop where
  apart :
    let kept := generator.kept (schema.tables ++ schema.views)
    ∃ tables views, output = generator.assemble (generator.sections schema tables views) ∧
      List.Forall₂ generator.Emits kept (tables ++ views) ∧
      (∀ kind, ClassesApart (kept.filter (·.kind == kind))
        ((tables ++ views).filter (·.kind == kind))) ∧
      PropertiesApart kept (registryOf (tables ++ views)).toList

namespace Generator

variable {generator : Generator}

/-- The classes of one kind begin alike, so they differ where the Pascal cases do. -/
theorem classesApart_of_emits {tables : List Table} {entities : List EntityClass}
    (emitted : List.Forall₂ generator.Emits tables entities) (kind : TableKind) :
    ClassesApart (tables.filter (·.kind == kind)) (entities.filter (·.kind == kind)) := by
  -- One kind has one prefix, which cancels out of the comparison.
  obtain ⟨start, named⟩ : ∃ start, ∀ table : Table, table.kind = kind →
      table.className generator.settings.classPrefix generator.settings.viewPrefix =
        start ++ table.pascalName := by
    cases kind with
    | table =>
        refine ⟨generator.settings.classPrefix, fun table same => ?_⟩
        rw [Table.className, same]
        rfl
    | view =>
        refine ⟨generator.settings.viewPrefix, fun table same => ?_⟩
        rw [Table.className, same]
        rfl
  have ofKind : List.Forall₂ generator.Emits (tables.filter (·.kind == kind))
      (entities.filter (·.kind == kind)) :=
    List.rel_filter (fun table entity emitted => by
      change (table.kind == kind) = true ↔ (entity.kind == kind) = true
      rw [emitted.kind]) emitted
  have names : (entities.filter (·.kind == kind)).map (·.className) =
      ((tables.filter (·.kind == kind)).map (·.pascalName)).map (start ++ ·) := by
    rw [← map_eq_of_forall₂ (fun _ _ emitted => emitted.className.symm) ofKind, List.map_map]
    refine List.map_congr_left fun table member => named table ?_
    simpa using (List.mem_filter.mp member).2
  have ofPascal : ((entities.filter (·.kind == kind)).map (·.className)).Nodup ↔
      ((tables.filter (·.kind == kind)).map (·.pascalName)).Nodup := by
    rw [names]
    exact List.nodup_map_iff fun _ _ => (String.append_right_inj start).mp
  exact ⟨ofPascal, fun loose => ofPascal.mpr
    (nodup_map_of_imp loose fun _ _ => Table.looseName_eq_of_pascalName)⟩

/-- Tables with distinct names all have their entry in the registry, so their properties can be
compared one by one. -/
theorem propertiesApart_of_emits {tables : List Table} {entities : List EntityClass}
    (emitted : List.Forall₂ generator.Emits tables entities)
    (distinct : (tables.map (·.name)).Nodup) :
    PropertiesApart tables (registryOf entities).toList := by
  have names : (tables.map (·.registration generator.settings)).map (·.propertyName) =
      tables.map (·.propertyName) := by
    rw [List.map_map]
    exact List.map_congr_left fun table _ => table.propertyName_registration generator.settings
  rw [toList_registryOf_of_emits emitted distinct]
  constructor
  case listed => exact List.map_map
  case met =>
    rw [names]
    exact fun apart => nodup_map_of_imp apart fun _ _ => Table.propertyName_eq_of_pascalName
  case ofPascal =>
    rw [names]
    exact fun simple => List.map_congr_left fun table member =>
      Table.propertyName_eq_of_isSimple (simple table member)
  case ofLetters =>
    rw [names]
    exact fun apart => nodup_map_of_imp apart fun _ _ => Table.nameLetters_eq_of_propertyName

/-- Classes of one kind have different names exactly when their tables or views have different Pascal
cases, and properties have at least when the letters and digits of the names are different. -/
theorem entityNames_apart {schema : Schema} {output : String}
    (distinct : ((schema.tables ++ schema.views).map (·.name)).Nodup)
    (generated : generator.generate schema = .ok output) :
    generator.NamesEntities schema output := by
  obtain ⟨tables, views, declared, declaredViews, rfl⟩ := exists_entities generated
  have emitted := forall₂_emits (entitiesOf_append declared declaredViews)
  have distinctKept : ((generator.kept (schema.tables ++ schema.views)).map (·.name)).Nodup :=
    distinct.sublist (List.filter_sublist.map _)
  exact ⟨tables, views, rfl, emitted, classesApart_of_emits emitted,
    propertiesApart_of_emits emitted distinctKept⟩

/-- A table or view with one column of whole numbers. -/
private def numbered (name : String) (kind : TableKind) : Table :=
  ⟨name, kind, [.ofInfo { name := "number", dbType := "int" }]⟩

/-- Two tables and a view whose names are different in every respect. -/
private def stockSchema : Schema where
  tables := [numbered "item" .table, numbered "Item_Kind" .table]
  views := [numbered "old" .view]

/-- The classes and properties of a stock are named apart. -/
theorem entityNames_apart_stock :
    let generator : Generator := { settings := {} }
    ∃ output, ((stockSchema.tables ++ stockSchema.views).map (·.name)).Nodup ∧
      generator.generate stockSchema = .ok output ∧
      generator.NamesEntities stockSchema output := by
  intro generator
  obtain ⟨output, generated⟩ : ∃ output, generator.generate stockSchema = .ok output := ⟨_, rfl⟩
  have distinct : ((stockSchema.tables ++ stockSchema.views).map (·.name)).Nodup := by decide
  exact ⟨output, distinct, generated, entityNames_apart distinct generated⟩

/-- Tables with different names can have classes of one name, and a table and a view can have
properties of one name: Pascal case leaves out how many underscores there are. -/
theorem entityNames_meet :
    (¬ ∀ (generator : Generator) (schema : Schema) (output : String),
      ((schema.tables ++ schema.views).map fun table => upper (lower table.name)).Nodup →
      generator.generate schema = .ok output →
      ∀ tables, generator.entitiesOf schema.tables = .ok tables →
        (tables.map (·.className)).Nodup) ∧
    ¬ ∀ (generator : Generator) (schema : Schema) (output : String),
      ((schema.tables ++ schema.views).map fun table => upper (lower table.name)).Nodup →
      generator.generate schema = .ok output →
      ∀ tables views, generator.entitiesOf schema.tables = .ok tables →
        generator.entitiesOf schema.views = .ok views →
        ((registryOf (tables ++ views)).toList.map (·.propertyName)).Nodup := by
  refine ⟨fun claimed => ?_, fun claimed => ?_⟩
  · let generator : Generator := { settings := {} }
    let schema : Schema := { tables := [numbered "a_b" .table, numbered "a__b" .table] }
    obtain ⟨output, generated⟩ : ∃ output, generator.generate schema = .ok output := ⟨_, rfl⟩
    have apart := claimed generator schema output (by decide) generated _ rfl
    exact absurd apart (by decide)
  · let generator : Generator := { settings := {} }
    let schema : Schema :=
      { tables := [numbered "a_b" .table], views := [numbered "a__b" .view] }
    obtain ⟨output, generated⟩ : ∃ output, generator.generate schema = .ok output := ⟨_, rfl⟩
    have apart := claimed generator schema output (by decide) generated _ _ rfl rfl
    exact absurd apart (by decide)

end Generator

end DataLayer
