import DataLayer.Proofs.Entity.Declaration
import DataLayer.Proofs.Procedure.Wrapping

/-!
# The sections of an output

A run declares a class for every table and view that is not excluded, in order. A generation that
succeeds is made of sections, of which some depend on these classes.
-/

namespace DataLayer.Generator

variable {generator : Generator}

section Entities

variable {tables : List Table} {entities : List EntityClass}

/-- A run declares what each of its tables declares, in order. -/
theorem exists_outcomes (declared : generator.entitiesOf tables = .ok entities) :
    ∃ outcomes, entities = outcomes.filterMap id ∧
      tables.mapM (EntityClass.ofTable generator.settings generator.types) = .ok outcomes := by
  unfold entitiesOf at declared
  cases read : tables.mapM (EntityClass.ofTable generator.settings generator.types) with
  | error failure =>
      rw [read] at declared
      cases declared
  | ok outcomes =>
      rw [read] at declared
      cases declared
      exact ⟨outcomes, rfl, rfl⟩

/-- Every class of a run was declared for one of its tables. -/
theorem exists_table_of_mem (declared : generator.entitiesOf tables = .ok entities)
    {entity : EntityClass} (member : entity ∈ entities) :
    ∃ table ∈ tables,
      EntityClass.ofTable generator.settings generator.types table = .ok (some entity) := by
  obtain ⟨outcomes, rfl, read⟩ := exists_outcomes declared
  exact exists_member_of_mapM read (by simpa using member)

/-- A table that is not excluded has its declaration in the run. -/
theorem exists_entity_of_mem (declared : generator.entitiesOf tables = .ok entities)
    {table : Table} (member : table ∈ tables)
    (kept : generator.settings.tableFilter.excludes table.name = false) :
    ∃ entity ∈ entities,
      EntityClass.ofTable generator.settings generator.types table = .ok (some entity) := by
  obtain ⟨outcomes, rfl, read⟩ := exists_outcomes declared
  obtain ⟨outcome, among, described⟩ := exists_value_of_mapM read member
  cases outcome with
  | some entity => exact ⟨entity, by simpa using among, described⟩
  | none =>
      have excluded := EntityClass.excludes_of_ofTable described
      rw [kept] at excluded
      cases excluded

/-- Two runs one after the other are a run over both lists of tables. -/
theorem entitiesOf_append {views : List Table} {others : List EntityClass}
    (declared : generator.entitiesOf tables = .ok entities)
    (declaredViews : generator.entitiesOf views = .ok others) :
    generator.entitiesOf (tables ++ views) = .ok (entities ++ others) := by
  obtain ⟨outcomes, rfl, read⟩ := exists_outcomes declared
  obtain ⟨further, rfl, readViews⟩ := exists_outcomes declaredViews
  unfold entitiesOf
  rw [List.mapM_append, read, readViews, ← List.filterMap_append]
  rfl

end Entities

/-- The sections of the output for the classes of a run. -/
def sections (generator : Generator) (schema : Schema) (tables views : List EntityClass) :
    List String :=
  generator.openingSections ++
    [regionText "database tables" tables, regionText "database views" views] ++
    sectionIf generator.settings.useProcedures (generator.typedSurfaces schema.procedures).text ++
    generator.closingSections (registryOf (tables ++ views))

/-- A generation depends on the outcomes of its declarations alone: the tables come first, then the
views, and the procedures always have their section. -/
theorem generate_eq (generator : Generator) (schema : Schema) :
    generator.generate schema = (do
      let tables ← generator.entitiesOf schema.tables
      let views ← generator.entitiesOf schema.views
      pure (generator.assemble (generator.sections schema tables views))) := by
  unfold generate
  rw [procedureSections_eq]
  rfl

variable {schema : Schema} {output : String}

/-- A generation that succeeds has declared the classes of all tables and views. -/
theorem exists_entities (generated : generator.generate schema = .ok output) :
    ∃ tables views, generator.entitiesOf schema.tables = .ok tables ∧
      generator.entitiesOf schema.views = .ok views ∧
      output = generator.assemble (generator.sections schema tables views) := by
  rw [generate_eq] at generated
  cases declared : generator.entitiesOf schema.tables with
  | error failure =>
      rw [declared] at generated
      cases generated
  | ok tables =>
      cases declaredViews : generator.entitiesOf schema.views with
      | error failure =>
          rw [declared, declaredViews] at generated
          cases generated
      | ok views =>
          rw [declared, declaredViews] at generated
          exact ⟨tables, views, rfl, rfl, (Except.ok.inj generated).symm⟩

end DataLayer.Generator
