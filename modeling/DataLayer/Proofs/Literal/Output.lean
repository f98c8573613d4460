import DataLayer.Proofs.Generation.Registrations
import DataLayer.Proofs.Generation.Sections
import DataLayer.Proofs.Literal.Names
import DataLayer.Proofs.Result.ReportedNames

/-!
# Names in the output of a generation

The literals that the code of classes, mappings and procedures has for the names of a schema all
stand in the output. A name is read back from its literal exactly when the literal keeps all its
characters, so not every name is.
-/

namespace DataLayer

namespace Text

/-- The part stands somewhere in the text. -/
def Within (text part : String) : Prop := part.toList <:+: text.toList

namespace Within

variable {text part : String}

/-- A part of a part is a part. -/
theorem trans {inner : String} (outside : Within text part) (inside : Within part inner) :
    Within text inner :=
  List.IsInfix.trans inside outside

/-- A text is a part of itself with more around it. -/
theorem append (start after : String) : Within (start ++ part ++ after) part := by
  rw [Within, String.toList_append, String.toList_append]
  exact List.infix_append _ _ _

/-- Each piece is a part of all of them joined. -/
theorem joinWith {separator : String} {pieces : List String} (member : part ∈ pieces) :
    Within (Text.joinWith separator pieces) part := by
  induction pieces with
  | nil => cases member
  | cons first rest ih =>
      cases rest with
      | nil =>
          rw [List.mem_singleton.mp member]
          exact List.infix_refl _
      | cons next rest =>
          simp only [Within, Text.joinWith, String.toList_append] at ih ⊢
          rcases List.mem_cons.mp member with rfl | later
          · rw [List.append_assoc]
            exact (List.prefix_append _ _).isInfix
          · exact (ih later).trans (List.suffix_append _ _).isInfix

end Within

end Text

open Text (Within)

/-- What is on a line of code is in its text. -/
theorem Code.HasLine.within_layout {pieces : List Code} {text : String}
    (inside : HasLine pieces text) (depth : Nat) : Within (layout depth pieces) text := by
  obtain ⟨deeper, among⟩ := inside depth
  refine (Within.joinWith among).trans ?_
  rw [Within, String.toList_append]
  exact (List.suffix_append _ _).isInfix

namespace Literal

/-- The literal for a name stands in the text. -/
def ShownIn (text : String) : String → Style → String → Prop := Stands (Within text)

/-- A literal on a line of code is in every text that has the code in it. -/
theorem StandsIn.shownIn {pieces : List Code} {before name text : String} {style : Style}
    (stands : StandsIn pieces before style name) {depth : Nat}
    (inside : Within text (Code.layout depth pieces)) : ShownIn text before style name :=
  stands.imp fun _ here => inside.trans (here.within_layout depth)

end Literal

open Literal (ShownIn StandsIn)

/-- An output has the names of a table or view and of its columns, under which it is declared. -/
structure TableShown (settings : Settings) (output : String) (table : Table) : Prop where
  name : ShownIn output "[DataTable(" .plain table.name
  nameConstant : ShownIn output "public const string TableName = " .verbatim table.name
  column : ∀ column ∈ table.columns,
    ShownIn output "[DataField(" .plain (EntityClass.columnName settings column.name)
  columnConstant : ∀ column ∈ table.columns,
    let bound := EntityClass.columnName settings column.name
    ShownIn output ("public const string " ++ EntityClass.memberName settings bound ++ " = ")
      .verbatim bound

/-- An output has the names of a registered table and of its columns, in the mapping table and in
the query context as far as these are wanted. -/
structure RegistrationShown (settings : Settings) (output : String) (table : Table)
    (registered : RegisteredEntity) : Prop where
  columns : ∀ member ∈ registered.members, ∃ column ∈ table.columns,
    member.columnName = EntityClass.columnName settings column.name
  row : settings.omitInfrastructure = false → registered.kind = .table →
    ShownIn output "Register(" .verbatim table.name
  keyColumn : settings.omitInfrastructure = false → registered.kind = .table →
    ∀ key, registered.singleKey? = some key → key ∈ registered.members ∧
      ShownIn output ("Register(" ++ Literal.verbatim table.name ++ ", typeof(" ++
        registered.className ++ "), ") .verbatim key.columnName
  mapped : settings.omitContext = false →
    ShownIn output "[IQToolkit.Data.Mapping.Table(Name = " .plain
      (settings.catalogSchema ++ "." ++ table.name)
  mappedColumn : settings.omitContext = false → ∀ member ∈ registered.members,
    ShownIn output ("[IQToolkit.Data.Mapping.Column(Member = " ++
      Literal.plain member.memberName ++ ", Name = ") .plain member.columnName

/-- An output has the names of a procedure, of its parameters and of the columns of its results. -/
structure ProcedureShown (types : TypeMap) (output : String) (procedure : Procedure) : Prop where
  command : ShownIn output
    "sp_cmd.CommandText = sp_provider.DatabasePrefix + sp_provider.SchemaPrefix + " .plain
    ("." ++ procedure.name)
  parameter : ∀ parameter ∈ procedure.parameters,
    ∃ made, WrapperParameter.ofParameter types procedure.name parameter = .ok made ∧
      ShownIn output
        (if parameter.isOutput then "var " ++ made.handle ++ " = AddParameterOut(sp_cmd, "
        else "AddParameter(sp_cmd, ") .plain ("@" ++ parameter.name)
  resultColumn : procedure.returnsData = true → ∀ sample, procedure.sample = some sample →
    ∀ table ∈ sample.tables, ∀ name ∈ table.reportedNames, ∃ member between,
      ShownIn output "[DataField(" .plain name ∧
      ShownIn output ("public const string " ++ member ++ " = ") .verbatim name ∧
      ShownIn output ("this." ++ member ++ " = r.IsNull(") .plain name ∧
      ShownIn output ("this." ++ member ++ " = r.IsNull(" ++ Literal.plain name ++ between ++
        "r[") .plain name

namespace Generator

variable {generator : Generator} {schema : Schema} {output : String}

/-- Every section is in the output. -/
theorem within_assemble {sections : List String} {text : String} (member : text ∈ sections) :
    Within (generator.assemble sections) text := by
  rw [assemble]
  exact (Within.append _ "\n\x7d\n").trans (.joinWith member)

/-- Every class of a region is in its text. -/
theorem within_regionText {title : String} {entities : List EntityClass} {entity : EntityClass}
    (member : entity ∈ entities) : Within (regionText title entities) entity.text := by
  refine .joinWith (List.mem_append_left _ (List.mem_cons_of_mem _ ?_))
  exact List.mem_map_of_mem member

/-- The names of a table or view that is not excluded are in the output. -/
theorem tableShown_generate (generated : generator.generate schema = .ok output) {table : Table}
    (member : table ∈ schema.tables ++ schema.views)
    (kept : generator.settings.tableFilter.excludes table.name = false) :
    TableShown generator.settings output table := by
  obtain ⟨tables, views, declared, declaredViews, rfl⟩ := exists_entities generated
  have placed : ∃ entity,
      EntityClass.ofTable generator.settings generator.types table = .ok (some entity) ∧
      Within (generator.assemble (generator.sections schema tables views)) entity.text := by
    rcases List.mem_append.mp member with among | among
    · obtain ⟨entity, here, read⟩ := exists_entity_of_mem declared among kept
      have region : regionText "database tables" tables ∈
          generator.sections schema tables views := by simp [sections]
      exact ⟨entity, read, (within_assemble region).trans (within_regionText here)⟩
    · obtain ⟨entity, here, read⟩ := exists_entity_of_mem declaredViews among kept
      have region : regionText "database views" views ∈
          generator.sections schema tables views := by simp [sections]
      exact ⟨entity, read, (within_assemble region).trans (within_regionText here)⟩
  obtain ⟨entity, read, inside⟩ := placed
  obtain ⟨name, constant, columns⟩ := EntityClass.literals read
  exact
    { name := name.shownIn inside
      nameConstant := constant.shownIn inside
      column := fun column here => (columns column here).1.shownIn inside
      columnConstant := fun column here => (columns column here).2.shownIn inside }

/-- The mapping table is a section as soon as a class for a physical table is registered. -/
theorem within_mappings {tables views : List EntityClass} {registered : RegisteredEntity}
    (member : registered ∈ (registryOf (tables ++ views)).toList)
    (physical : registered.kind = .table)
    (wanted : generator.settings.omitInfrastructure = false) :
    let rows := (registryOf (tables ++ views)).mappingRows
    registered.mappingRow ∈ rows ∧
      Within (generator.assemble (generator.sections schema tables views))
        (Code.layout 1 (EntityRegistry.mappingsCode rows)) := by
  intro rows
  have among : registered.mappingRow ∈ rows := by
    refine List.mem_map_of_mem (List.mem_filter.mpr ⟨member, ?_⟩)
    rw [physical]
    rfl
  have filled : rows.isEmpty = false := List.isEmpty_eq_false_iff_exists_mem.mpr ⟨_, among⟩
  refine ⟨among, within_assemble (List.mem_append_right _ (List.mem_append_left _ ?_))⟩
  rw [sectionIf, if_pos (by simp [wanted, rows, filled])]
  exact List.mem_singleton_self _

/-- The query context is in the output unless it is left out. -/
theorem within_context {tables views : List EntityClass}
    (wanted : generator.settings.omitContext = false) :
    Within (generator.assemble (generator.sections schema tables views))
      (Code.layout 1 (EntityRegistry.contextCode generator.settings.catalogSchema
        (registryOf (tables ++ views)).toList)) := by
  refine within_assemble (List.mem_append_right _ (List.mem_append_right _ ?_))
  rw [sectionIf, if_pos (by simp [wanted])]
  exact List.mem_singleton_self _

/-- The names of the table that a class was registered for are in the output. -/
theorem registrationShown_generate (generated : generator.generate schema = .ok output) :
    ∃ entities, generator.entitiesOf (schema.tables ++ schema.views) = .ok entities ∧
      ∀ registered ∈ (registryOf entities).toList, ∃ table ∈ schema.tables ++ schema.views,
        RegistrationShown generator.settings output table registered := by
  obtain ⟨tables, views, declared, declaredViews, rfl⟩ := exists_entities generated
  have declaredAll := entitiesOf_append declared declaredViews
  refine ⟨tables ++ views, declaredAll, fun registered member => ?_⟩
  obtain ⟨entity, here, same⟩ := EntityRegistry.exists_entity_of_mem member
  obtain ⟨table, listed, read⟩ := exists_table_of_mem declaredAll here
  have named : registered.tableName = table.name := by
    rw [same]
    exact EntityClass.tableName_of_ofTable read
  obtain ⟨mapped, mappedColumns⟩ :=
    EntityRegistry.context_literals member generator.settings.catalogSchema
  refine ⟨table, listed, ?_⟩
  constructor
  case columns =>
    intro column among
    rw [same] at among
    obtain ⟨property, declared, rfl⟩ := List.mem_map.mp among
    exact EntityClass.column_of_property read declared
  case row =>
    intro wanted physical
    obtain ⟨among, inside⟩ := within_mappings member physical wanted
    rw [← named]
    exact (EntityRegistry.mappings_literals among).1.shownIn inside
  case keyColumn =>
    intro wanted physical key single
    obtain ⟨among, inside⟩ := within_mappings member physical wanted
    rw [← named]
    exact ⟨(RegisteredEntity.singleKey?_eq_some_iff.mp single).1,
      ((EntityRegistry.mappings_literals among).2 key single).shownIn inside⟩
  case mapped =>
    intro wanted
    rw [← named]
    exact mapped.shownIn (within_context wanted)
  case mappedColumn =>
    intro wanted column among
    exact (mappedColumns column among).shownIn (within_context wanted)

/-- The names of a procedure are in the output when procedures are wrapped. -/
theorem procedureShown_generate (generated : generator.generate schema = .ok output)
    (wrapped : generator.settings.useProcedures = true) {procedure : Procedure}
    (member : procedure ∈ schema.procedures) :
    ProcedureShown generator.types output procedure := by
  obtain ⟨tables, views, -, -, rfl⟩ := exists_entities generated
  let surfaces := generator.typedSurfaces schema.procedures
  let wrapper := ProcedureWrapper.typed generator.settings generator.types procedure
  have among : wrapper ∈ surfaces.wrappers := List.mem_map_of_mem member
  have inside : Within (generator.assemble (generator.sections schema tables views))
      (Code.layout 1 surfaces.code) := by
    refine within_assemble ?_
    simp only [sections, sectionIf, if_pos wrapped, List.mem_append, List.mem_singleton]
    exact .inl (.inr rfl)
  obtain ⟨command, parameters⟩ := wrapper.command_literals
  constructor
  case command => exact (ProcedureSurfaces.standsIn_code among command).shownIn inside
  case parameter =>
    intro parameter listed
    have bound := parameters _ (List.mem_map_of_mem listed)
    exact ⟨_, WrapperParameter.ofParameter_eq generator.types procedure.name parameter,
      (ProcedureSurfaces.standsIn_code among bound).shownIn inside⟩
  case resultColumn =>
    intro returning sample sampled table listed name reported
    obtain ⟨result, properties, contained⟩ :=
      ProcedureWrapper.exists_result generator.settings generator.types returning sampled listed
    -- The reported name is the one that a property of the result class was made with.
    rw [← ResultTable.columnName_typedProperties generator.settings table, ← properties] at reported
    obtain ⟨property, here, rfl⟩ := List.mem_map.mp reported
    have shown {before : String} {style : Literal.Style}
        (stands : StandsIn (result.code procedure.name) before style property.columnName) :
        ShownIn _ before style property.columnName :=
      (ProcedureSurfaces.standsIn_code_of_result among (stands.subset contained)).shownIn inside
    obtain ⟨bound, constant, asked, between, taken⟩ := ResultClass.literals here procedure.name
    exact ⟨property.memberName, between, shown bound, shown constant, shown asked, shown taken⟩

open Literal (Ordinary plain read? units verbatim)

/-- The names of tables and views, of their columns, of procedures, their parameters and the columns
of their results all stand in the output, and each is read back from its literal exactly when the
literal keeps its characters. The plain and the verbatim literal of a column without quotes agree
exactly when all characters are ordinary. -/
theorem generate_literals (generated : generator.generate schema = .ok output) :
    (∀ table ∈ schema.tables ++ schema.views,
        generator.settings.tableFilter.excludes table.name = false →
        TableShown generator.settings output table) ∧
      (∃ entities, generator.entitiesOf (schema.tables ++ schema.views) = .ok entities ∧
        ∀ registered ∈ (registryOf entities).toList, ∃ table ∈ schema.tables ++ schema.views,
          RegistrationShown generator.settings output table registered) ∧
      (generator.settings.useProcedures = true → ∀ procedure ∈ schema.procedures,
        ProcedureShown generator.types output procedure) ∧
      ∀ table ∈ schema.tables ++ schema.views, ∀ column ∈ table.columns,
        let bound := EntityClass.columnName generator.settings column.name
        '"' ∉ bound.toList → ∀ after, after.head? ≠ some '"' →
          (read? ((plain bound).toList ++ after) = read? ((verbatim bound).toList ++ after) ↔
            ∀ c ∈ bound.toList, Ordinary c) := by
  refine ⟨fun table member kept => tableShown_generate generated member kept,
    registrationShown_generate generated,
    fun wrapped procedure member => procedureShown_generate generated wrapped member, ?_⟩
  intro _ _ _ _ bound unquoted after apart
  exact Literal.read?_plain_eq_verbatim_iff unquoted apart

/-- A table with a single integer column. -/
private def tableWith (name column : String) : Table :=
  ⟨name, .table, [.ofInfo { name := column, dbType := "int" }]⟩

private def wrapping : Settings := { useProcedures := true }

private def ordersProcedure : Procedure where
  name := "grp_orders"
  returnsData := true
  sample := some ⟨[⟨[⟨"id", .int32⟩], 0⟩]⟩

/-- A table and a procedure of one result column, with procedures wrapped. -/
theorem generate_literals_orders :
    ∃ output, generate { settings := wrapping }
        { tables := [tableWith "orders" "id"], procedures := [ordersProcedure] } = .ok output ∧
      TableShown wrapping output (tableWith "orders" "id") ∧
      ProcedureShown .sqlServer output ordersProcedure := by
  obtain ⟨output, generated⟩ : ∃ output, generate { settings := wrapping }
      { tables := [tableWith "orders" "id"], procedures := [ordersProcedure] } = .ok output :=
    ⟨_, rfl⟩
  obtain ⟨tables, -, procedures, -⟩ := generate_literals generated
  exact ⟨output, generated, tables _ (by simp) (by decide), procedures rfl _ (by simp)⟩

/-- A table name with a quote is cut at the quote, and the two literals of a column name with a
backslash denote different texts. -/
theorem generate_literals_lost :
    ∃ output, generate { settings := {} } { tables := [tableWith "a\"b" "c\\b"] } = .ok output ∧
      (∃ after, Within output ("[DataTable(" ++ plain "a\"b" ++ after) ∧
        read? ((plain "a\"b").toList ++ after.toList) =
          some (units "a".toList, "b\"".toList ++ after.toList)) ∧
      (∃ after, Within output ("[DataField(" ++ plain "c\\b" ++ after) ∧
        read? ((plain "c\\b").toList ++ after.toList) =
          some (units "c\x08".toList, after.toList)) ∧
      ∃ after, Within output ("public const string c\\b = " ++ verbatim "c\\b" ++ after) ∧
        read? ((verbatim "c\\b").toList ++ after.toList) =
          some (units "c\\b".toList, after.toList) := by
  obtain ⟨output, generated⟩ : ∃ output, generate { settings := {} }
      { tables := [tableWith "a\"b" "c\\b"] } = .ok output := ⟨_, rfl⟩
  obtain ⟨⟨after, name, -⟩, -, column, constant⟩ :=
    tableShown_generate generated (List.mem_singleton_self _) (by decide)
  obtain ⟨afterColumn, bound, -⟩ := column _ (List.mem_singleton_self _)
  obtain ⟨afterConstant, written, reads⟩ := constant _ (List.mem_singleton_self _)
  refine ⟨output, generated, ⟨after, name, rfl⟩, ⟨afterColumn, bound, rfl⟩, afterConstant,
    written, ?_⟩
  have unquoted : '"' ∉ "c\\b".toList := by decide
  have whole := (reads []).mpr unquoted
  rwa [List.append_nil] at whole

end Generator

end DataLayer
