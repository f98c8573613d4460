import DataLayer.Proofs.Code.Layout
import DataLayer.Proofs.Entity.MemberNames
import DataLayer.Proofs.Keyed
import DataLayer.Proofs.Literal.Reading
import DataLayer.Proofs.Procedure.Wrapping

/-!
# Names in the literals of generated code

Names of the catalog are put between quotes as they are. `Literal.StandsIn` says where such a
literal stands and when it is read back as the name: a plain one when the name has only ordinary
characters, a verbatim one when the name has no quote.
-/

namespace DataLayer

namespace Code

/-- The lines of several pieces are those of each piece. -/
theorem mem_linesOfAll {depth : Nat} {pieces : List Code} {text : String} :
    text ∈ linesOfAll depth pieces ↔ ∃ piece ∈ pieces, text ∈ lines depth piece := by
  induction pieces with
  | nil => simp [linesOfAll]
  | cons piece pieces ih => simp [linesOfAll, ih]

/-- A line of the code is the text, at whatever depth the code is laid out. -/
def HasLine (pieces : List Code) (text : String) : Prop :=
  ∀ depth, ∃ deeper, indent deeper ++ text ∈ linesOfAll depth pieces

namespace HasLine

variable {pieces body : List Code} {opening : List String} {text : String}

/-- A piece that is a line is on a line. -/
theorem of_mem (member : line text ∈ pieces) : HasLine pieces text := fun depth =>
  ⟨depth, mem_linesOfAll.mpr ⟨_, member, List.mem_singleton.mpr rfl⟩⟩

/-- What is on a line of a body is on a line of its block. -/
theorem inBlock (inside : HasLine body text) (member : block opening body ∈ pieces) :
    HasLine pieces text := by
  intro depth
  obtain ⟨deeper, among⟩ := inside (depth + 1)
  refine ⟨deeper, mem_linesOfAll.mpr ⟨_, member, ?_⟩⟩
  exact List.mem_append_left _ (List.mem_append_right _ among)

/-- A line stays when there is more code. -/
theorem subset {others : List Code} (inside : HasLine pieces text) (contained : pieces ⊆ others) :
    HasLine others text := by
  intro depth
  obtain ⟨deeper, among⟩ := inside depth
  obtain ⟨piece, member, here⟩ := mem_linesOfAll.mp among
  exact ⟨deeper, mem_linesOfAll.mpr ⟨piece, contained member, here⟩⟩

end HasLine

end Code

namespace Literal

/-- The two ways in which a name is put between quotes. -/
inductive Style where
  | plain
  | verbatim

/-- The literal that is written for a name. -/
def Style.write : Style → String → String
  | plain => Literal.plain
  | verbatim => Literal.verbatim

/-- No character of the name has a meaning of its own inside the literal. -/
def Style.Keeps : Style → String → Prop
  | plain, name => ∀ c ∈ name.toList, Ordinary c
  | verbatim, name => '"' ∉ name.toList

/-- Behind the given text stands the literal for a name. Reading it yields the name, and stops where
the literal was meant to end, exactly when the style keeps all characters. -/
def Stands (present : String → Prop) (before : String) (style : Style) (name : String) : Prop :=
  ∃ after, present (before ++ style.write name ++ after) ∧ ∀ rest,
    (read? ((style.write name).toList ++ (after.toList ++ rest)) =
      some (units name.toList, after.toList ++ rest) ↔ style.Keeps name)

/-- Where the text is present in one sense, it is in a weaker one. -/
theorem Stands.imp {present other : String → Prop} {before name : String} {style : Style}
    (stands : Stands present before style name) (weaker : ∀ text, present text → other text) :
    Stands other before style name := by
  obtain ⟨after, here, reads⟩ := stands
  exact ⟨after, weaker _ here, reads⟩

/-- The literal for a name stands on a line of the code. -/
def StandsIn (pieces : List Code) : String → Style → String → Prop :=
  Stands (Code.HasLine pieces)

namespace StandsIn

variable {pieces body : List Code} {before name : String} {style : Style}

/-- A line with the plain literal of a name has it there. -/
theorem plain {text : String} (member : Code.line text ∈ pieces) (after : String)
    (written : text = before ++ Literal.plain name ++ after) :
    StandsIn pieces before .plain name :=
  ⟨after, .of_mem (written ▸ member), fun rest => read?_plain_iff name (after.toList ++ rest)⟩

/-- A line with the verbatim literal of a name has it there, unless a quote follows that would
continue it. -/
theorem verbatim {text : String} (member : Code.line text ∈ pieces) (after : String)
    (written : text = before ++ Literal.verbatim name ++ after)
    (apart : ∀ rest, (after.toList ++ rest).head? ≠ some '"') :
    StandsIn pieces before .verbatim name :=
  ⟨after, .of_mem (written ▸ member), fun rest => read?_verbatim_iff name (apart rest)⟩

/-- A literal stays where it stands when there is more code, -/
theorem subset {others : List Code} (stands : StandsIn pieces before style name)
    (contained : pieces ⊆ others) : StandsIn others before style name :=
  stands.imp fun _ here => here.subset contained

/-- also when the code becomes the body of a block, -/
theorem inBlock {opening : List String} (stands : StandsIn body before style name)
    (member : Code.block opening body ∈ pieces) : StandsIn pieces before style name :=
  stands.imp fun _ here => here.inBlock member

/-- when other code follows, -/
theorem left (stands : StandsIn pieces before style name) (others : List Code) :
    StandsIn (pieces ++ others) before style name :=
  stands.subset (List.subset_append_left pieces others)

/-- when other code comes before, -/
theorem right (stands : StandsIn pieces before style name) (others : List Code) :
    StandsIn (others ++ pieces) before style name :=
  stands.subset (List.subset_append_right others pieces)

/-- when a region is made of it, -/
theorem inRegion (stands : StandsIn body before style name) (title : String) :
    StandsIn (Code.region title body) before style name :=
  stands.subset fun _ member => by simp [Code.region, member]

/-- when a single piece comes before, -/
theorem behind (stands : StandsIn body before style name) (first : Code) :
    StandsIn (first :: body) before style name :=
  stands.subset (List.subset_cons_self first body)

/-- and when it is the code of one member of several. -/
theorem ofMember {V : Type} {members : List V} {member : V} {code : V → List Code}
    (stands : StandsIn (code member) before style name) (among : member ∈ members) :
    StandsIn (members.flatMap code) before style name :=
  stands.subset fun _ here => List.mem_flatMap.mpr ⟨member, among, here⟩

end StandsIn

end Literal

open Literal (StandsIn)

namespace EntityClass

variable {settings : Settings} {types : TypeMap} {table : Table} {entity : EntityClass}

/-- Every column has a property, bound under its folded name. -/
theorem property_of_column (declared : ofTable settings types table = .ok (some entity))
    {column : Column} (member : column ∈ table.columns) :
    ∃ found ∈ entity.properties,
      found.columnName = columnName settings column.name ∧
      found.memberName = memberName settings (columnName settings column.name) ∧
      ∃ rest, found.attributeArguments =
        Literal.plain (columnName settings column.name) ++ rest := by
  obtain ⟨found, among, read⟩ := exists_value_of_mapM (properties_of_ofTable declared) member
  obtain ⟨bound, named, written⟩ := names_of_property read
  refine ⟨found, among, bound, named, ?_⟩
  rw [written]
  exact ⟨_, Text.joinWith_cons ", " _ _⟩

/-- Every property is bound under the folded name of a column. -/
theorem column_of_property (declared : ofTable settings types table = .ok (some entity))
    {found : EntityProperty} (member : found ∈ entity.properties) :
    ∃ column ∈ table.columns, found.columnName = columnName settings column.name := by
  obtain ⟨column, among, read⟩ := exists_member_of_mapM (properties_of_ofTable declared) member
  exact ⟨column, among, (names_of_property read).1⟩

/-- The literals of a class stand for its table and for the bound names of its columns. -/
theorem literals (declared : ofTable settings types table = .ok (some entity)) :
    StandsIn entity.code "[DataTable(" .plain table.name ∧
      StandsIn entity.code "public const string TableName = " .verbatim table.name ∧
      ∀ column ∈ table.columns,
        let bound := columnName settings column.name
        StandsIn entity.code "[DataField(" .plain bound ∧
          StandsIn entity.code ("public const string " ++ memberName settings bound ++ " = ")
            .verbatim bound := by
  have named := tableName_of_ofTable declared
  have inClass {before name : String} {style : Literal.Style}
      (stands : StandsIn (entity.properties.flatMap propertyCode ++ entity.constructorCode ++
        entity.columnsCode ++ entity.tableNameCode) before style name) :
      StandsIn entity.code before style name :=
    .inBlock (.left (.left stands _) _) (.tail _ (.tail _ (.head _)))
  refine ⟨.plain (.tail _ (.head _)) ")]" (by rw [named]), inClass (.right ?_ _),
    fun column member => ?_⟩
  · exact .verbatim (.tail _ (.tail _ (.head _))) ";" (by rw [named]) (by simp)
  obtain ⟨property, among, bound, named, rest, written⟩ := property_of_column declared member
  refine ⟨inClass (.left (.left (.left (.ofMember ?_ among) _) _) _),
    inClass (.left (.right (.behind (.inRegion (.inBlock (.ofMember ?_ among)
      (.tail _ (.head _))) _) _) _) _)⟩
  · exact .plain (.tail _ (.tail _ (.head _))) (rest ++ ")]")
      (by rw [written]; simp only [String.append_assoc])
  · exact .verbatim (.tail _ (.head _)) ";" (by rw [bound, named]) (by simp)

end EntityClass

namespace EntityRegistry

open Code

/-- The rows of the mapping table have literals for the table and for its single key column. -/
theorem mappings_literals {entity : RegisteredEntity} {rows : List MappingRow}
    (member : entity.mappingRow ∈ rows) :
    StandsIn (mappingsCode rows) "Register(" .verbatim entity.tableName ∧
      ∀ key, entity.singleKey? = some key →
        StandsIn (mappingsCode rows)
          ("Register(" ++ Literal.verbatim entity.tableName ++ ", typeof(" ++ entity.className ++
            "), ") .verbatim key.columnName := by
  have placed {before name : String} {style : Literal.Style}
      (stands : StandsIn (rows.map registerCall) before style name) :
      StandsIn (mappingsCode rows) before style name := by
    refine .inRegion (.inBlock (.inBlock stands
      (?_ : block ["static DalMappings()"] _ ∈ _)) (.tail _ (.tail _ (.head _)))) _
    simp only [List.mem_append, List.mem_cons, true_or, or_true]
  have call := List.mem_map_of_mem (f := registerCall) member
  refine ⟨placed (.verbatim call (", typeof(" ++ entity.className ++ "), " ++
    entity.mappingRow.keyField ++ ", " ++ entity.mappingRow.keyIsIdentity ++ ");") ?_ ?_),
    fun key single => placed (.verbatim call
      (", " ++ entity.mappingRow.keyIsIdentity ++ ");") ?_ ?_)⟩
  · simp only [String.append_assoc]
    rfl
  · simp
  · have named : entity.mappingRow.keyField = Literal.verbatim key.columnName := by
      rw [RegisteredEntity.mappingRow, single]
    rw [named]
    simp only [String.append_assoc]
    rfl
  · simp

/-- The query context has literals for every table with its schema and for every column. -/
theorem context_literals {entity : RegisteredEntity} {entities : List RegisteredEntity}
    (member : entity ∈ entities) (catalogSchema : String) :
    StandsIn (contextCode catalogSchema entities) "[IQToolkit.Data.Mapping.Table(Name = " .plain
        (catalogSchema ++ "." ++ entity.tableName) ∧
      ∀ column ∈ entity.members,
        StandsIn (contextCode catalogSchema entities)
          ("[IQToolkit.Data.Mapping.Column(Member = " ++ Literal.plain column.memberName ++
            ", Name = ") .plain column.columnName := by
  have placed {before name : String} {style : Literal.Style}
      (stands : StandsIn (providerProperty catalogSchema entity) before style name) :
      StandsIn (contextCode catalogSchema entities) before style name := by
    refine .inRegion (.inBlock ((stands.ofMember member).subset fun _ here => ?_)
      (.tail _ (.tail _ (.tail _ (.tail _ (.tail _ (.head _))))))) _
    exact List.mem_append_right _ here
  refine ⟨placed (.plain (.tail _ (.head _)) ")]" rfl), fun column among => placed ?_⟩
  have written : columnAttribute column ∈ providerProperty catalogSchema entity :=
    List.mem_append_left _ (List.mem_append_right _ (List.mem_map_of_mem among))
  exact .plain written ((if column.key then ", IsPrimaryKey = true" else "") ++
    (if column.identity then ", IsGenerated = true" else "") ++ ")]")
    (by simp only [String.append_assoc])

/-- What is found after some registrations was registered before or by one of them. -/
theorem mem_foldl_register {V : Type} (enter : V → RegisteredEntity) {members : List V}
    {registry : EntityRegistry} {registered : RegisteredEntity}
    (member : registered ∈
      (members.foldl (fun registry entered => registry.register (enter entered)) registry).toList) :
    registered ∈ registry.toList ∨ ∃ entered ∈ members, registered = enter entered := by
  induction members generalizing registry with
  | nil => exact .inl member
  | cons first rest ih =>
      rcases ih member with found | ⟨entered, later, same⟩
      · rcases Keyed.mem_values_put found with same | before
        · exact .inr ⟨first, List.mem_cons_self, same⟩
        · exact .inl before
      · exact .inr ⟨entered, List.mem_cons_of_mem first later, same⟩

/-- What is registered are the classes of the run. -/
theorem exists_entity_of_mem {entities : List EntityClass} {registered : RegisteredEntity}
    (member : registered ∈ (Generator.registryOf entities).toList) :
    ∃ entity ∈ entities, registered =
      .ofClass entity (RegisteredEntity.propertyNameOf entity.tableName) :=
  (mem_foldl_register _ member).resolve_left List.not_mem_nil

end EntityRegistry

private theorem mem_intersperse {α : Type} {member separator : α} {members : List α}
    (among : member ∈ members) : member ∈ members.intersperse separator := by
  induction members with
  | nil => cases among
  | cons first rest ih =>
      cases rest with
      | nil => exact among
      | cons next rest =>
          rcases List.mem_cons.mp among with rfl | later
          · exact .head _
          · exact .tail _ (.tail _ (ih later))

namespace ProcedureWrapper

variable {wrapper : ProcedureWrapper} {before name : String} {style : Literal.Style}

/-- Every wrapper has a method that gives the command and copies the values of outputs back. -/
theorem exists_executing_method (wrapper : ProcedureWrapper) :
    ∃ method ∈ wrapper.methods, wrapper.command ++ wrapper.copyOut ⊆ method.body := by
  have executing (fetch leave : List BodyStatement) :
      wrapper.command ++ wrapper.copyOut ⊆
        wrapper.command ++ fetch ++ wrapper.copyOut ++ leave := by
    intro statement here
    rcases List.mem_append.mp here with given | copied
    · exact List.mem_append_left _ (List.mem_append_left _ (List.mem_append_left _ given))
    · exact List.mem_append_left _ (List.mem_append_right _ copied)
  cases data : wrapper.returnsData with
  | true =>
      refine ⟨⟨wrapper.dataSetMethod, "DataSet", wrapper.purpose " returning DataSet",
        wrapper.dataSetBody⟩, by simp [methods, data], executing _ _⟩
  | false =>
      refine ⟨⟨wrapper.methodName, wrapper.returnType, wrapper.purpose "", wrapper.countBody⟩,
        by simp [methods, data], executing _ _⟩

/-- A line in the body of a method is one of the static methods. -/
theorem hasLine_staticCode {method : WrapperMethod} (member : method ∈ wrapper.methods)
    {text : String} (inside : Code.HasLine (BodyStatement.codeOfAll method.body) text) :
    Code.HasLine wrapper.staticCode text := by
  have inMethod : Code.HasLine (wrapper.staticMethod method) text :=
    inside.inBlock (.tail _ (.head _))
  refine inMethod.subset fun piece here => ?_
  have among : piece ∈ ((wrapper.methods.map wrapper.staticMethod).intersperse [.blank]).flatten :=
    List.mem_flatten_of_mem (mem_intersperse (List.mem_map_of_mem member)) here
  exact .tail _ (.tail _ (List.mem_append_left _ among))

/-- A line of the command, or of what is copied back, is one of the static methods. -/
theorem hasLine_staticCode_of_executing {text : String}
    (inside : Code.HasLine (BodyStatement.codeOfAll (wrapper.command ++ wrapper.copyOut)) text) :
    Code.HasLine wrapper.staticCode text := by
  obtain ⟨method, member, executing⟩ := wrapper.exists_executing_method
  exact hasLine_staticCode member (inside.subset (BodyStatement.codeOfAll_subset executing))

/-- What stands in the command stands in the static methods. -/
theorem standsIn_staticCode
    (stands : StandsIn (BodyStatement.codeOfAll wrapper.command) before style name) :
    StandsIn wrapper.staticCode before style name :=
  stands.imp fun _ here => hasLine_staticCode_of_executing
    (here.subset (BodyStatement.codeOfAll_subset (List.subset_append_left _ _)))

/-- The command has literals for the procedure and for each of its parameters. -/
theorem command_literals (wrapper : ProcedureWrapper) :
    StandsIn wrapper.staticCode
        "sp_cmd.CommandText = sp_provider.DatabasePrefix + sp_provider.SchemaPrefix + " .plain
        ("." ++ wrapper.name) ∧
      ∀ parameter ∈ wrapper.parameters,
        StandsIn wrapper.staticCode
          (if parameter.isOutput then "var " ++ parameter.handle ++ " = AddParameterOut(sp_cmd, "
            else "AddParameter(sp_cmd, ") .plain ("@" ++ parameter.name) := by
  refine ⟨standsIn_staticCode ?_, fun parameter member => standsIn_staticCode ?_⟩
  · rw [BodyStatement.codeOfAll_eq]
    exact .plain (.tail _ (.head _)) ";" rfl
  · have bound : parameter.binding.code ∈ BodyStatement.codeOfAll wrapper.command := by
      rw [BodyStatement.codeOfAll_eq]
      exact List.mem_map_of_mem (List.mem_append_right _ (List.mem_map_of_mem member))
    -- The literal stands in a longer text, which is taken apart in front of it and behind it.
    unfold WrapperParameter.binding at bound
    split at bound
    · rename_i output
      have start : " = AddParameterOut(sp_cmd, " =
          " = " ++ ("AddParameterOut" ++ ("(" ++ (commandLocal ++ ", "))) := rfl
      rw [if_pos output]
      refine .plain bound (", DbType." ++ parameter.parameterType.name ++ ", " ++
        "DBNull.Value, " ++ WrapperParameter.hint parameter.precision ++ ", " ++
        WrapperParameter.hint parameter.scale ++ ", " ++ WrapperParameter.hint parameter.size ++
        ")" ++ ";") ?_
      simp only [BodyStatement.heading, start, String.append_assoc]
    · rename_i input
      have start : "AddParameter(sp_cmd, " =
          "AddParameter" ++ ("(" ++ (commandLocal ++ ", ")) := rfl
      rw [if_neg input]
      refine .plain bound (", DbType." ++ parameter.parameterType.name ++ ", " ++
        "(CheckNull(" ++ parameter.codeName ++ ") ? (object) DBNull.Value : (object) " ++
        parameter.codeName ++ "));") ?_
      simp only [BodyStatement.heading, start, String.append_assoc]

end ProcedureWrapper

/-- The conversion of a value has the value in it. -/
theorem RuntimeType.exists_conversion (runtimeType : RuntimeType) (value : String) :
    ∃ before after, runtimeType.conversion value = before ++ value ++ after := by
  cases runtimeType with
  | dateTimeOffset | timeSpan | guid | binary => exact ⟨_, "", String.append_empty.symm⟩
  | object => exact ⟨"", "", by rw [String.append_empty, String.empty_append]; rfl⟩
  | _ => exact ⟨_, _, rfl⟩

namespace ResultProperty

/-- A property is filled from the column of its reported name: where the column is asked for null as
well as where its value is taken. -/
theorem fill_literals {property : ResultProperty} {pieces : List Code}
    (member : Code.line property.fill ∈ pieces) :
    StandsIn pieces ("this." ++ property.memberName ++ " = r.IsNull(") .plain
        property.columnName ∧
      ∃ between, StandsIn pieces ("this." ++ property.memberName ++ " = r.IsNull(" ++
        Literal.plain property.columnName ++ between ++ "r[") .plain property.columnName := by
  let null := ") ? (" ++ property.memberType ++ ") null : "
  obtain ⟨start, rest, converted⟩ := property.runtimeType.exists_conversion
    ("r[" ++ Literal.plain property.columnName ++ "]")
  have written : property.fill = "this." ++ property.memberName ++ " = r.IsNull(" ++
      Literal.plain property.columnName ++ (null ++ start ++ "r[" ++
        Literal.plain property.columnName ++ "]" ++ rest ++ ";") := by
    rw [fill, fillStatement, converted]
    simp only [null, String.append_assoc]
  refine ⟨.plain member _ written, null ++ start, .plain member ("]" ++ rest ++ ";") ?_⟩
  rw [written]
  simp only [String.append_assoc]

end ResultProperty

/-- The literals of a result class stand for the reported names of its columns, where a property is
declared as well as where it is filled. -/
theorem ResultClass.literals {result : ResultClass} {property : ResultProperty}
    (member : property ∈ result.properties) (procedure : String) :
    StandsIn (code procedure result) "[DataField(" .plain property.columnName ∧
      StandsIn (code procedure result) ("public const string " ++ property.memberName ++ " = ")
        .verbatim property.columnName ∧
      StandsIn (code procedure result) ("this." ++ property.memberName ++ " = r.IsNull(") .plain
        property.columnName ∧
      ∃ between, StandsIn (code procedure result) ("this." ++ property.memberName ++
        " = r.IsNull(" ++ Literal.plain property.columnName ++ between ++ "r[") .plain
        property.columnName := by
  have filling : Code.line property.fill ∈
      result.properties.map fun property => Code.line property.fill :=
    List.mem_map_of_mem member
  obtain ⟨asked, between, taken⟩ := property.fill_literals filling
  have filled {before : String} (stands : StandsIn (result.properties.map fun property =>
      Code.line property.fill) before .plain property.columnName) :
      StandsIn (code procedure result) before .plain property.columnName :=
    .inBlock (.left (.right (.inBlock stands (.tail _ (.tail _ (.head _)))) _) _)
      (.tail _ (.tail _ (.head _)))
  refine ⟨?_, ?_, filled asked, between, filled taken⟩
  · refine .inBlock (.left (.left (.ofMember ?_ member) _) _) (.tail _ (.tail _ (.head _)))
    exact .plain (.tail _ (.tail _ (.head _))) ", ReadOnly=true)]" rfl
  · refine .inBlock (.right (.inRegion (.inBlock (.ofMember ?_ member) (.tail _ (.head _))) _) _)
      (.tail _ (.tail _ (.head _)))
    exact .verbatim (.tail _ (.head _)) ";" rfl (by simp)

namespace ProcedureWrapper

/-- Every result table of a sampled procedure has its class. -/
theorem exists_result (settings : Settings) (types : TypeMap) {procedure : Procedure}
    (returning : procedure.returnsData = true) {sample : ResultShape}
    (sampled : procedure.sample = some sample) {table : ResultTable}
    (member : table ∈ sample.tables) :
    ∃ result : ResultClass, result.properties = ResultClass.typedProperties settings table ∧
      result.code procedure.name ⊆ (typed settings types procedure).resultCode := by
  let aggregate := ResultAggregate.typed settings procedure.name sample
  have wrapped : (typed settings types procedure).aggregate = some aggregate := by
    change typedAggregate? settings procedure = _
    rw [typedAggregate?, if_pos returning, sampled]
    rfl
  obtain ⟨index, inside, rfl⟩ := List.mem_iff_getElem.mp member
  let result := ResultClass.typed settings aggregate.className index sample.tables[index]
  have among : result ∈ aggregate.tables := List.mem_mapIdx.mpr ⟨index, inside, rfl⟩
  refine ⟨result, rfl, fun piece here => ?_⟩
  rw [resultCode, wrapped]
  exact List.mem_append_left _ (List.mem_flatMap.mpr ⟨result, among, here⟩)

end ProcedureWrapper

namespace ProcedureSurfaces

variable {surfaces : ProcedureSurfaces} {wrapper : ProcedureWrapper} {before name : String}
  {style : Literal.Style}

/-- What stands in the static methods of a wrapper stands in the surfaces. -/
theorem standsIn_code (member : wrapper ∈ surfaces.wrappers)
    (stands : StandsIn wrapper.staticCode before style name) :
    StandsIn surfaces.code before style name :=
  .left (.left (.left (.left (.inBlock (.left (.right (stands.ofMember member) _) _)
    (.tail _ (.head _))) _) _) _) _

/-- What stands among the result classes of a wrapper stands in the surfaces. -/
theorem standsIn_code_of_result (member : wrapper ∈ surfaces.wrappers)
    (stands : StandsIn wrapper.resultCode before style name) :
    StandsIn surfaces.code before style name := by
  have sampled : wrapper.aggregate.isSome = true := by
    cases aggregate : wrapper.aggregate with
    | some aggregate => rfl
    | none =>
        obtain ⟨after, nowhere, -⟩ := stands
        rw [ProcedureWrapper.resultCode, aggregate] at nowhere
        exact absurd (nowhere 0).choose_spec (List.not_mem_nil)
  have shown : StandsIn surfaces.resultsCode before style name := by
    rw [resultsCode, Code.onlyIf, if_pos (List.any_eq_true.mpr ⟨wrapper, member, sampled⟩)]
    exact .behind (.inRegion (stands.ofMember member) _) _
  exact .left (.left (.left (.left (.inBlock (.right shown _) (.tail _ (.head _))) _) _) _) _

end ProcedureSurfaces

end DataLayer
