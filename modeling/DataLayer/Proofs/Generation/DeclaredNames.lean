import DataLayer.Proofs.Entity.Declaration
import DataLayer.Proofs.Identifier.Pascal
import DataLayer.Proofs.Procedure.ParameterNames
import DataLayer.Proofs.Settings.Names

/-!
# Declared names as identifiers

Entity classes, their members, parameters and the classes of data objects are named without cleaning:
a reserved word gets an underscore and Pascal case changes letters, but a character that cannot stand
in an identifier stays. `namesDeclared` says exactly when such a name is an identifier. None of them
is a reserved word.
-/

namespace DataLayer

open Identifier (isPart isSimple isStart pascalCase underscored)

/-- The name is an identifier exactly when it is fit to be one, and it is no reserved word. -/
structure NamedWhen (fit : Bool) (name : String) : Prop where
  identifier : Settings.isClassName name = fit
  free : Identifier.isReserved name = false

namespace NamedWhen

/-- A name with an underscore where it is unusable, if reserved words are unusable. -/
theorem ofUnderscored {unusable : String → Bool}
    (begins : ∀ name, unusable name = true → name.toList.head?.any isStart = true)
    (reserved : ∀ name, Identifier.isReserved name = true → unusable name = true)
    (name : String) : NamedWhen (isSimple name.toList) (underscored unusable name) where
  identifier := by
    rw [Settings.isClassName_eq, Identifier.isSimple_underscored begins]
  free := by
    rcases Identifier.underscored_eq_or unusable name with ⟨usable, same⟩ | ⟨-, marked⟩
    · rw [same, ← Bool.not_eq_true]
      intro word
      rw [reserved name word] at usable
      cases usable
    · rw [marked, Identifier.isReserved_underscore]

/-- A name in Pascal case behind an identifier. -/
theorem ofPascal {start name : String} (simple : Settings.isClassName start = true)
    (nonempty : name ≠ "") :
    NamedWhen ((pascalCase name).toList.all isPart) (start ++ pascalCase name) where
  identifier := by
    rw [Settings.isClassName_eq] at simple ⊢
    rw [String.toList_append, Identifier.isSimple_append simple]
  free := Identifier.isReserved_append_pascalCase start nonempty

end NamedWhen

/-- Reserved words and the names of locals begin as an identifier may. -/
theorem Parameter.isStart_of_isUnusable {name : String} (unusable : isUnusable name = true) :
    name.toList.head?.any isStart = true := by
  rcases Bool.or_eq_true_iff.mp unusable with reserved | begins
  · exact Identifier.isStart_of_isReserved reserved
  · obtain ⟨rest, characters⟩ := List.isPrefixOf_iff_prefix.mp begins
    have first : localStart.toList.head?.any isStart = true := by decide
    rw [← characters]
    exact first

/-- When the names that are declared for tables, views and procedures are identifiers. -/
structure NamesDeclared (settings : Settings) (types : TypeMap) : Prop where
  /-- The class of a table or view, when all characters of the name in Pascal case can stand in an
  identifier. -/
  classes : ∀ table entity, table.name ≠ "" →
    EntityClass.ofTable settings types table = .ok (some entity) →
    NamedWhen ((pascalCase table.name).toList.all isPart) entity.className
  /-- A member, when the name its column is bound under is an identifier. -/
  members : ∀ table entity, EntityClass.ofTable settings types table = .ok (some entity) →
    ∀ property ∈ entity.properties,
      NamedWhen (isSimple property.columnName.toList) property.memberName
  /-- A parameter, when its name without marks is an identifier. -/
  parameters : ∀ infos procedure, Parameter.ofInfos infos = .ok procedure.parameters →
    ∃ wrapper, ProcedureWrapper.ofProcedure settings types procedure = .ok wrapper ∧
      ∀ parameter ∈ wrapper.parameters,
        NamedWhen (isSimple parameter.name.toList) parameter.codeName
  /-- The class of a data object, like that of a table. -/
  dataObjects : ∀ procedure, procedure.name ≠ "" →
    ∃ wrapper, ProcedureWrapper.ofProcedure settings types procedure = .ok wrapper ∧
      ∀ aggregate ∈ wrapper.aggregate,
        NamedWhen ((pascalCase procedure.name).toList.all isPart) aggregate.className
  /-- Pascal case yields such characters from ASCII letters, digits and underscores, -/
  words : ∀ name : String, (∀ c ∈ name.toList, Text.isAsciiWord c = true) →
    (pascalCase name).toList.all isPart = true
  /-- and it keeps each character that is not one. -/
  others : ∀ name : String, (∃ c ∈ name.toList, isPart c = false) →
    (pascalCase name).toList.all isPart = false

/-- The declared names are identifiers as far as the catalog names are made of what can stand in
identifiers. -/
theorem namesDeclared {settings : Settings} {types : TypeMap}
    (classPrefix : Settings.isClassName settings.classPrefix = true)
    (viewPrefix : Settings.isClassName settings.viewPrefix = true)
    (memberPrefix : settings.memberPrefix = "") : NamesDeclared settings types where
  classes := by
    intro table entity nonempty declared
    obtain ⟨properties, -, rfl⟩ := EntityClass.exists_properties declared
    change NamedWhen _ (table.className settings.classPrefix settings.viewPrefix)
    unfold Table.className
    cases table.kind with
    | table => exact .ofPascal classPrefix nonempty
    | view => exact .ofPascal viewPrefix nonempty
  members := by
    intro table entity declared property among
    obtain ⟨column, -, read⟩ :=
      exists_member_of_mapM (EntityClass.properties_of_ofTable declared) among
    obtain ⟨bound, named, -⟩ := EntityClass.names_of_property read
    rw [named, ← bound, EntityClass.memberName, memberPrefix, String.empty_append]
    exact .ofUnderscored (fun _ => Identifier.isStart_of_isReserved) (fun _ => id) _
  parameters := by
    intro infos procedure read
    refine ⟨_, ProcedureWrapper.ofProcedure_eq settings types procedure, fun parameter among => ?_⟩
    obtain ⟨given, member, rfl⟩ := List.mem_map.mp among
    rw [WrapperParameter.codeName_typed types (Parameter.codeName_of_mem read member)]
    refine .ofUnderscored (fun _ => Parameter.isStart_of_isUnusable) (fun name reserved => ?_) _
    rw [Parameter.isUnusable, reserved, Bool.true_or]
  dataObjects := by
    intro procedure nonempty
    refine ⟨_, ProcedureWrapper.ofProcedure_eq settings types procedure, fun aggregate among => ?_⟩
    obtain ⟨sample, -, -, rfl⟩ := ProcedureWrapper.exists_sample settings among
    exact .ofPascal classPrefix nonempty
  words := fun _ => Identifier.all_isPart_pascalCase
  others := by
    rintro name ⟨c, member, unfit⟩
    rw [← Bool.not_eq_true]
    intro parts
    have part := List.all_eq_true.mp parts c (Identifier.mem_pascalCase member unfit)
    rw [unfit] at part
    cases part

/-- The prefixes that are set by default are fit for every name. -/
theorem namesDeclared_default :
    let settings : Settings := {}
    (Settings.isClassName settings.classPrefix = true ∧
      Settings.isClassName settings.viewPrefix = true ∧ settings.memberPrefix = "") ∧
    NamesDeclared settings .sqlServer := by
  intro settings
  have classPrefix : Settings.isClassName settings.classPrefix = true := by decide
  have viewPrefix : Settings.isClassName settings.viewPrefix = true := by decide
  exact ⟨⟨classPrefix, viewPrefix, rfl⟩, namesDeclared classPrefix viewPrefix rfl⟩

/-- A table with one column. -/
private def lineTable (name column : String) : Table :=
  ⟨name, .table, [.ofInfo { name := column, dbType := "int" }]⟩

/-- Declared names need not be identifiers: a blank in the name of a table stays in its class, and
one in the name of a column in its member. -/
theorem namesDeclared_blank :
    (¬ ∀ (settings : Settings) (types : TypeMap) (table : Table) (entity : EntityClass),
      settings.validate = .ok () → Settings.isClassName settings.classPrefix = true →
      Settings.isClassName settings.viewPrefix = true → settings.memberPrefix = "" →
      table.name ≠ "" → EntityClass.ofTable settings types table = .ok (some entity) →
      Settings.isClassName entity.className = true) ∧
    ¬ ∀ (settings : Settings) (types : TypeMap) (table : Table) (entity : EntityClass),
      settings.validate = .ok () → Settings.isClassName settings.classPrefix = true →
      Settings.isClassName settings.viewPrefix = true → settings.memberPrefix = "" →
      table.name ≠ "" → EntityClass.ofTable settings types table = .ok (some entity) →
      ∀ property ∈ entity.properties, Settings.isClassName property.memberName = true := by
  refine ⟨fun claimed => ?_, fun claimed => ?_⟩
  · have fit := claimed {} .sqlServer (lineTable "order line" "number") _ rfl (by decide)
      (by decide) rfl (by decide) rfl
    exact absurd fit (by decide +kernel)
  · have fit := claimed {} .sqlServer (lineTable "lines" "line id") _ rfl (by decide)
      (by decide) rfl (by decide) rfl _ List.mem_cons_self
    exact absurd fit (by decide +kernel)

end DataLayer
