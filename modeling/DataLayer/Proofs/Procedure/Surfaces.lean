import DataLayer.Proofs.Code.Layout
import DataLayer.Proofs.Procedure.Wrapping
import Mathlib.Data.List.Forall2

/-!
# The surfaces of stored procedures

The code of the static class, of the interface and of the object class is fixed text around one
block for each procedure. The three blocks of a procedure have the same methods, with the same
types and the same parameters, and the classes of its results are there exactly when one of these
methods returns an object. `procedures_agree` states this of the text of all surfaces.
-/

namespace DataLayer

open Text (FixedAround concat joinWith)

/-- What a method shows on every surface. -/
structure MethodHead where
  name : String
  returnType : String
  purpose : String

namespace MethodHead

/-- The documentation of a method. -/
def summaryText (head : MethodHead) : String :=
  "        /// <summary> " ++ head.purpose ++ " </summary>\n"

/-- A method of the static class. The provider stands before the declared parameters. -/
def staticText (head : MethodHead) (declared : List String) (body : String) : String :=
  head.summaryText ++ "        public static " ++ head.returnType ++ " " ++ head.name ++ "(" ++
    joinWith ",\n            " ("IDataProviderSp sp_provider" :: declared) ++
    "\n        ) \x7b\n" ++ body ++ "        \x7d\n"

/-- A method of the interface. -/
def interfaceText (head : MethodHead) (declared : List String) : String :=
  head.summaryText ++ "        " ++ head.returnType ++ " " ++ head.name ++ "(" ++
    joinWith ", " declared ++ ");\n"

/-- A method of the object class. It calls the static method of its name, with the provider before
the arguments. -/
def objectText (head : MethodHead) (staticClass : String) (declared arguments : List String) :
    String :=
  head.summaryText ++ "        public " ++ head.returnType ++ " " ++ head.name ++ "(" ++
    joinWith ", " declared ++ ") \x7b\n            return " ++ staticClass ++ "." ++ head.name ++
    "(" ++ joinWith ", " ("this.provider" :: arguments) ++ ");\n        \x7d\n"

end MethodHead

namespace Parameter

/-- The name of the parameter in the generated methods. -/
def wrapperName (parameter : Parameter) : String :=
  WrapperParameter.clearOfLocals parameter.codeName

/-- The word in front of a parameter whose value comes back. -/
def passing (parameter : Parameter) : String := if parameter.isOutput then "out " else ""

/-- The parameter as a method declares it. -/
def declared (types : TypeMap) (parameter : Parameter) : String :=
  parameter.passing ++ types.parameter parameter.parameterType parameter.isOutput ++ " " ++
    parameter.wrapperName

/-- The parameter as a call passes it on. -/
def passed (parameter : Parameter) : String := parameter.passing ++ parameter.wrapperName

end Parameter

namespace Procedure

/-- Whether a method returns the results of the procedure as an object. -/
def hasDataObject (procedure : Procedure) : Bool :=
  procedure.returnsData && procedure.sample.isSome

/-- The class of that object. -/
def dataObjectClass (settings : Settings) (procedure : Procedure) : String :=
  settings.classPrefix ++ Identifier.pascalCase procedure.name

/-- The methods that a procedure is to have: the plain one always, the data set for data, and the
result object for data with a sample. -/
def heads (settings : Settings) (procedure : Procedure) : List MethodHead :=
  let name := Identifier.ofText (settings.procedurePrefix ++ procedure.name)
  let purpose (result : String) : String :=
    "Wrapper for stored procedure " ++ procedure.name ++ result ++ "."
  [⟨name, if procedure.returnsData then "DataTable" else "int", purpose ""⟩] ++
  (if procedure.returnsData then
    [⟨name ++ "_DataSet", "DataSet", purpose " returning DataSet"⟩]
  else
    []) ++
  (if procedure.hasDataObject then
    [⟨name ++ "_DataObject",
      settings.procedureClass ++ "." ++ procedure.dataObjectClass settings,
      purpose " returning data object"⟩]
  else
    [])

/-- The headings of the classes for the results of a procedure: one for each result table, numbered
in order, and the one that holds them all. -/
def classHeadings (settings : Settings) (procedure : Procedure) : List String :=
  match procedure.returnsData, procedure.sample with
  | true, some sample =>
    (sample.tables.mapIdx fun index _ =>
      procedure.dataObjectClass settings ++ "_" ++ index.repr ++ " : " ++
        settings.baseClassName) ++
    [procedure.dataObjectClass settings]
  | _, _ => []

/-- Text between the region marks of a procedure. -/
def inRegion (procedure : Procedure) (text : String) : String :=
  "        #region " ++ procedure.name ++ "\n" ++ text ++ "        #endregion\n"

end Procedure

/-- The text is a class of that heading. -/
def IsResultClass (heading text : String) : Prop :=
  ∃ purpose body, text = "\n        /// <summary> " ++ purpose ++
    " </summary>\n        public partial class " ++ heading ++ " \x7b\n" ++ body ++ "        \x7d\n"

/-- What the surfaces have for one procedure. -/
structure ProcedureBlocks where
  static : String
  interface : String
  object : String
  /-- The classes of the results. -/
  classes : String

/-- The blocks of a procedure have its methods, its parameters and the classes of its results. -/
structure BlocksAgree (settings : Settings) (types : TypeMap) (procedure : Procedure)
    (blocks : ProcedureBlocks) : Prop where
  static : ∃ bodies : List String, bodies.length = (procedure.heads settings).length ∧
    blocks.static = "\n" ++ procedure.inRegion (joinWith "\n"
      (List.zipWith (fun head body =>
          head.staticText (procedure.parameters.map (·.declared types)) body)
        (procedure.heads settings) bodies))
  interface : blocks.interface = procedure.inRegion (concat
    ((procedure.heads settings).map
      (·.interfaceText (procedure.parameters.map (·.declared types)))))
  object : blocks.object = procedure.inRegion (concat
    ((procedure.heads settings).map
      (·.objectText settings.procedureClass (procedure.parameters.map (·.declared types))
        (procedure.parameters.map (·.passed)))))
  classes : ∃ texts : List String, blocks.classes = concat texts ∧
    List.Forall₂ IsResultClass (procedure.classHeadings settings) texts

/-- The classes of the results of all procedures, between region marks when there are any. -/
def resultsText (procedures : List Procedure) (classes : Procedure → String) : String :=
  if procedures.any (·.hasDataObject) then
    "\n        #region result table wrappers\n" ++ concat (procedures.map classes) ++
      "        #endregion\n"
  else
    ""

namespace ProcedureWrapper

/-- What a method shows. -/
def headOf (method : WrapperMethod) : MethodHead := ⟨method.name, method.returnType, method.purpose⟩

variable (settings : Settings) (types : TypeMap) (procedure : Procedure)

/-- Results are wrapped exactly when a method returns them. -/
theorem isSome_aggregate_typed :
    (typed settings types procedure).aggregate.isSome = procedure.hasDataObject := by
  unfold typed ofParts typedAggregate? Procedure.hasDataObject
  cases procedure.returnsData <;> cases procedure.sample <;> rfl

/-- The methods of a wrapper have the heads that its procedure asks for, in order. -/
theorem map_headOf_methods :
    (typed settings types procedure).methods.map headOf = procedure.heads settings := by
  obtain ⟨name, parameters, returnsData, definition, sample, loadError⟩ := procedure
  cases returnsData <;> cases sample <;> rfl

/-- The declared parameters are those that the procedure's parameters spell. -/
theorem map_declaration_typed :
    (typed settings types procedure).parameters.map (·.declaration) =
      procedure.parameters.map (·.declared types) := by
  rw [parameters_typed, List.map_map]
  rfl

/-- The passed arguments are those that the procedure's parameters spell. -/
theorem map_argument_typed :
    (typed settings types procedure).parameters.map (·.argument) =
      procedure.parameters.map (·.passed) := by
  rw [parameters_typed, List.map_map]
  rfl

open Code

variable (wrapper : ProcedureWrapper) (method : WrapperMethod)

/-- The provider and the parameters behind it are one list. -/
theorem joinWith_parameters (first separator : String) (written : WrapperParameter → String) :
    joinWith separator (first :: wrapper.parameters.map written) =
      first ++ concat (wrapper.parameters.map fun parameter => separator ++ written parameter) := by
  rw [Text.joinWith_cons, List.map_map]
  rfl

/-- A static method is its head, the declarations and the body. -/
theorem text_staticMethod :
    Code.text 2 (wrapper.staticMethod method) =
      (headOf method).staticText (wrapper.parameters.map (·.declaration))
        (Code.text 3 (BodyStatement.codeOfAll method.body)) := by
  unfold staticMethod MethodHead.staticText MethodHead.summaryText headOf staticParameters
  rw [text_cons, text_block, joinWith_parameters]
  apply String.toList_inj.mp
  simp [text_line, summary, openingLines, Text.ended, indent, providerLocal]

/-- An interface method is its head and the declarations. -/
theorem text_interfaceMethod :
    Code.text 2 (wrapper.interfaceMethod method) =
      (headOf method).interfaceText (wrapper.parameters.map (·.declaration)) := by
  unfold interfaceMethod MethodHead.interfaceText MethodHead.summaryText headOf signature
  rw [text_cons]
  apply String.toList_inj.mp
  simp [text_line, summary, indent]

/-- An object method is its head, the declarations and the arguments it passes on. -/
theorem text_objectMethod (staticClass : String) :
    Code.text 2 (wrapper.objectMethod staticClass method) =
      (headOf method).objectText staticClass (wrapper.parameters.map (·.declaration))
        (wrapper.parameters.map (·.argument)) := by
  unfold objectMethod MethodHead.objectText MethodHead.summaryText headOf signature
    forwardedArguments
  rw [text_cons, text_block, joinWith_parameters]
  apply String.toList_inj.mp
  simp [text_line, summary, openingLines, Text.ended, indent]

end ProcedureWrapper

/-- A class in the code of the results has an empty line and a summary before it. -/
theorem isResultClass_block (purpose heading : String) (body : List Code) :
    IsResultClass heading
      (Code.text 2 [.blank, Code.summary purpose, .block ["public partial class " ++ heading] body])
    := by
  refine ⟨purpose, Code.text 3 body, ?_⟩
  rw [Code.text_cons, Code.text_blank, Code.text_cons, Code.text_block]
  apply String.toList_inj.mp
  simp [Code.text_line, Code.summary, Code.openingLines, Text.ended, Code.indent]

/-- A region named after a procedure wraps the text of what it holds. -/
theorem Procedure.text_region (procedure : Procedure) (body : List Code) :
    Code.text 2 (Code.region procedure.name body) = procedure.inRegion (Code.text 2 body) := by
  unfold inRegion
  rw [Code.text_region]
  apply String.toList_inj.mp
  simp [Code.indent]

namespace ProcedureWrapper

open Code

/-- What the surfaces have for the wrapper. -/
def blocks (staticClass : String) (wrapper : ProcedureWrapper) : ProcedureBlocks where
  static := Code.text 2 wrapper.staticCode
  interface := Code.text 2 wrapper.interfaceCode
  object := Code.text 2 (wrapper.objectCode staticClass)
  classes := Code.text 2 wrapper.resultCode

variable (settings : Settings) (types : TypeMap) (procedure : Procedure)

/-- Code that is written from the heads of the methods. -/
theorem text_flatMap_methods {code : WrapperMethod → List Code} {written : MethodHead → String}
    (same : ∀ method, Code.text 2 (code method) = written (headOf method)) :
    Code.text 2 ((typed settings types procedure).methods.flatMap code) =
      concat ((procedure.heads settings).map written) := by
  rw [text_flatMap, ← map_headOf_methods settings types procedure, List.map_map]
  exact congrArg concat (List.map_congr_left fun method _ => same method)

/-- The classes for the results of a sampled procedure: one for each table, and the aggregate. -/
theorem forall₂_aggregateCode (name : String) (sample : ResultShape) :
    let aggregate := ResultAggregate.typed settings name sample
    ∃ texts : List String, Code.text 2 (aggregate.code name) = concat texts ∧
      List.Forall₂ IsResultClass
        ((sample.tables.mapIdx fun index _ =>
            aggregate.className ++ "_" ++ index.repr ++ " : " ++ settings.baseClassName) ++
          [aggregate.className])
        texts := by
  intro aggregate
  have headings : (sample.tables.mapIdx fun index _ =>
      aggregate.className ++ "_" ++ index.repr ++ " : " ++ settings.baseClassName) =
      aggregate.tables.map fun result => result.className ++ " : " ++ result.baseClass := by
    refine List.ext_getElem (by simp [aggregate]) fun index _ _ => ?_
    simp only [aggregate, List.getElem_mapIdx, List.getElem_map, ResultAggregate.tables_typed,
      ResultClass.className_typed, ResultClass.baseClass_typed]
    rfl
  have ofTables : List.Forall₂ IsResultClass
      (aggregate.tables.map fun result => result.className ++ " : " ++ result.baseClass)
      (aggregate.tables.map fun result => Code.text 2 (result.code name)) := by
    rw [List.forall₂_map_left_iff, List.forall₂_map_right_iff, List.forall₂_same]
    intro result _
    have opening := isResultClass_block
      ("Wrapper for result table " ++ result.index.repr ++ " of " ++ name ++ ".")
      (result.className ++ " : " ++ result.baseClass)
    rw [← String.append_assoc, ← String.append_assoc] at opening
    exact opening _
  have whole := isResultClass_block ("Wrapper for all result tables of " ++ name ++ ".")
    aggregate.className
  have last (texts : List String) (text : String) :
      concat texts ++ text = concat (texts ++ [text]) := by
    simp
  -- The classes of the tables come first, and the one that holds them closes the list.
  rw [ResultAggregate.code, text_append, text_flatMap, last]
  exact ⟨_, rfl, List.rel_append (headings ▸ ofTables) (.cons (whole _) .nil)⟩

/-- The result classes of a wrapper are texts that open with the headings of its procedure, in
order. -/
theorem forall₂_resultCode :
    ∃ texts : List String,
      Code.text 2 (typed settings types procedure).resultCode = concat texts ∧
      List.Forall₂ IsResultClass (procedure.classHeadings settings) texts := by
  obtain ⟨name, parameters, returnsData, definition, sample, loadError⟩ := procedure
  cases returnsData with
  | false => exact ⟨[], rfl, .nil⟩
  | true =>
      cases sample with
      | none => exact ⟨[], rfl, .nil⟩
      | some sample => exact forall₂_aggregateCode settings name sample

/-- The blocks of a wrapper agree with the procedure it wraps. -/
theorem blocksAgree_typed :
    BlocksAgree settings types procedure
      ((typed settings types procedure).blocks settings.procedureClass) := by
  have declared := map_declaration_typed settings types procedure
  have passed := map_argument_typed settings types procedure
  have heads := map_headOf_methods settings types procedure
  constructor
  -- The three surfaces list the same methods with the same parameters, each in its own form.
  case static =>
    refine ⟨(typed settings types procedure).methods.map fun method =>
      Code.text 3 (BodyStatement.codeOfAll method.body), ?_, ?_⟩
    · rw [← heads, List.length_map, List.length_map]
    · change Code.text 2 (typed settings types procedure).staticCode = _
      unfold staticCode
      rw [text_cons, text_blank, ← heads, ← declared, List.zipWith_map, List.zipWith_self]
      refine congrArg ("\n" ++ ·) ((procedure.text_region _).trans ?_)
      rw [text_intersperse_blank]
      simp only [text_staticMethod]
  case interface =>
    refine (procedure.text_region _).trans (congrArg procedure.inRegion ?_)
    refine text_flatMap_methods settings types procedure fun method => ?_
    rw [text_interfaceMethod, declared]
  case object =>
    refine (procedure.text_region _).trans (congrArg procedure.inRegion ?_)
    refine text_flatMap_methods settings types procedure fun method => ?_
    rw [text_objectMethod, declared, passed]
  case classes => exact forall₂_resultCode settings types procedure

end ProcedureWrapper

namespace ProcedureSurfaces

open Code

variable (className helpers : String)

/-- The static class is a fixed frame around the static blocks and the result classes. -/
theorem fixedAround_staticClass :
    FixedAround (fun wrappers => Code.text 1 (staticClass ⟨className, helpers, wrappers⟩))
      [fun wrappers => concat (wrappers.map fun wrapper => Code.text 2 wrapper.staticCode),
       fun wrappers => Code.text 2 (resultsCode ⟨className, helpers, wrappers⟩)] := by
  dsimp only [staticClass]
  exact fixedAround_cons (fixedAround_block (fixedAround_append
    (fixedAround_behind (fixedAround_flatMap (fun _ => rfl) id) _) (.whole _)) _ []) _

/-- The interface is a fixed frame around the interface blocks. -/
theorem fixedAround_interfaceType :
    FixedAround (fun wrappers => Code.text 1 (interfaceType ⟨className, helpers, wrappers⟩))
      [fun wrappers => concat (wrappers.map fun wrapper => Code.text 2 wrapper.interfaceCode)] := by
  dsimp only [interfaceType, interfaceName]
  exact fixedAround_cons (fixedAround_block (fixedAround_flatMap (fun _ => rfl) id) _ []) _

/-- The text of the surfaces is fixed text around the blocks of the wrappers and the classes of the
results. -/
theorem fixedAround_text :
    FixedAround (fun wrappers => text ⟨className, helpers, wrappers⟩)
      [fun wrappers => concat (wrappers.map fun wrapper => Code.text 2 wrapper.staticCode),
       fun wrappers => Code.text 2 (resultsCode ⟨className, helpers, wrappers⟩),
       fun wrappers => concat (wrappers.map fun wrapper => Code.text 2 wrapper.interfaceCode),
       fun wrappers => concat
        (wrappers.map fun wrapper => Code.text 2 (wrapper.objectCode className))] := by
  have before := fixedAround_before
    (fixedAround_append (fixedAround_before (fixedAround_staticClass className helpers) [blank])
      (fixedAround_interfaceType className helpers)) [blank]
  dsimp only [text, code, objectClass, objectName, interfaceName]
  simp only [List.append_cons _ _ [block _ _]]
  exact fixedAround_lastBlock (fixedAround_before before [_]) _
    (fixedAround_behind (fixedAround_flatMap (fun _ => rfl) id) _)

end ProcedureSurfaces

namespace Generator

variable (generator : Generator)

/-- The result classes of all procedures are their blocks one after the other. -/
theorem text_resultsCode (procedures : List Procedure) :
    Code.text 2 (generator.typedSurfaces procedures).resultsCode =
      resultsText procedures fun procedure =>
        ((ProcedureWrapper.typed generator.settings generator.types procedure).blocks
          generator.settings.procedureClass).classes := by
  have present : (generator.typedSurfaces procedures).wrappers.any (·.aggregate.isSome) =
      procedures.any (·.hasDataObject) := by
    rw [wrappers_typedSurfaces, List.any_map]
    exact congrArg procedures.any (funext fun procedure =>
      ProcedureWrapper.isSome_aggregate_typed generator.settings generator.types procedure)
  unfold ProcedureSurfaces.resultsCode resultsText
  rw [present]
  cases procedures.any (·.hasDataObject) with
  | false => rfl
  | true =>
      change Code.text 2 (.blank :: Code.region _ _) =
        "\n        #region result table wrappers\n" ++ concat _ ++ "        #endregion\n"
      rw [Code.text_cons, Code.text_blank, Code.text_region, Code.text_flatMap,
        wrappers_typedSurfaces, List.map_map]
      apply String.toList_inj.mp
      simp [Code.indent, Function.comp_def, ProcedureWrapper.blocks]

/-- The surfaces agree: their text is always there, and it is fixed text around one block of each
procedure in the static class, in the interface and in the object class and around the classes of
the results, and the blocks of a procedure fit together. -/
theorem procedures_agree :
    ∃ (text : List Procedure → String) (blocks : Procedure → ProcedureBlocks),
      (∀ procedures, generator.proceduresText procedures = .ok (text procedures)) ∧
      FixedAround text
        [fun procedures => concat (procedures.map fun procedure => (blocks procedure).static),
         fun procedures => resultsText procedures fun procedure => (blocks procedure).classes,
         fun procedures => concat (procedures.map fun procedure => (blocks procedure).interface),
         fun procedures => concat (procedures.map fun procedure => (blocks procedure).object)] ∧
      ∀ procedure, BlocksAgree generator.settings generator.types procedure (blocks procedure) := by
  let wrapper := ProcedureWrapper.typed generator.settings generator.types
  refine ⟨_, fun procedure => (wrapper procedure).blocks generator.settings.procedureClass,
    generator.proceduresText_eq, ?_,
    ProcedureWrapper.blocksAgree_typed generator.settings generator.types⟩
  have around := (ProcedureSurfaces.fixedAround_text generator.settings.procedureClass
    (Text.trimEnd generator.clips.parameterHelpers)).comp (List.map wrapper)
  have results := funext generator.text_resultsCode
  dsimp only [typedSurfaces, surfacesOf] at results
  simp only [List.map_cons, List.map_nil, List.map_map] at around
  rw [results] at around
  exact around

end Generator

end DataLayer
