import DataLayer.Proofs.Identifier.Pascal
import DataLayer.Proofs.Procedure.Surfaces
import DataLayer.Proofs.Text.Ends
import Mathlib.Data.List.Nodup

/-!
# The classes for results

The results of a procedure are held by one class for each result table and by one for all of them.
Their names begin with the name of the procedure in Pascal case, which has no underscore but in
front, so an underscore with a number behind it can only be the mark of a result table.
`resultClasses_apart` concludes that the classes of different procedures have different names, and
that every class which a method fills is declared once.
-/

namespace DataLayer

open Identifier (pascalCase)
open Naming (numbered)
open Text (behind?)

section Names

/-- What a class for results is there for. -/
inductive ResultPart where
  /-- The rows of the result table with the index. -/
  | table (index : Nat)
  /-- All result tables. -/
  | whole
deriving DecidableEq

/-- The name of a class, from that of the class for all result tables. -/
def ResultPart.className (aggregate : String) : ResultPart → String
  | table index => numbered (aggregate ++ "_") index
  | whole => aggregate

/-- The number of a result table does not belong to a name in Pascal case. -/
theorem pascalCase_ne_numbered {other : String} (some : pascalCase other ≠ "") (start name : String)
    (index : Nat) :
    start ++ pascalCase name ≠ numbered (start ++ pascalCase other ++ "_") index := by
  intro same
  have longer : pascalCase name = pascalCase other ++ ("_" ++ index.repr) := by
    rw [numbered, String.append_assoc, String.append_assoc] at same
    exact (String.append_right_inj start).mp same
  obtain ⟨first, rest, characters⟩ :=
    List.exists_cons_of_ne_nil (mt String.toList_eq_nil_iff.mp some)
  apply Identifier.underscore_not_mem_tail_pascalCase name
  rw [longer, String.toList_append, characters]
  exact List.mem_append_right _ (by simp)

/-- From the name of a class the Pascal case of the procedure and the part can be read back. -/
theorem className_pascalCase_inj {start name other : String} (some : pascalCase name ≠ "")
    (someOther : pascalCase other ≠ "") {part otherPart : ResultPart}
    (same : part.className (start ++ pascalCase name) =
      otherPart.className (start ++ pascalCase other)) :
    pascalCase name = pascalCase other ∧ part = otherPart := by
  cases part with
  | table index =>
      cases otherPart with
      | table otherIndex =>
          obtain ⟨names, rfl⟩ := Naming.numbered_underscore_inj same
          exact ⟨(String.append_right_inj start).mp names, rfl⟩
      | whole => exact absurd same.symm (pascalCase_ne_numbered some start other index)
  | whole =>
      cases otherPart with
      | table index => exact absurd same (pascalCase_ne_numbered someOther start name index)
      | whole => exact ⟨(String.append_right_inj start).mp same, rfl⟩

end Names

/-- The heading of a class, by the name and what the class is based on. -/
structure ResultHeading where
  name : String
  base : Option String

/-- The heading as it is written. -/
def ResultHeading.text (heading : ResultHeading) : String :=
  match heading.base with
  | some base => heading.name ++ " : " ++ base
  | none => heading.name

namespace Procedure

/-- The name of the procedure in Pascal case. -/
def pascalName (procedure : Procedure) : String := pascalCase procedure.name

/-- The result tables that classes are there for. -/
def resultTables (procedure : Procedure) : List ResultTable :=
  if procedure.returnsData then (procedure.sample.map (·.tables)).getD [] else []

/-- The parts of the results that classes are there for. -/
def resultParts (procedure : Procedure) : List ResultPart :=
  if procedure.hasDataObject then
    (List.range procedure.resultTables.length).map .table ++ [.whole]
  else
    []

variable (settings : Settings) (procedure : Procedure)

/-- The name of the class for a part of the results. -/
def resultClass (part : ResultPart) : String :=
  part.className (procedure.dataObjectClass settings)

/-- The heading of the class for a part of the results. -/
def resultHeading (part : ResultPart) : ResultHeading where
  name := procedure.resultClass settings part
  base :=
    match part with
    | .table _ => some settings.baseClassName
    | .whole => none

/-- The headings of all classes for the results of the procedure. -/
def resultHeadings : List ResultHeading :=
  procedure.resultParts.map (procedure.resultHeading settings)

/-- The names of all classes for the results of the procedure. -/
def resultClasses : List String := procedure.resultParts.map (procedure.resultClass settings)

/-- The headings of a procedure name its result classes. -/
theorem map_name_resultHeadings :
    (procedure.resultHeadings settings).map (·.name) = procedure.resultClasses settings := by
  rw [resultHeadings, resultClasses, List.map_map]
  rfl

/-- A procedure lists each part of its result once. -/
theorem nodup_resultParts : procedure.resultParts.Nodup := by
  unfold resultParts
  split
  case isTrue =>
    have tables := List.nodup_range (n := procedure.resultTables.length)
    refine List.nodup_append.mpr ⟨tables.map fun _ _ same => ResultPart.table.inj same, by simp, ?_⟩
    intro part among other last
    obtain ⟨index, -, rfl⟩ := List.mem_map.mp among
    rw [List.mem_singleton.mp last]
    exact ResultPart.noConfusion
  case isFalse => exact List.nodup_nil

/-- Only a procedure with a data object has result parts. -/
theorem hasDataObject_of_mem_resultParts {procedure : Procedure} {part : ResultPart}
    (member : part ∈ procedure.resultParts) : procedure.hasDataObject = true := by
  unfold resultParts at member
  split at member
  · assumption
  · cases member

/-- Procedures with different names in Pascal case have different classes for their results. -/
theorem nodup_flatMap_resultClasses {procedures : List Procedure}
    (some : ∀ procedure ∈ procedures, procedure.hasDataObject → procedure.pascalName ≠ "")
    (apart : ((procedures.filter (·.hasDataObject)).map pascalName).Nodup) :
    (procedures.flatMap (resultClasses settings)).Nodup := by
  refine List.nodup_flatMap.mpr ⟨fun procedure member => ?_, ?_⟩
  · refine (nodup_resultParts procedure).map_on fun part among other _ same => ?_
    have named := some procedure member (hasDataObject_of_mem_resultParts among)
    exact (className_pascalCase_inj named named same).2
  · have distinct := List.pairwise_filter.mp (List.pairwise_map.mp apart)
    refine distinct.imp_of_mem
      fun {first second} inFirst inSecond different name ofFirst ofSecond => ?_
    obtain ⟨part, among, rfl⟩ := List.mem_map.mp ofFirst
    obtain ⟨other, otherAmong, same⟩ := List.mem_map.mp ofSecond
    have hasFirst := hasDataObject_of_mem_resultParts among
    have hasSecond := hasDataObject_of_mem_resultParts otherAmong
    have named := some first inFirst hasFirst
    have namedSecond := some second inSecond hasSecond
    exact different hasFirst hasSecond (className_pascalCase_inj namedSecond named same).1.symm

end Procedure

/-! ### Declarations -/

namespace Code

/-- What stands before the heading of a class. -/
def classStart : String := "public partial class "

mutual

/-- The headings of the classes that code declares at any depth. -/
def classHeadings : Code → List String
  | line _ | blank | verbatim _ => []
  | block opening body => opening.filterMap (behind? classStart) ++ classHeadingsOfAll body
  | deeper body => classHeadingsOfAll body

/-- The headings of the classes in several pieces of code. -/
def classHeadingsOfAll : List Code → List String
  | [] => []
  | piece :: rest => piece.classHeadings ++ classHeadingsOfAll rest

end

@[simp] theorem classHeadingsOfAll_append (pieces others : List Code) :
    classHeadingsOfAll (pieces ++ others) =
      classHeadingsOfAll pieces ++ classHeadingsOfAll others := by
  induction pieces with
  | nil => rfl
  | cons piece pieces ih =>
      simp only [List.cons_append, classHeadingsOfAll, ih, List.append_assoc]

/-- The headings of gathered code are the gathered headings. -/
theorem classHeadingsOfAll_flatMap {V : Type} (members : List V) (code : V → List Code) :
    classHeadingsOfAll (members.flatMap code) =
      members.flatMap fun member => classHeadingsOfAll (code member) := by
  induction members with
  | nil => rfl
  | cons first members ih =>
      rw [List.flatMap_cons, List.flatMap_cons, classHeadingsOfAll_append, ih]

/-- Pieces without headings have none together. -/
theorem classHeadingsOfAll_eq_nil {pieces : List Code}
    (none : ∀ piece ∈ pieces, piece.classHeadings = []) : classHeadingsOfAll pieces = [] := by
  induction pieces with
  | nil => rfl
  | cons piece pieces ih =>
      obtain ⟨first, others⟩ := List.forall_mem_cons.mp none
      rw [classHeadingsOfAll, first, ih others, List.append_nil]

@[simp] theorem classHeadingsOfAll_region (title : String) (body : List Code) :
    classHeadingsOfAll (region title body) = classHeadingsOfAll body := by
  have bounded : region title body =
      [line ("#region " ++ title)] ++ body ++ [line "#endregion"] := rfl
  rw [bounded, classHeadingsOfAll_append, classHeadingsOfAll_append]
  exact List.append_nil _

/-- Blank lines between the members add no heading. -/
theorem classHeadingsOfAll_intersperse_blank {V : Type} (members : List V) (code : V → List Code) :
    classHeadingsOfAll ((members.map code).intersperse [blank]).flatten =
      members.flatMap fun member => classHeadingsOfAll (code member) := by
  induction members with
  | nil => rfl
  | cons first others ih =>
      cases others with
      | nil => simp
      | cons next others =>
          simp only [List.map_cons] at ih
          simp only [List.map_cons, List.intersperse_cons_cons, List.flatten_cons,
            classHeadingsOfAll_append, ih, List.flatMap_cons]
          rfl

/-- An opening line that does not begin like a class adds no heading. -/
theorem classHeadings_block_of_apart {opening : String}
    (apart : Text.startsApart classStart opening = true) (rest : String) (others : List String)
    (body : List Code) :
    (block ((opening ++ rest) :: others) body).classHeadings =
      (block others body).classHeadings := by
  rw [classHeadings, classHeadings, List.filterMap_cons_none (Text.behind?_of_apart apart rest)]

end Code

namespace BodyStatement

open Code

mutual

/-- No statement declares a class. -/
theorem classHeadings_code (statement : BodyStatement) : statement.code.classHeadings = [] := by
  cases statement with
  | declare name value => rfl
  | perform text => rfl
  | provided condition body =>
      have apart : Text.startsApart classStart "if (" = true := by decide
      change (block ["if (" ++ condition ++ ")"] (codeOfAll body)).classHeadings = []
      rw [String.append_assoc, classHeadings_block_of_apart apart]
      exact classHeadingsOfAll_codeOfAll body
  | forEach elementType name source body =>
      have apart : Text.startsApart classStart "foreach (" = true := by decide
      change (block ["foreach (" ++ elementType ++ " " ++ name ++ " in " ++ source ++ ")"]
        (codeOfAll body)).classHeadings = []
      simp only [String.append_assoc]
      rw [classHeadings_block_of_apart apart]
      exact classHeadingsOfAll_codeOfAll body

/-- The body of a method declares no class. -/
theorem classHeadingsOfAll_codeOfAll (body : List BodyStatement) :
    classHeadingsOfAll (codeOfAll body) = [] := by
  cases body with
  | nil => rfl
  | cons statement rest =>
      rw [codeOfAll, classHeadingsOfAll, classHeadings_code statement,
        classHeadingsOfAll_codeOfAll rest]
      rfl

end

end BodyStatement

namespace ResultClass

open Code

/-- A result class declares itself, with its base class. -/
theorem classHeadingsOfAll_code (procedure : String) (result : ResultClass) :
    classHeadingsOfAll (result.code procedure) =
      [ResultHeading.text ⟨result.className, some result.baseClass⟩] := by
  have properties :
      classHeadingsOfAll (result.properties.flatMap (propertyCode procedure)) = [] := by
    rw [classHeadingsOfAll_flatMap]
    exact List.flatMap_eq_nil_iff.mpr fun _ _ => rfl
  have fills : classHeadingsOfAll (result.properties.map fun property => line property.fill) = [] :=
    classHeadingsOfAll_eq_nil fun piece member => by
      obtain ⟨property, -, rfl⟩ := List.mem_map.mp member
      rfl
  have columns : classHeadingsOfAll (result.properties.flatMap fun property =>
      [line "///<summary>Name of column inside this table</summary>",
       line ("public const string " ++ property.memberName ++ " = " ++
         Literal.verbatim property.columnName ++ ";")]) = [] := by
    rw [classHeadingsOfAll_flatMap]
    exact List.flatMap_eq_nil_iff.mpr fun _ _ => rfl
  have fillMethod : behind? classStart "public void FillFromDataRow(DataRow r, bool autotrim)" =
    none := by decide
  have struct : behind? classStart "public struct Columns" = none := by decide
  have itself : behind? classStart
      ("public partial class " ++ result.className ++ " : " ++ result.baseClass) =
      some (ResultHeading.text ⟨result.className, some result.baseClass⟩) := by
    rw [← Text.behind?_append classStart (ResultHeading.text _)]
    simp only [classStart, ResultHeading.text, String.append_assoc]
  simp only [code, classHeadingsOfAll, classHeadings, classHeadingsOfAll_append,
    classHeadingsOfAll_region, properties, fills, columns, List.filterMap_cons, List.filterMap_nil,
    fillMethod, struct, itself]
  rfl

end ResultClass

namespace ResultAggregate

open Code

/-- The headings of the classes for the result tables and of the class for all of them. -/
def headings (aggregate : ResultAggregate) : List ResultHeading :=
  aggregate.tables.map (fun result => ⟨result.className, some result.baseClass⟩) ++
    [⟨aggregate.className, none⟩]

/-- An aggregate declares its result classes and then itself. -/
theorem classHeadingsOfAll_code (procedure : String) (aggregate : ResultAggregate) :
    classHeadingsOfAll (aggregate.code procedure) = aggregate.headings.map (·.text) := by
  have members : classHeadingsOfAll (aggregate.tables.flatMap fun result =>
      [line ("///<summary>Rows of result table " ++ result.index.repr ++ "</summary>"),
       line ("public IList<" ++ result.className ++ "> Table_" ++ result.index.repr ++ ";")]) =
      [] := by
    rw [classHeadingsOfAll_flatMap]
    exact List.flatMap_eq_nil_iff.mpr fun _ _ => rfl
  have itself : behind? classStart ("public partial class " ++ aggregate.className) =
      some aggregate.className := Text.behind?_append classStart _
  rw [code, headings, classHeadingsOfAll_append, classHeadingsOfAll_flatMap, List.map_append,
    List.map_map, List.map_eq_flatMap]
  simp only [ResultClass.classHeadingsOfAll_code, classHeadingsOfAll, classHeadings, members,
    List.filterMap_cons, List.filterMap_nil, itself]
  rfl

variable (settings : Settings) (types : TypeMap) (procedure : Procedure)

/-- A sample of tables gives one numbered class for each, and the class that holds them. -/
theorem headings_typed (name : String) (sample : ResultShape) :
    (typed settings name sample).headings =
      (List.range sample.tables.length).map (fun index =>
        ⟨numbered (settings.classPrefix ++ pascalCase name ++ "_") index,
          some settings.baseClassName⟩) ++
      [⟨settings.classPrefix ++ pascalCase name, none⟩] := by
  refine congrArg (· ++ [_]) (List.ext_getElem (by simp) fun index _ _ => ?_)
  simp [classNameOf, numbered]

end ResultAggregate

namespace ProcedureWrapper

open Code

variable (settings : Settings) (types : TypeMap) (procedure : Procedure)

/-- The aggregate of a wrapper declares the result headings of its procedure. -/
theorem headings_eq_resultHeadings {aggregate : ResultAggregate}
    (present : (typed settings types procedure).aggregate = some aggregate) :
    aggregate.headings = procedure.resultHeadings settings := by
  obtain ⟨sample, data, sampled, rfl⟩ := exists_sample settings present
  rw [ResultAggregate.headings_typed]
  simp only [Procedure.resultHeadings, Procedure.resultParts, Procedure.hasDataObject,
    Procedure.resultTables, data, sampled, Option.isSome_some, Bool.and_self, if_true,
    Option.map_some, Option.getD_some, List.map_append, List.map_map]
  rfl

/-- The classes that are declared for a procedure are those for the parts of its results. -/
theorem classHeadingsOfAll_resultCode :
    classHeadingsOfAll (typed settings types procedure).resultCode =
      (procedure.resultHeadings settings).map (·.text) := by
  unfold resultCode
  split
  case h_1 aggregate present =>
    rw [ResultAggregate.classHeadingsOfAll_code,
      headings_eq_resultHeadings settings types procedure present]
  case h_2 absent =>
    have none : procedure.hasDataObject = false := by
      rw [← isSome_aggregate_typed settings types, absent]
      rfl
    rw [Procedure.resultHeadings, Procedure.resultParts, none]
    rfl

/-- A static method declares no class. -/
theorem classHeadingsOfAll_staticMethod (wrapper : ProcedureWrapper) (method : WrapperMethod) :
    classHeadingsOfAll (wrapper.staticMethod method) = [] := by
  have closing : behind? classStart ")" = none := by decide
  have body : (block [")"] (BodyStatement.codeOfAll method.body)).classHeadings = [] := by
    rw [classHeadings, List.filterMap_cons_none closing, BodyStatement.classHeadingsOfAll_codeOfAll]
    rfl
  simp only [staticMethod, classHeadingsOfAll, summary, String.append_assoc]
  rw [classHeadings_block_of_apart (by decide), body]
  rfl

/-- The static code of a wrapper declares no class. -/
theorem classHeadingsOfAll_staticCode (wrapper : ProcedureWrapper) :
    classHeadingsOfAll wrapper.staticCode = [] := by
  have none : classHeadings blank = [] := rfl
  rw [staticCode, classHeadingsOfAll, none, classHeadingsOfAll_region,
    classHeadingsOfAll_intersperse_blank, List.nil_append]
  exact List.flatMap_eq_nil_iff.mpr fun method _ => classHeadingsOfAll_staticMethod wrapper method

end ProcedureWrapper

namespace Generator

open Code

variable (generator : Generator) (procedures : List Procedure)

/-- The result code of all procedures declares exactly their result classes, in order. -/
theorem classHeadingsOfAll_resultsCode :
    classHeadingsOfAll (generator.typedSurfaces procedures).resultsCode =
      (procedures.flatMap (Procedure.resultHeadings generator.settings)).map (·.text) := by
  have declared : classHeadingsOfAll
      ((generator.typedSurfaces procedures).wrappers.flatMap (·.resultCode)) =
      (procedures.flatMap (Procedure.resultHeadings generator.settings)).map (·.text) := by
    rw [classHeadingsOfAll_flatMap, wrappers_typedSurfaces, List.flatMap_map, List.map_flatMap]
    exact congrArg (List.flatMap · procedures) (funext fun procedure =>
      ProcedureWrapper.classHeadingsOfAll_resultCode generator.settings generator.types procedure)
  rw [← declared]
  unfold ProcedureSurfaces.resultsCode onlyIf
  split
  case isTrue =>
    exact classHeadingsOfAll_region "result table wrappers"
      ((generator.typedSurfaces procedures).wrappers.flatMap (·.resultCode))
  case isFalse none =>
    rw [classHeadingsOfAll_flatMap]
    refine (List.flatMap_eq_nil_iff.mpr fun wrapper member => ?_).symm
    have absent : wrapper.aggregate = Option.none := by
      rw [Bool.not_eq_true, List.any_eq_false] at none
      simpa using none wrapper member
    rw [ProcedureWrapper.resultCode, absent]
    rfl

/-- The classes in the static class are those for the results of the procedures, in order. -/
theorem classHeadingsOfAll_staticClass :
    classHeadingsOfAll (generator.typedSurfaces procedures).staticClass =
      (procedures.flatMap (Procedure.resultHeadings generator.settings)).map (·.text) := by
  have wrappers : classHeadingsOfAll
      ((generator.typedSurfaces procedures).wrappers.flatMap (·.staticCode)) = [] := by
    rw [classHeadingsOfAll_flatMap]
    exact List.flatMap_eq_nil_iff.mpr fun wrapper _ => wrapper.classHeadingsOfAll_staticCode
  rw [ProcedureSurfaces.staticClass, classHeadingsOfAll, classHeadingsOfAll,
    classHeadings_block_of_apart (by decide), ← classHeadingsOfAll_resultsCode]
  simp only [summary, classHeadings, classHeadingsOfAll, classHeadingsOfAll_append, wrappers,
    List.filterMap_nil, List.nil_append, List.append_nil]

end Generator

/-! ### Uses -/

namespace BodyStatement

mutual

/-- The objects that the locals of a statement are created as, at any depth. -/
def created : BodyStatement → List String
  | declare _ value => (behind? "new " value).toList
  | perform _ => []
  | provided _ body => createdOfAll body
  | forEach _ _ _ body => createdOfAll body

/-- The objects that the locals of several statements are created as. -/
def createdOfAll : List BodyStatement → List String
  | [] => []
  | statement :: rest => statement.created ++ createdOfAll rest

end

/-- Bodies in sequence create what each creates. -/
theorem createdOfAll_append (body others : List BodyStatement) :
    createdOfAll (body ++ others) = createdOfAll body ++ createdOfAll others := by
  induction body with
  | nil => rfl
  | cons statement body ih => simp only [List.cons_append, createdOfAll, ih, List.append_assoc]

/-- Gathered bodies create the gathered objects. -/
theorem createdOfAll_flatMap {V : Type} (members : List V) (body : V → List BodyStatement) :
    createdOfAll (members.flatMap body) =
      members.flatMap fun member => createdOfAll (body member) := by
  induction members with
  | nil => rfl
  | cons first members ih =>
      rw [List.flatMap_cons, List.flatMap_cons, createdOfAll_append, ih]

end BodyStatement

namespace ProcedureWrapper

open BodyStatement

/-- Collecting a table creates its list and its rows. -/
theorem createdOfAll_collectTable (trims : Bool) (result : ResultClass) :
    createdOfAll (collectTable trims result) =
      ["List<" ++ result.className ++ ">()", result.className ++ "()"] := by
  have list : behind? "new " ("new List<" ++ result.className ++ ">()") =
      some ("List<" ++ result.className ++ ">()") := by
    rw [← Text.behind?_append "new "]
    refine congrArg (behind? "new ") (String.toList_inj.mp ?_)
    simp
  have object : behind? "new " ("new " ++ result.className ++ "()") =
      some (result.className ++ "()") := by
    rw [String.append_assoc]
    exact Text.behind?_append ..
  simp only [collectTable, createdOfAll, created, list, object, Option.toList_some]
  rfl

variable (settings : Settings) (types : TypeMap) (procedure : Procedure)

/-- The method that fetches the data set is named after the procedure. -/
theorem dataSetMethod_typed :
    (typed settings types procedure).dataSetMethod =
      Identifier.ofText (settings.procedurePrefix ++ procedure.name) ++ "_DataSet" := rfl

/-- Calling the method that returns the data set creates no object. -/
theorem created_fetchDataSet :
    (typed settings types procedure).fetchDataSet.created = [] := by
  let name := Identifier.ofText (settings.procedurePrefix ++ procedure.name)
  have blank : ' ' ∉ (name ++ "_DataSet").toList := by
    intro member
    rw [String.toList_append] at member
    rcases List.mem_append.mp member with before | ending
    · have part := List.all_eq_true.mp (Identifier.all_isPart_ofText _) _ before
      exact absurd part (by decide +kernel)
    · exact absurd ending (by decide)
  have long : "new ".toList.length ≤ (name ++ "_DataSet").toList.length := by
    rw [String.toList_append, List.length_append]
    exact Nat.le_add_left_of_le (by decide)
  have called (arguments : String) :
      Text.startsWith "new " (name ++ "_DataSet" ++ arguments) = false :=
    Text.startsWith_of_not_mem (by decide) blank long arguments
  rw [fetchDataSet, created, dataSetMethod_typed]
  simp only [String.append_assoc] at called ⊢
  rw [behind?, called]
  rfl

/-- Filling the data object creates the aggregate, and a list and rows for each of its tables. -/
theorem createdOfAll_dataObjectBody (aggregate : ResultAggregate) :
    createdOfAll ((typed settings types procedure).dataObjectBody aggregate) =
      (aggregate.className ++ "()") :: (aggregate.tables.map (·.className)).flatMap fun name =>
        ["List<" ++ name ++ ">()", name ++ "()"] := by
  have object : behind? "new " ("new " ++ aggregate.className ++ "()") =
      some (aggregate.className ++ "()") := by
    rw [String.append_assoc]
    exact Text.behind?_append ..
  rw [dataObjectBody, createdOfAll_append, createdOfAll_append, createdOfAll_flatMap,
    List.flatMap_map]
  simp only [createdOfAll_collectTable, createdOfAll, created_fetchDataSet]
  simp only [created, object, Option.toList_some, List.nil_append, List.append_nil]
  rfl

end ProcedureWrapper

/-- A method returns and creates objects of the classes for the results of a procedure, and each of
these is declared once. -/
structure UsesDeclared (settings : Settings) (declared : List String) (procedure : Procedure)
    (method : WrapperMethod) : Prop where
  returned : method.returnType =
    settings.procedureClass ++ "." ++ procedure.resultClass settings .whole
  created : BodyStatement.createdOfAll method.body =
    (procedure.resultClass settings .whole ++ "()") ::
      (List.range procedure.resultTables.length).flatMap fun index =>
        ["List<" ++ procedure.resultClass settings (.table index) ++ ">()",
         procedure.resultClass settings (.table index) ++ "()"]
  parts : procedure.resultParts =
    (List.range procedure.resultTables.length).map .table ++ [.whole]
  once : ∀ part ∈ procedure.resultParts, declared.count (procedure.resultClass settings part) = 1

/-- The classes for the results of all procedures are declared under different names. -/
structure ResultClassesApart (generator : Generator) (procedures : List Procedure) : Prop where
  declared : ∃ surfaces, generator.procedureSurfaces procedures = .ok surfaces ∧
    ∃ headings : List ResultHeading,
      Code.classHeadingsOfAll surfaces.staticClass = headings.map (·.text) ∧
      headings.map (·.name) = procedures.flatMap (Procedure.resultClasses generator.settings)
  distinct : (procedures.flatMap (Procedure.resultClasses generator.settings)).Nodup
  used : ∀ procedure ∈ procedures,
    ∃ wrapper, ProcedureWrapper.ofProcedure generator.settings generator.types procedure =
      .ok wrapper ∧
    ∀ method ∈ wrapper.methods, method.name = wrapper.dataObjectMethod →
      UsesDeclared generator.settings
        (procedures.flatMap (Procedure.resultClasses generator.settings)) procedure method

namespace ProcedureWrapper

variable {settings : Settings} {types : TypeMap} {procedure : Procedure}

/-- Only the method for a sampled result has the name of the one that returns an object. -/
theorem eq_of_dataObjectMethod {wrapper : ProcedureWrapper} {method : WrapperMethod}
    (member : method ∈ wrapper.methods) (named : method.name = wrapper.dataObjectMethod) :
    ∃ aggregate, wrapper.aggregate = some aggregate ∧
      method.returnType = aggregate.qualifiedName ∧
      method.body = wrapper.dataObjectBody aggregate := by
  have plain : wrapper.methodName ≠ wrapper.dataObjectMethod := fun same =>
    absurd (String.append_eq_left_iff.mp same.symm) (by decide)
  have dataSet : wrapper.dataSetMethod ≠ wrapper.dataObjectMethod := fun same =>
    absurd ((String.append_right_inj wrapper.methodName).mp same) (by decide)
  unfold methods at member
  rcases List.mem_append.mp member with first | last
  · rcases List.mem_cons.mp first with rfl | ofData
    · exact absurd named plain
    · split at ofData
      · rw [List.mem_singleton.mp ofData] at named
        exact absurd named dataSet
      · cases ofData
  · split at last
    case h_1 aggregate present =>
      rw [List.mem_singleton.mp last]
      exact ⟨aggregate, present, rfl, rfl⟩
    case h_2 => cases last

/-- The method that fills the data object creates objects of declared classes only. -/
theorem usesDeclared {declared : List String} (distinct : declared.Nodup)
    (among : ∀ name ∈ procedure.resultClasses settings, name ∈ declared) {method : WrapperMethod}
    (member : method ∈ (typed settings types procedure).methods)
    (named : method.name = (typed settings types procedure).dataObjectMethod) :
    UsesDeclared settings declared procedure method := by
  obtain ⟨aggregate, present, returned, body⟩ := eq_of_dataObjectMethod member named
  have data : procedure.hasDataObject = true := by
    rw [← isSome_aggregate_typed settings types, present]
    rfl
  have parts : procedure.resultParts =
      (List.range procedure.resultTables.length).map .table ++ [.whole] := if_pos data
  have names := congrArg (List.map (·.name))
    (headings_eq_resultHeadings settings types procedure present)
  rw [Procedure.map_name_resultHeadings, Procedure.resultClasses, parts, List.map_append,
    List.map_map, ResultAggregate.headings, List.map_append, List.map_map] at names
  have tables : aggregate.tables.map (·.className) =
      (List.range procedure.resultTables.length).map fun index =>
        procedure.resultClass settings (.table index) := (List.append_inj' names rfl).1
  obtain ⟨sample, -, -, rfl⟩ := exists_sample settings present
  constructor
  case returned => exact returned
  case created =>
    rw [body, createdOfAll_dataObjectBody, tables, List.flatMap_map]
    rfl
  case parts => exact parts
  case once =>
    intro part inside
    exact List.count_eq_one_of_mem distinct (among _ (List.mem_map_of_mem inside))

end ProcedureWrapper

namespace Generator

variable {generator : Generator} {procedures : List Procedure}

/-- Procedures with different names in Pascal case never meet in a class for their results, however
many result tables they have. -/
theorem resultClasses_apart
    (some : ∀ procedure ∈ procedures, procedure.hasDataObject → procedure.pascalName ≠ "")
    (apart : ((procedures.filter (·.hasDataObject)).map Procedure.pascalName).Nodup) :
    ResultClassesApart generator procedures where
  declared := by
    refine ⟨_, generator.procedureSurfaces_eq procedures, _,
      generator.classHeadingsOfAll_staticClass procedures, ?_⟩
    rw [List.map_flatMap]
    exact congrArg (List.flatMap · procedures)
      (funext (Procedure.map_name_resultHeadings generator.settings))
  distinct := Procedure.nodup_flatMap_resultClasses generator.settings some apart
  used := by
    intro procedure inside
    refine ⟨_, ProcedureWrapper.ofProcedure_eq _ _ procedure, fun method member named => ?_⟩
    refine ProcedureWrapper.usesDeclared ?_ (fun name among => ?_) member named
    · exact Procedure.nodup_flatMap_resultClasses generator.settings some apart
    · exact List.mem_flatMap.mpr ⟨procedure, inside, among⟩

/-- A data procedure with a number of result tables. -/
private def listing (name : String) (tables : Nat) : Procedure where
  name := name
  returnsData := true
  sample := some ⟨List.replicate tables ⟨[], 0⟩⟩

/-- Names that carry numbers of their own stay apart from the numbered ones. -/
theorem resultClasses_apart_numbered :
    let procedures := [listing "x" 12, listing "x_0" 1, listing "_0" 11, listing "_" 2]
    (∀ procedure ∈ procedures, procedure.hasDataObject → procedure.pascalName ≠ "") ∧
      ((procedures.filter (·.hasDataObject)).map Procedure.pascalName).Nodup ∧
      ResultClassesApart { settings := {} } procedures := by
  intro procedures
  have some : ∀ procedure ∈ procedures, procedure.hasDataObject → procedure.pascalName ≠ "" := by
    decide
  have apart : ((procedures.filter (·.hasDataObject)).map Procedure.pascalName).Nodup := by decide
  exact ⟨some, apart, resultClasses_apart some apart⟩

/-- A name that is empty in Pascal case does not separate the mark of a table from the underscore in
front of another name. -/
example : (listing "" 1).resultClass {} (.table 0) = (listing "_0" 0).resultClass {} .whole := by
  decide

end Generator

end DataLayer
