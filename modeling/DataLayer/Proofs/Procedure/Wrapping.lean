import DataLayer.Generator
import DataLayer.Proofs.Outcomes

/-!
# Wrappers with their types

The types of parameters and of result columns are looked up, and what is not found is a failure
that ends the generation. Every class of parameters and every type of result columns has a built-in
entry, though, and replacing entries takes none away. So each declaration that looks types up
succeeds, and it is the one that has the types from the start.
-/

namespace DataLayer

namespace TypeMap

variable (map : TypeMap)

/-- Every class of parameters has an entry, whatever entries are replaced: all classes are among
the built-in ones. -/
theorem isSome_parameterMapping? (parameterType : ParameterType) :
    (map.parameterMapping? parameterType).isSome := by
  have builtin : (ParameterEntry.builtin.find? (·.parameterType == parameterType)).isSome := by
    cases parameterType <;> rfl
  -- The replaced entries stand in front of the built-in ones and take none away.
  rw [parameterMapping?, List.find?_append, Option.isSome_or, builtin, Bool.or_true]

/-- The entry of a class of parameters. -/
def parameterMapping (parameterType : ParameterType) : ParameterEntry :=
  (map.parameterMapping? parameterType).get (map.isSome_parameterMapping? parameterType)

/-- The type of a parameter in a direction. -/
def parameter (parameterType : ParameterType) (isOutput : Bool) : String :=
  if isOutput then (map.parameterMapping parameterType).output
  else (map.parameterMapping parameterType).input

/-- The lookup of a parameter type always succeeds. -/
theorem resolveParameter_eq (parameterType : ParameterType) (isOutput : Bool) :
    map.resolveParameter parameterType isOutput = .ok (map.parameter parameterType isOutput) := by
  rw [resolveParameter, ← Option.some_get (map.isSome_parameterMapping? parameterType)]
  rfl

end TypeMap

namespace RuntimeType

/-- Every type of result columns is in the table of member types. -/
theorem isSome_memberType? (runtimeType : RuntimeType) :
    (memberTypes.lookup runtimeType).isSome := by
  cases runtimeType <;> rfl

/-- The type of the member that holds a result column of this type. -/
def memberType (runtimeType : RuntimeType) : String :=
  (memberTypes.lookup runtimeType).get runtimeType.isSome_memberType?

end RuntimeType

/-- The lookup of the type for a result column always succeeds. -/
theorem TypeMap.resolveResult_eq (runtimeType : RuntimeType) :
    resolveResult runtimeType = .ok runtimeType.memberType := by
  rw [resolveResult, ← Option.some_get runtimeType.isSome_memberType?]
  rfl

namespace WrapperParameter

/-- The method parameter for a procedure parameter, with its type. -/
def typed (types : TypeMap) (parameter : Parameter) : WrapperParameter :=
  ofType parameter (types.parameter parameter.parameterType parameter.isOutput)

/-- A method parameter is always found its type, so that no failure is ever located. -/
theorem ofParameter_eq (types : TypeMap) (procedure : String) (parameter : Parameter) :
    ofParameter types procedure parameter = .ok (typed types parameter) := by
  rw [ofParameter, TypeMap.resolveParameter_eq]
  rfl

end WrapperParameter

namespace ResultProperty

/-- The property of the given names for a result column, with its type. -/
def typed (columnName memberName : String) (column : ResultColumn) : ResultProperty :=
  ⟨columnName, memberName, column.runtimeType.memberType, column.runtimeType⟩

/-- The property for a result column is always found its type. -/
theorem ofColumn_eq (columnName memberName : String) (column : ResultColumn) :
    ofColumn columnName memberName column = .ok (typed columnName memberName column) := by
  rw [ofColumn, TypeMap.resolveResult_eq]
  rfl

end ResultProperty

namespace ResultClass

variable (settings : Settings)

/-- The properties of a result table with their types, one for each column in order. -/
def typedProperties (table : ResultTable) : List ResultProperty :=
  ((table.reportedNames.zip (memberNames settings table)).zip table.columns).map fun entry =>
    .typed entry.1.1 entry.1.2 entry.2

/-- The properties of a result table are always found their types. -/
theorem propertiesOf_eq (table : ResultTable) :
    propertiesOf settings table = .ok (typedProperties settings table) := by
  have made (entry : (String × String) × ResultColumn) :=
    ResultProperty.ofColumn_eq entry.1.1 entry.1.2 entry.2
  exact mapM_eq_ok_map made _

/-- The class for one result table of the named aggregate, with the types of its properties. -/
def typed (aggregate : String) (index : Nat) (table : ResultTable) : ResultClass :=
  ofProperties settings aggregate index (typedProperties settings table)

section

variable (aggregate : String) (index : Nat) (table : ResultTable)

@[simp] theorem index_typed : (typed settings aggregate index table).index = index := rfl

@[simp] theorem className_typed :
    (typed settings aggregate index table).className = aggregate ++ "_" ++ index.repr := rfl

@[simp] theorem baseClass_typed :
    (typed settings aggregate index table).baseClass = settings.baseClassName := rfl

end

/-- The class for a result table is always made. -/
theorem ofTable_eq (aggregate : String) (index : Nat) (table : ResultTable) :
    ofTable settings aggregate index table = .ok (typed settings aggregate index table) := by
  rw [ofTable, propertiesOf_eq]
  rfl

end ResultClass

namespace ResultAggregate

variable (settings : Settings)

/-- The aggregate for a sampled result, with the types of all its classes. -/
def typed (procedure : String) (sample : ResultShape) : ResultAggregate :=
  ofTables settings procedure
    (sample.tables.mapIdx (ResultClass.typed settings (classNameOf settings procedure)))

@[simp] theorem tables_typed (procedure : String) (sample : ResultShape) :
    (typed settings procedure sample).tables =
      sample.tables.mapIdx (ResultClass.typed settings (classNameOf settings procedure)) := rfl

/-- The aggregate for a sampled result is always made. -/
theorem ofSample_eq (procedure : String) (sample : ResultShape) :
    ofSample settings procedure sample = .ok (typed settings procedure sample) := by
  have made (entry : ResultTable × Nat) :=
    ResultClass.ofTable_eq settings (classNameOf settings procedure) entry.2 entry.1
  rw [ofSample, mapM_eq_ok_map made, typed, List.mapIdx_eq_zipIdx_map]
  rfl

end ResultAggregate

namespace ProcedureWrapper

variable (settings : Settings)

/-- The results of a procedure, with the types of all their classes. -/
def typedAggregate? (procedure : Procedure) : Option ResultAggregate :=
  if procedure.returnsData then procedure.sample.map (.typed settings procedure.name) else none

/-- The results of a procedure are always made when there are any. -/
theorem aggregateOf_eq (procedure : Procedure) :
    aggregateOf settings procedure = .ok (typedAggregate? settings procedure) := by
  unfold aggregateOf typedAggregate?
  cases procedure.returnsData with
  | false => rfl
  | true =>
      cases procedure.sample with
      | none => rfl
      | some sample =>
          dsimp only
          rw [ResultAggregate.ofSample_eq]
          rfl

/-- The wrapper of a procedure, with all its types. -/
def typed (types : TypeMap) (procedure : Procedure) : ProcedureWrapper :=
  ofParts settings procedure (procedure.parameters.map (.typed types))
    (typedAggregate? settings procedure)

@[simp] theorem parameters_typed (types : TypeMap) (procedure : Procedure) :
    (typed settings types procedure).parameters = procedure.parameters.map (.typed types) := rfl

/-- There are result classes when the procedure returns data and was sampled. -/
theorem exists_sample {types : TypeMap} {procedure : Procedure} {aggregate : ResultAggregate}
    (present : (typed settings types procedure).aggregate = some aggregate) :
    ∃ sample, procedure.returnsData = true ∧ procedure.sample = some sample ∧
      aggregate = .typed settings procedure.name sample := by
  change typedAggregate? settings procedure = some aggregate at present
  unfold typedAggregate? at present
  split at present
  case isTrue data =>
    obtain ⟨sample, sampled, rfl⟩ := Option.map_eq_some_iff.mp present
    exact ⟨sample, data, sampled, rfl⟩
  case isFalse => cases present

/-- The wrapper of a procedure is always made. -/
theorem ofProcedure_eq (types : TypeMap) (procedure : Procedure) :
    ofProcedure settings types procedure = .ok (typed settings types procedure) := by
  rw [ofProcedure, aggregateOf_eq,
    mapM_eq_ok_map (WrapperParameter.ofParameter_eq types procedure.name)]
  rfl

/-- A wrapper of a procedure is the one with its types. -/
theorem eq_typed {settings : Settings} {types : TypeMap} {procedure : Procedure}
    {wrapper : ProcedureWrapper} (made : ofProcedure settings types procedure = .ok wrapper) :
    wrapper = typed settings types procedure :=
  Except.ok.inj (made.symm.trans (ofProcedure_eq settings types procedure))

end ProcedureWrapper

namespace Generator

variable (generator : Generator)

/-- The procedure surfaces, with the types of all their wrappers. -/
def typedSurfaces (procedures : List Procedure) : ProcedureSurfaces :=
  generator.surfacesOf (procedures.map (.typed generator.settings generator.types))

@[simp] theorem wrappers_typedSurfaces (procedures : List Procedure) :
    (generator.typedSurfaces procedures).wrappers =
      procedures.map (.typed generator.settings generator.types) := rfl

/-- The procedure surfaces are always made. -/
theorem procedureSurfaces_eq (procedures : List Procedure) :
    generator.procedureSurfaces procedures = .ok (generator.typedSurfaces procedures) := by
  rw [procedureSurfaces, mapM_eq_ok_map (ProcedureWrapper.ofProcedure_eq _ _)]
  rfl

/-- The code of the procedure surfaces is always made. -/
theorem proceduresText_eq (procedures : List Procedure) :
    generator.proceduresText procedures = .ok (generator.typedSurfaces procedures).text := by
  rw [proceduresText, procedureSurfaces_eq]
  rfl

/-- The section of the procedure surfaces never fails. -/
theorem procedureSections_eq (procedures : List Procedure) :
    generator.procedureSections procedures =
      .ok (sectionIf generator.settings.useProcedures
        (generator.typedSurfaces procedures).text) := by
  unfold procedureSections sectionIf
  rw [proceduresText_eq]
  cases generator.settings.useProcedures <;> rfl

end Generator

end DataLayer
