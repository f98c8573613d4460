import DataLayer.Proofs.Literal.Names
import DataLayer.Proofs.Procedure.ParameterNames

/-!
# The names that generated bodies use

Besides its locals and parameters, a generated body uses names from outside: the helpers of the
static class, some types, the class itself and the method that fetches the data set. A parameter of
such a name hides it. Only locals are kept apart from parameters. `parameters_hide` says what is left:
a parameter hides a name when it was described under this name. As long as no called name begins
with an underscore, none comes to do so through the underscore in front of it.
-/

namespace DataLayer

open Identifier (isPart underscored)
open Text (startsWith)

namespace Code

/-- A name can follow the text: the text ends with none, and with no dot that would make the name a
member. -/
def fitsBefore (text : String) : Bool :=
  text.toList.getLast?.all fun c => !isPart c && c != '.'

/-- A name can stand before the text, which does not continue it. -/
def fitsBehind (text : String) : Bool :=
  text.toList.head?.all fun c => !isPart c

/-- Only the end of a text decides whether a name can follow it, -/
theorem fitsBefore_append {ending : String} (nonempty : ending ≠ "") (text : String) :
    fitsBefore (text ++ ending) = fitsBefore ending := by
  have some : ending.toList ≠ [] := fun empty => nonempty (String.toList_eq_nil_iff.mp empty)
  rw [fitsBefore, fitsBefore, String.toList_append, List.getLast?_append_of_ne_nil _ some]

/-- and only its beginning whether a name can stand before it. -/
theorem fitsBehind_append {start : String} (nonempty : start ≠ "") (text : String) :
    fitsBehind (start ++ text) = fitsBehind start := by
  have some : start.toList ≠ [] := fun empty => nonempty (String.toList_eq_nil_iff.mp empty)
  rw [fitsBehind, fitsBehind, String.toList_append, List.head?_append_of_ne_nil _ some]

/-- The name stands in the text as a whole and behind no dot. -/
def Mentions (text name : String) : Prop :=
  ∃ before after, text = before ++ name ++ after ∧ fitsBefore before = true ∧
    fitsBehind after = true

/-- A line of the code mentions all these names. -/
def HasLineWith (pieces : List Code) (names : List String) : Prop :=
  ∃ text, HasLine pieces text ∧ ∀ name ∈ names, Mentions text name

/-- In a text of several parts, a part is mentioned when a name can stand between its neighbours. -/
theorem Mentions.between {opening name closing : String} {parts after : List String} (index : Nat)
    (here : parts.drop index = opening :: name :: closing :: after)
    (fits : (opening ≠ "" ∧ fitsBefore opening = true) ∧ closing ≠ "" ∧ fitsBehind closing = true) :
    Mentions (Text.concat parts) name := by
  obtain ⟨⟨opens, before⟩, closes, behind⟩ := fits
  refine ⟨Text.concat (parts.take index) ++ opening, closing ++ Text.concat after, ?_, ?_, ?_⟩
  · have whole := congrArg Text.concat (List.take_append_drop index parts)
    rw [← whole, Text.concat_append, here]
    simp only [Text.concat_cons, String.append_assoc]
  · rw [fitsBefore_append opens, before]
  · rw [fitsBehind_append closes, behind]

/-- A text mentions the name it begins with, if what follows does not continue it. -/
theorem Mentions.atStart {name closing : String} {parts : List String}
    (fits : closing ≠ "" ∧ fitsBehind closing = true) :
    Mentions (Text.concat (name :: closing :: parts)) name := by
  refine ⟨"", closing ++ Text.concat parts, ?_, rfl, ?_⟩
  · rw [Text.concat_cons, Text.concat_cons, String.empty_append]
  · rw [fitsBehind_append fits.1, fits.2]

end Code

open Code (HasLineWith Mentions)

namespace WrapperParameter

variable {parameter : WrapperParameter}

/-- An input parameter is bound by a helper that takes its value, or null for it. -/
theorem mentions_binding_of_input (input : parameter.isOutput = false) :
    ∀ name ∈ ["AddParameter", "DbType", "CheckNull", "DBNull", parameter.codeName],
      Mentions parameter.binding.heading name := by
  have written : parameter.binding.heading = Text.concat ["AddParameter", "(", commandLocal, ", ",
      Literal.plain ("@" ++ parameter.name), ", ", "DbType", ".", parameter.parameterType.name,
      ", (", "CheckNull", "(", parameter.codeName, ") ? (object) ", "DBNull",
      ".Value : (object) ", parameter.codeName, "));"] := by
    rw [binding, input]
    apply String.toList_inj.mp
    simp [BodyStatement.heading]
  rw [written]
  simp only [List.forall_mem_cons]
  exact ⟨.atStart (by decide +kernel), .between 5 rfl (by decide +kernel),
    .between 9 rfl (by decide +kernel), .between 13 rfl (by decide +kernel),
    .between 11 rfl (by decide +kernel), List.forall_mem_nil _⟩

/-- An output parameter is bound by a helper of its own. -/
theorem mentions_binding_of_output (output : parameter.isOutput = true) :
    ∀ name ∈ ["AddParameterOut", "DbType", "DBNull"], Mentions parameter.binding.heading name := by
  have written : parameter.binding.heading = Text.concat ["var ", parameter.handle, " = ",
      "AddParameterOut", "(", commandLocal, ", ", Literal.plain ("@" ++ parameter.name), ", ",
      "DbType", ".", parameter.parameterType.name, ", ", "DBNull", ".Value, ",
      hint parameter.precision, ", ", hint parameter.scale, ", ", hint parameter.size, ");"] := by
    rw [binding, output]
    apply String.toList_inj.mp
    simp [BodyStatement.heading]
  rw [written]
  simp only [List.forall_mem_cons]
  exact ⟨.between 2 rfl (by decide +kernel), .between 8 rfl (by decide +kernel),
    .between 12 rfl (by decide +kernel), List.forall_mem_nil _⟩

/-- A value is copied back to its parameter unless it is null. -/
theorem mentions_copyBack :
    ∀ name ∈ [parameter.codeName, "DBNull"], Mentions parameter.copyBack.heading name := by
  have written : parameter.copyBack.heading = Text.concat [parameter.codeName, " = ",
      parameter.handle, ".Value == ", "DBNull", ".Value ? default(", parameter.codeType, ") : (",
      parameter.codeType, ") ", parameter.handle, ".Value;"] := by
    apply String.toList_inj.mp
    simp [copyBack, BodyStatement.heading]
  rw [written]
  simp only [List.forall_mem_cons]
  exact ⟨.atStart (by decide +kernel), .between 3 rfl (by decide +kernel), List.forall_mem_nil _⟩

end WrapperParameter

namespace ProcedureWrapper

variable {settings : Settings} {types : TypeMap} {procedure : Procedure}

/-- The bodies of a wrapper use names from outside, next to the parameters. -/
structure NamesUsed (staticClass : String) (wrapper : ProcedureWrapper) : Prop where
  command : HasLineWith wrapper.staticCode ["CommandType"]
  input : ∀ parameter ∈ wrapper.parameters, parameter.isOutput = false →
    HasLineWith wrapper.staticCode
      ["AddParameter", "DbType", "CheckNull", "DBNull", parameter.codeName]
  output : ∀ parameter ∈ wrapper.parameters, parameter.isOutput = true →
    HasLineWith wrapper.staticCode ["AddParameterOut", "DbType", "DBNull"] ∧
      HasLineWith wrapper.staticCode [parameter.codeName, "DBNull"]
  dataSet : wrapper.returnsData = true → HasLineWith wrapper.staticCode [wrapper.dataSetMethod]
  staticClass : ∀ method ∈ wrapper.methods,
    HasLineWith (wrapper.objectMethod staticClass method) [staticClass]

/-- A statement of the command, or of what is copied back, is a line of the static methods. -/
theorem hasLineWith_staticCode {wrapper : ProcedureWrapper} {statement : BodyStatement}
    {names : List String} (member : statement ∈ wrapper.command ++ wrapper.copyOut)
    (single : statement.code = .line statement.heading)
    (mentions : ∀ name ∈ names, Mentions statement.heading name) :
    HasLineWith wrapper.staticCode names := by
  refine ⟨statement.heading, hasLine_staticCode_of_executing (.of_mem ?_), mentions⟩
  rw [BodyStatement.codeOfAll_eq, ← single]
  exact List.mem_map_of_mem member

/-- The bodies of every wrapper use these names. -/
theorem namesUsed (staticClass : String) (wrapper : ProcedureWrapper) :
    NamesUsed staticClass wrapper := by
  have bound {parameter : WrapperParameter} (member : parameter ∈ wrapper.parameters) :
      parameter.binding ∈ wrapper.command ++ wrapper.copyOut :=
    List.mem_append_left _ (List.mem_append_right _ (List.mem_map_of_mem member))
  -- A binding is one line, a declaration or a call, so its heading is all of it.
  have single (parameter : WrapperParameter) :
      parameter.binding.code = .line parameter.binding.heading := by
    unfold WrapperParameter.binding
    split <;> rfl
  constructor
  case command =>
    have written : (BodyStatement.perform (commandLocal ++
        ".CommandType = CommandType.StoredProcedure;")).heading =
        Text.concat [commandLocal, ".CommandType = ", "CommandType", ".StoredProcedure;"] := rfl
    refine hasLineWith_staticCode (.tail _ (.tail _ (.head _))) rfl ?_
    rw [List.forall_mem_singleton, written]
    exact .between 1 rfl (by decide +kernel)
  case input =>
    intro parameter member input
    exact hasLineWith_staticCode (bound member) (single parameter)
      (WrapperParameter.mentions_binding_of_input input)
  case output =>
    intro parameter member output
    have copied : parameter.copyBack ∈ wrapper.command ++ wrapper.copyOut :=
      List.mem_append_right _ (List.mem_map_of_mem (List.mem_filter.mpr ⟨member, output⟩))
    exact ⟨hasLineWith_staticCode (bound member) (single parameter)
        (WrapperParameter.mentions_binding_of_output output),
      hasLineWith_staticCode copied rfl WrapperParameter.mentions_copyBack⟩
  -- Only a procedure that returns data has the method that calls the one for its data set.
  case dataSet =>
    intro returning
    have written : wrapper.fetchDataSet.heading = Text.concat ["var ", dataSetLocal, " = ",
        wrapper.dataSetMethod, "(", providerLocal, wrapper.forwardedArguments, ");"] := by
      apply String.toList_inj.mp
      simp [fetchDataSet, BodyStatement.heading]
    refine ⟨wrapper.fetchDataSet.heading, hasLine_staticCode (.head _) (.of_mem ?_), ?_⟩
    · rw [returning, if_pos rfl]
      exact .head _
    · rw [List.forall_mem_singleton, written]
      exact .between 2 rfl (by decide +kernel)
  case staticClass =>
    intro method member
    let call := "return " ++ staticClass ++ "." ++ method.name ++ "(this.provider" ++
      wrapper.forwardedArguments ++ ");"
    have written : call = Text.concat ["return ", staticClass, ".", method.name,
        "(this.provider", wrapper.forwardedArguments, ");"] := by
      apply String.toList_inj.mp
      simp [call]
    have body : Code.HasLine [.line call] call := .of_mem (.head _)
    refine ⟨call, body.inBlock (.tail _ (.head _)), ?_⟩
    rw [List.forall_mem_singleton, written]
    exact .between 0 rfl (by decide +kernel)

/-- The names that all generated bodies use for methods and types from outside. -/
def fixedNames : List String :=
  ["CheckNull", "AddParameter", "AddParameterOut", "DBNull", "DbType", "CommandType"]

/-- The static class and the method that fetches the data set, which a body calls by name. -/
def calledNames (settings : Settings) (wrapper : ProcedureWrapper) : List String :=
  [settings.procedureClass, wrapper.dataSetMethod]

/-- When the name of a parameter in the generated code is one from outside, in terms of the name that
it was given. -/
structure HidesGiven (unusable : String → Bool) (called : List String) (given codeName : String) :
    Prop where
  fixed : ∀ name ∈ fixedNames, codeName = name ↔ given = name
  /-- An underscore that was put in front may meet the one at the beginning of a called name. In all
  other cases the parameter had this name before. -/
  called : ∀ name ∈ called, unusable given = false ∨ startsWith "_" name = false →
    (codeName = name ↔ given = name ∧ unusable given = false)

/-- With an underscore in front of unusable names, a parameter hides what it was named after and
nothing else, as long as all fixed names are usable. -/
theorem hidesGiven_underscored {unusable : String → Bool} (called : List String) (given : String)
    (usable : ∀ name ∈ fixedNames, unusable name = false) :
    HidesGiven unusable called given (underscored unusable given) where
  fixed := by
    have unmarked : ∀ name ∈ fixedNames, startsWith "_" name = false := by decide
    intro name member
    rw [Identifier.underscored_eq_iff (.inr (unmarked name member))]
    refine and_iff_left_of_imp ?_
    rintro rfl
    exact usable given member
  called := fun _ _ => Identifier.underscored_eq_iff

/-- Which names from outside the parameters of a wrapper hide. -/
structure NamesHidden (settings : Settings) (types : TypeMap) (procedure : Procedure)
    (wrapper : ProcedureWrapper) : Prop where
  used : NamesUsed settings.procedureClass wrapper
  parameters : ∀ parameter ∈ procedure.parameters,
    ∃ made, WrapperParameter.ofParameter types procedure.name parameter = .ok made ∧
      HidesGiven (startsWith localStart) (calledNames settings wrapper) parameter.codeName
        made.codeName
  /-- When the parameters were described, the names are compared with the described ones. -/
  described : ∀ infos, Parameter.ofInfos infos = .ok procedure.parameters →
    ∀ parameter ∈ wrapper.parameters,
      HidesGiven Parameter.isUnusable (calledNames settings wrapper) parameter.name
        parameter.codeName

/-- Every procedure has a wrapper. A parameter of it hides a name from outside exactly when it was
given this very name, as far as no underscore meets a called name that begins with one. -/
theorem parameters_hide (settings : Settings) (types : TypeMap) (procedure : Procedure) :
    ∃ wrapper, ofProcedure settings types procedure = .ok wrapper ∧
      NamesHidden settings types procedure wrapper := by
  refine ⟨_, ofProcedure_eq settings types procedure, ?_⟩
  constructor
  case used => exact namesUsed _ _
  case parameters =>
    intro parameter _
    exact ⟨_, WrapperParameter.ofParameter_eq types procedure.name parameter,
      hidesGiven_underscored _ parameter.codeName (by decide)⟩
  case described =>
    intro infos read parameter member
    obtain ⟨original, among, rfl⟩ := List.mem_map.mp member
    have escaped := Parameter.codeName_of_mem read among
    rw [WrapperParameter.codeName_typed types escaped]
    exact hidesGiven_underscored _ original.name (by decide)

/-- Parameters can hide helpers and types, the static class, and the method that fetches the data
set. -/
theorem parameters_may_hide :
    (¬ ∀ settings types procedure infos wrapper,
      Parameter.ofInfos infos = .ok procedure.parameters →
      ofProcedure settings types procedure = .ok wrapper →
      ∀ parameter ∈ wrapper.parameters, parameter.codeName ∉ fixedNames) ∧
    (¬ ∀ settings types procedure infos wrapper,
      Parameter.ofInfos infos = .ok procedure.parameters →
      ofProcedure settings types procedure = .ok wrapper →
      ∀ parameter ∈ wrapper.parameters, parameter.codeName ≠ settings.procedureClass) ∧
    ¬ ∀ settings types procedure infos wrapper,
      Parameter.ofInfos infos = .ok procedure.parameters →
      ofProcedure settings types procedure = .ok wrapper → procedure.returnsData = true →
      ∀ parameter ∈ wrapper.parameters, parameter.codeName ≠ wrapper.dataSetMethod := by
  refine ⟨fun claimed => ?_, fun claimed => ?_, fun claimed => ?_⟩
  · exact claimed {} .sqlServer ⟨"p", _, false, none, none, none⟩
      [{ name := "@CheckNull", sqlType := "int" }] _ rfl (ofProcedure_eq _ _ _) _ (.head _) (.head _)
  · exact claimed {} .sqlServer ⟨"p", _, false, none, none, none⟩
      [{ name := "@StoredProcedures", sqlType := "int" }] _ rfl (ofProcedure_eq _ _ _) _ (.head _)
      rfl
  · exact claimed {} .sqlServer ⟨"p", _, true, none, none, none⟩
      [{ name := "@p_DataSet", sqlType := "int" }] _ rfl (ofProcedure_eq _ _ _) rfl _ (.head _)
      (by decide +kernel)

end ProcedureWrapper

end DataLayer
