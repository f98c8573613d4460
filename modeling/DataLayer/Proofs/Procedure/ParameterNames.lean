import DataLayer.Proofs.Identifier.Underscore
import DataLayer.Proofs.Procedure.Locals
import DataLayer.Text.Case

/-!
# The names of parameters

A parameter is described under a name with a mark in front. Without its marks the name is used in the
generated methods, with an underscore in front when it is a reserved word or begins like a local.
`codeNames_apart` says exactly when all parameters of a procedure have different names there.
-/

namespace DataLayer

open Text (startsWith)

namespace Parameter

/-- The name of a described parameter without the marks in front. -/
def bareName (info : ParameterInfo) : String := Text.dropStart (· == '@') info.name

/-- The names of the described parameters without the marks in front. The return value is none of
the parameters. -/
def bareNames (infos : List ParameterInfo) : List String :=
  (infos.filter fun info => !isReturnValue info).map bareName

/-- The generated methods cannot use the name for a parameter: it is a reserved word, or it begins
like a local. -/
def isUnusable (name : String) : Bool :=
  Identifier.isReserved name || startsWith localStart name

/-- An underscore makes every name usable. -/
theorem isUnusable_underscore (name : String) : isUnusable ("_" ++ name) = false := by
  have clear := Text.startsWith_of_apart (by decide : Text.startsApart localStart "_" = true) name
  rw [isUnusable, Identifier.isReserved_underscore, clear, Bool.or_self]

/-- A parameter is described by its bare name, which is escaped in the generated code, and by a type
that has a class. -/
theorem eq_of_ofInfo {info : ParameterInfo} {parameter : Parameter}
    (read : ofInfo info = .ok (some parameter)) :
    isReturnValue info = false ∧
      ∃ parameterType, ParameterType.ofSqlType? info.sqlType = some parameterType ∧
        parameter = ⟨bareName info, Identifier.escapeReserved (bareName info), info.direction,
          parameterType, Text.lower info.sqlType, info.precision, info.scale, info.size⟩ := by
  unfold ofInfo at read
  split at read
  · cases read
  · rename_i ordinary
    dsimp only at read
    split at read
    · cases read
    · rename_i parameterType known
      cases read
      exact ⟨Bool.not_eq_true _ ▸ ordinary, parameterType, known, rfl⟩

/-- Only the return value is left out. -/
theorem isReturnValue_of_ofInfo {info : ParameterInfo} (read : ofInfo info = .ok none) :
    isReturnValue info = true := by
  unfold ofInfo at read
  split at read
  · assumption
  · simp only at read
    split at read <;> cases read

/-- The parameters of a procedure are those that are described, in order. -/
theorem names_of_ofInfos {infos : List ParameterInfo} {parameters : List Parameter}
    (read : ofInfos infos = .ok parameters) :
    (parameters.map fun parameter => (parameter.name, parameter.codeName)) =
      (bareNames infos).map fun name => (name, Identifier.escapeReserved name) := by
  induction infos generalizing parameters with
  | nil => cases read; rfl
  | cons info infos ih =>
      rw [ofInfos] at read
      cases first : ofInfo info with
      | error failure => rw [first] at read; cases read
      | ok parameter? =>
          cases others : ofInfos infos with
          | error failure => rw [first, others] at read; cases read
          | ok following =>
              rw [first, others] at read
              cases read
              have rest := ih others
              -- Only return values are passed over, and these have no bare names either.
              cases parameter? with
              | none =>
                  have left := isReturnValue_of_ofInfo first
                  simpa [bareNames, left] using rest
              | some parameter =>
                  obtain ⟨ordinary, parameterType, -, rfl⟩ := eq_of_ofInfo first
                  simpa [bareNames, ordinary] using rest

/-- The parameters are named without their marks, in order. -/
theorem map_name_of_ofInfos {infos : List ParameterInfo} {parameters : List Parameter}
    (read : ofInfos infos = .ok parameters) : parameters.map (·.name) = bareNames infos := by
  have first := congrArg (List.map Prod.fst) (names_of_ofInfos read)
  simpa [Function.comp_def] using first

/-- A reserved word gets an underscore as soon as it is read. -/
theorem codeName_of_mem {infos : List ParameterInfo} {parameters : List Parameter}
    (read : ofInfos infos = .ok parameters) {parameter : Parameter} (member : parameter ∈ parameters) :
    parameter.codeName = Identifier.escapeReserved parameter.name := by
  have among := List.mem_map_of_mem (f := fun parameter => (parameter.name, parameter.codeName)) member
  rw [names_of_ofInfos read] at among
  obtain ⟨name, -, same⟩ := List.mem_map.mp among
  obtain ⟨rfl, escaped⟩ := Prod.mk.inj same
  exact escaped.symm

end Parameter

/-- A method parameter has the name of the parameter, with an underscore where that is unusable. -/
theorem WrapperParameter.codeName_typed (types : TypeMap) {parameter : Parameter}
    (escaped : parameter.codeName = Identifier.escapeReserved parameter.name) :
    (typed types parameter).codeName =
      Identifier.underscored Parameter.isUnusable parameter.name := by
  have free (name : String) : startsWith localStart ("_" ++ name) = false :=
    Text.startsWith_of_apart (by decide) name
  change clearOfLocals parameter.codeName = _
  rw [escaped]
  exact Identifier.underscored_underscored free parameter.name

namespace ProcedureWrapper

open Parameter

variable {settings : Settings} {types : TypeMap} {procedure : Procedure}
  {infos : List ParameterInfo}

/-- The method parameters have the bare names of the described parameters, with an underscore where
a name is unusable. -/
theorem codeNames_typed (read : ofInfos infos = .ok procedure.parameters) :
    (typed settings types procedure).parameters.map (·.codeName) =
      (bareNames infos).map (Identifier.underscored isUnusable) := by
  rw [parameters_typed, List.map_map, ← map_name_of_ofInfos read, List.map_map]
  exact List.map_congr_left fun parameter member =>
    WrapperParameter.codeName_typed types (codeName_of_mem read member)

/-- When the parameters of a method have different names. -/
structure ParametersApart (infos : List ParameterInfo) (wrapper : ProcedureWrapper) : Prop where
  /-- Each described parameter is named in order, with an underscore where its bare name is
  unusable. -/
  named : wrapper.parameters.map (·.codeName) =
    (bareNames infos).map (Identifier.underscored isUnusable)
  /-- These names are all different exactly when the bare names are different and none of them is
  what an unusable one becomes. -/
  codeNames : (wrapper.parameters.map (·.codeName)).Nodup ↔
    (bareNames infos).Nodup ∧
      ∀ name ∈ bareNames infos, isUnusable name = true → "_" ++ name ∉ bareNames infos
  /-- Parameters of different names are bound through different locals. -/
  handles : (wrapper.parameters.map (·.codeName)).Nodup → wrapper.handles.Nodup

/-- Every procedure has a wrapper. Parameters have different names in its methods as far as the
marks and underscores in front of them allow. -/
theorem codeNames_apart (read : ofInfos infos = .ok procedure.parameters) :
    ∃ wrapper, ofProcedure settings types procedure = .ok wrapper ∧
      ParametersApart infos wrapper := by
  refine ⟨_, ofProcedure_eq settings types procedure, ?_⟩
  constructor
  case named => exact codeNames_typed read
  case codeNames =>
    rw [codeNames_typed read]
    exact Identifier.nodup_underscored_iff isUnusable_underscore
  case handles => exact nodup_handles _

/-- A parameter of whole numbers, described under a name. -/
private def intParameter (name : String) : ParameterInfo := { name := name, sqlType := "int" }

/-- An order whose parameters include a reserved word and a name that begins like a local. -/
private def orderInfos : List ParameterInfo :=
  [intParameter "@RETURN_VALUE", intParameter "@class", intParameter "@sp_cmd",
   intParameter "@total"]

/-- An order whose parameters get underscores for two reasons. -/
theorem codeNames_apart_order :
    ∃ parameters, ofInfos orderInfos = .ok parameters ∧
      ∃ wrapper, ofProcedure {} .sqlServer ⟨"order", parameters, false, none, none, none⟩ =
          .ok wrapper ∧
        ParametersApart orderInfos wrapper ∧
        wrapper.parameters.map (·.codeName) = ["_class", "_sp_cmd", "total"] := by
  obtain ⟨wrapper, made, apart⟩ :=
    @codeNames_apart {} .sqlServer ⟨"order", _, false, none, none, none⟩ orderInfos rfl
  refine ⟨_, rfl, wrapper, made, apart, ?_⟩
  rw [apart.named]
  decide

/-- Parameters that are described under different names can have one name in the generated methods:
by the underscore of a reserved word or of the start of a local, and by further marks in front. -/
theorem codeNames_meet :
    ¬ ∀ settings types procedure infos wrapper, ofInfos infos = .ok procedure.parameters →
      (infos.map fun info => Text.lower info.name).Nodup →
      ofProcedure settings types procedure = .ok wrapper →
      (wrapper.parameters.map (·.codeName)).Nodup := by
  intro claimed
  have apart := claimed {} .sqlServer ⟨"p", _, false, none, none, none⟩
    [intParameter "@class", intParameter "@_class"] _ rfl (by decide) (ofProcedure_eq _ _ _)
  exact absurd apart (by decide)

end ProcedureWrapper

end DataLayer
