import DataLayer.Proofs.Introspection.Recording
import DataLayer.Proofs.Literal.Reading
import DataLayer.Proofs.Outcomes
import DataLayer.Proofs.Procedure.ParameterNames
import DataLayer.Snapshot

/-!
# The names that calls bind

A wrapper binds its parameters with one call each, in the order of the catalog, under a literal that
is made of a mark and the bare name. `Bound` says when that literal denotes the name in the catalog:
the name has one mark, and none of its characters has a meaning of its own inside a literal.
-/

namespace DataLayer

open Literal (Ordinary read? units)
open Text (behind? startsWith)

/-- What stands behind the command in a call that binds a parameter. -/
def BodyStatement.bindingArguments? : BodyStatement → Option String
  | .declare _ value => behind? "AddParameterOut(sp_cmd, " value
  | .perform text => behind? "AddParameter(sp_cmd, " text
  | .provided .. | .forEach .. => none

/-- What the literal at the front denotes, if there is one. -/
def denoted? (arguments : String) : Option (List UInt16) := (read? arguments.toList).map (·.1)

/-- What the calls in a body that bind parameters have for their names, in order. -/
def boundNames (body : List BodyStatement) : List (Option (List UInt16)) :=
  (body.filterMap (·.bindingArguments?)).map denoted?

namespace WrapperParameter

/-- What stands behind the name in the call that binds the parameter. -/
def behindName (parameter : WrapperParameter) : String :=
  ", DbType." ++ parameter.parameterType.name ++ ", " ++
    if parameter.isOutput then
      "DBNull.Value, " ++ hint parameter.precision ++ ", " ++ hint parameter.scale ++ ", " ++
        hint parameter.size ++ ")"
    else
      "(CheckNull(" ++ parameter.codeName ++ ") ? (object) DBNull.Value : (object) " ++
        parameter.codeName ++ "));"

/-- Every parameter has a call that binds it, by a literal for its name and then its class and
value. -/
theorem bindingArguments?_binding (parameter : WrapperParameter) :
    parameter.binding.bindingArguments? =
      some (Literal.plain ("@" ++ parameter.name) ++ parameter.behindName) := by
  unfold binding behindName
  cases parameter.isOutput with
  | false =>
      refine Eq.trans (congrArg (behind? _) ?_) (Text.behind?_append "AddParameter(sp_cmd, " _)
      simp [← String.toList_inj, commandLocal]
  | true =>
      refine Eq.trans (congrArg (behind? _) ?_) (Text.behind?_append "AddParameterOut(sp_cmd, " _)
      simp [← String.toList_inj, commandLocal]

end WrapperParameter

namespace Parameter

/-- The described parameters. The return value is none of them. -/
def listed (infos : List ParameterInfo) : List ParameterInfo :=
  infos.filter fun info => !isReturnValue info

/-- The failure to find a class for the type of a parameter. -/
def unmapped? (info : ParameterInfo) : Option Failure :=
  if (ParameterType.ofSqlType? info.sqlType).isNone then
    some (.unmappedType info.sqlType ("parameter @" ++ bareName info))
  else
    none

/-- Reading a description fails exactly when the type of a parameter has no class. -/
theorem failure?_ofInfo (info : ParameterInfo) :
    failure? (ofInfo info) = if isReturnValue info then none else unmapped? info := by
  unfold ofInfo unmapped? bareName
  split
  · rfl
  · cases ParameterType.ofSqlType? info.sqlType <;> rfl

/-- Reading parameter descriptions fails with the first parameter whose type has no class. -/
theorem failure?_ofInfos (infos : List ParameterInfo) :
    failure? (ofInfos infos) = (listed infos).findSome? unmapped? := by
  induction infos with
  | nil => rfl
  | cons info infos ih =>
      have step : failure? (ofInfos (info :: infos)) =
          (failure? (ofInfo info)).or (failure? (ofInfos infos)) := by
        rw [ofInfos]
        cases ofInfo info <;> cases ofInfos infos <;> rfl
      rw [step, ih, failure?_ofInfo, listed, listed, List.filter_cons]
      cases isReturnValue info with
      | true => rfl
      | false =>
          rw [if_neg Bool.false_ne_true, Bool.not_false, if_pos rfl, List.findSome?_cons]
          cases unmapped? info <;> rfl

/-- The name of the parameter has one mark in front. -/
def IsMarkedOnce (info : ParameterInfo) : Prop := "@" ++ bareName info = info.name

/-- The name in the catalog is read from a literal that is made of a mark and the bare name: it has
one mark in front, and none of its characters has a meaning of its own inside a literal. -/
def IsKept (info : ParameterInfo) : Prop :=
  IsMarkedOnce info ∧ ∀ c ∈ info.name.toList, Ordinary c

/-- A call that binds a parameter has the literal for its bare name with a mark in front. It denotes
the name in the catalog, and ends where it was meant to end, exactly when that name is kept. -/
def Bound (info : ParameterInfo) (arguments : String) : Prop :=
  ∃ rest, arguments = Literal.plain ("@" ++ bareName info) ++ rest ∧
    (read? arguments.toList = some (units info.name.toList, rest.toList) ↔ IsKept info)

/-- Without some characters in front a text has no more code units. -/
theorem length_units_dropWhile (p : Char → Bool) (text : List Char) :
    (units (text.dropWhile p)).length ≤ (units text).length := by
  obtain ⟨start, whole⟩ := List.dropWhile_suffix (l := text) p
  have both : units text = units start ++ units (text.dropWhile p) := by
    conv_lhs => rw [← whole]
    exact List.flatMap_append
  rw [both, List.length_append]
  exact Nat.le_add_left _ _

/-- More than one mark in front would account for units that the literal does not have. -/
theorem isMarkedOnce_of_length {info : ParameterInfo} (marked : startsWith "@" info.name = true)
    (long : (units info.name.toList).length ≤ (units ('@' :: (bareName info).toList)).length) :
    IsMarkedOnce info := by
  obtain ⟨rest, name⟩ : ∃ rest, info.name.toList = '@' :: rest := by
    obtain ⟨rest, whole⟩ := List.isPrefixOf_iff_prefix.mp marked
    exact ⟨rest, whole.symm⟩
  have bare : (bareName info).toList = rest.dropWhile (· == '@') := by
    simp [bareName, Text.dropStart, name]
  rw [IsMarkedOnce, ← String.toList_inj, String.toList_append, bare, name]
  cases rest with
  | nil => rfl
  | cons c more =>
      by_cases again : c = '@'
      · have shorter := length_units_dropWhile (· == '@') more
        have unit : 1 ≤ (Literal.unitsOf '@').length := (Literal.length_unitsOfCode _).1
        rw [bare, name, again, List.dropWhile_cons_of_pos (by simp)] at long
        simp only [Literal.units_cons, List.length_append] at long
        omega
      · rw [List.dropWhile_cons_of_neg (by simpa using again)]
        rfl

/-- A marked parameter is bound under its bare name behind one mark. -/
theorem bound_of_marked {info : ParameterInfo} (marked : startsWith "@" info.name = true)
    (rest : String) : Bound info (Literal.plain ("@" ++ bareName info) ++ rest) := by
  refine ⟨rest, rfl, ?_⟩
  have literal := Literal.read?_plain_iff ("@" ++ bareName info) rest.toList
  rw [String.toList_append]
  constructor
  · intro reads
    have long := Literal.length_units_of_read?_plain reads
    rw [String.toList_append] at long
    have once : "@" ++ bareName info = info.name := isMarkedOnce_of_length marked long
    rw [once] at literal reads
    exact ⟨once, literal.mp reads⟩
  · rintro ⟨once, ordinary⟩
    rw [once] at literal ⊢
    exact literal.mpr ordinary

/-- Calls whose names are kept have exactly these names. -/
theorem denoted?_of_bound {infos : List ParameterInfo} {calls : List String}
    (bound : List.Forall₂ Bound infos calls) (kept : ∀ info ∈ infos, IsKept info) :
    calls.map denoted? = infos.map fun info => some (units info.name.toList) := by
  induction bound with
  | nil => rfl
  | cons first _ ih =>
      obtain ⟨keptFirst, keptOthers⟩ := List.forall_mem_cons.mp kept
      obtain ⟨rest, -, reads⟩ := first
      rw [List.map_cons, List.map_cons, ih keptOthers, denoted?, reads.mpr keptFirst]
      rfl

end Parameter

namespace ProcedureWrapper

open Introspection (loadParameters)
open Parameter

/-- The calls of a wrapper bind its parameters in order. -/
theorem bindingArguments?_command (wrapper : ProcedureWrapper) :
    wrapper.command.filterMap (·.bindingArguments?) =
      wrapper.parameters.map fun parameter =>
        Literal.plain ("@" ++ parameter.name) ++ parameter.behindName := by
  have onCommand (rest : String) :
      BodyStatement.bindingArguments? (.perform (commandLocal ++ rest)) = none :=
    Text.behind?_of_apart (by decide) rest
  have setUp : ([.declare commandLocal (providerLocal ++ ".CreateCommand()"),
      .perform (commandLocal ++ ".CommandText = " ++ providerLocal ++ ".DatabasePrefix + " ++
        providerLocal ++ ".SchemaPrefix + " ++ Literal.plain ("." ++ wrapper.name) ++ ";"),
      .perform (commandLocal ++ ".CommandType = CommandType.StoredProcedure;")] :
      List BodyStatement).filterMap (·.bindingArguments?) = [] := by
    have created : BodyStatement.bindingArguments?
        (.declare commandLocal (providerLocal ++ ".CreateCommand()")) = none := by decide
    simp only [List.filterMap_cons, String.append_assoc, onCommand, created, List.filterMap_nil]
  have bindings : (fun parameter : WrapperParameter => parameter.binding.bindingArguments?) =
      some ∘ fun parameter => Literal.plain ("@" ++ parameter.name) ++ parameter.behindName :=
    funext WrapperParameter.bindingArguments?_binding
  rw [command, List.filterMap_append, setUp, List.nil_append, List.filterMap_map]
  exact congrFun ((congrArg List.filterMap bindings).trans List.filterMap_eq_map) wrapper.parameters

/-- How the parameters that a catalog describes are bound in a wrapper. -/
structure NamesBound (infos : List ParameterInfo) (wrapper : ProcedureWrapper) : Prop where
  /-- There is one call for each parameter, in the order of the catalog. -/
  bound : List.Forall₂ Bound (listed infos) (wrapper.command.filterMap (·.bindingArguments?))
  /-- Where all names are kept, the calls bind exactly these names. -/
  kept : (∀ info ∈ listed infos, IsKept info) →
    boundNames wrapper.command = (listed infos).map fun info => some (units info.name.toList)

/-- The calls of a wrapper bind the described parameters in order. -/
theorem namesBound_typed {infos : List ParameterInfo} {procedure : Procedure}
    (marked : ∀ info ∈ infos, startsWith "@" info.name = true)
    (read : ofInfos infos = .ok procedure.parameters) (settings : Settings) (types : TypeMap) :
    NamesBound infos (typed settings types procedure) := by
  have named : (listed infos).map bareName = procedure.parameters.map (·.name) :=
    (map_name_of_ofInfos read).symm
  rw [← List.forall₂_eq_eq_eq, List.forall₂_map_left_iff, List.forall₂_map_right_iff] at named
  have bound : List.Forall₂ Bound (listed infos)
      ((typed settings types procedure).command.filterMap (·.bindingArguments?)) := by
    rw [bindingArguments?_command, parameters_typed, List.map_map, List.forall₂_map_right_iff]
    obtain ⟨length, sameName⟩ := List.forall₂_iff_zip.mp named
    refine List.forall₂_iff_zip.mpr ⟨length, fun {info parameter} paired => ?_⟩
    have among : info ∈ infos := List.mem_of_mem_filter (List.of_mem_zip paired).1
    dsimp only [Function.comp_apply, WrapperParameter.typed, WrapperParameter.ofType]
    rw [← sameName paired]
    exact bound_of_marked (marked info among) _
  exact ⟨bound, denoted?_of_bound bound⟩

/-- The parameters of a procedure are read in the order of the catalog. Reading them fails exactly
when the type of one has no class, with the first of these, and the return value does not matter.
Otherwise there is a wrapper, and its calls bind all of them in order, each under its name as far as
a literal for the bare name denotes it. -/
theorem catalogNames_bound {σ ω : Type} {reader : CatalogReader σ ω} {name : String} {state next : σ}
    {infos : List ParameterInfo}
    (answered : (reader.procedureParameters name).runFrom state = (.ok infos, next))
    (marked : ∀ info ∈ infos, startsWith "@" info.name = true) :
    let outcome := ((loadParameters reader name).runFrom state).1
    failure? outcome = (listed infos).findSome? unmapped? ∧
      ∀ procedure : Procedure, outcome = .ok procedure.parameters →
        ∀ settings types, ∃ wrapper, ofProcedure settings types procedure = .ok wrapper ∧
          NamesBound infos wrapper := by
  have loaded : ((loadParameters reader name).runFrom state).1 = ofInfos infos := by
    rw [loadParameters, Reading.runFrom_bind_ok answered, Reading.runFrom_conclude]
  intro outcome
  refine ⟨?_, fun procedure read settings types => ?_⟩
  · rw [← failure?_ofInfos, ← loaded]
  · exact ⟨_, ofProcedure_eq settings types procedure,
      namesBound_typed marked (loaded ▸ read) settings types⟩

/-- An order as a catalog describes it: its return value, and parameters in both directions. -/
private def orderDescribed : List ParameterInfo :=
  [{ name := "@Return_Value", sqlType := "int" }, { name := "@customer_id", sqlType := "int" },
   { name := "@total", sqlType := "decimal", direction := .output, precision := 10, scale := 2 },
   { name := "@note", sqlType := "nvarchar", direction := .both, size := 40 }]

/-- An order with parameters in all directions, read from a snapshot. -/
theorem catalogNames_bound_order :
    let catalog : SnapshotCatalog :=
      .ofSnapshot { procedures := [{ name := "order", parameters := orderDescribed }] }
    (SnapshotCatalog.reader.procedureParameters "order").runFrom catalog =
        (.ok orderDescribed, catalog) ∧
      (∀ info ∈ orderDescribed, startsWith "@" info.name = true) ∧
      failure? ((loadParameters SnapshotCatalog.reader "order").runFrom catalog).1 = none ∧
      ∃ procedure : Procedure,
        ((loadParameters SnapshotCatalog.reader "order").runFrom catalog).1 =
          .ok procedure.parameters ∧
        ∃ wrapper, ofProcedure {} .sqlServer procedure = .ok wrapper ∧
          NamesBound orderDescribed wrapper := by
  intro catalog
  have answered : (SnapshotCatalog.reader.procedureParameters "order").runFrom catalog =
      (.ok orderDescribed, catalog) := by rfl
  have marked : ∀ info ∈ orderDescribed, startsWith "@" info.name = true := by decide
  obtain ⟨failed, bound⟩ := catalogNames_bound answered marked
  refine ⟨answered, marked, failed.trans (by decide), ⟨"order", _, false, none, none, none⟩, rfl, ?_⟩
  exact bound _ rfl {} .sqlServer

/-- Parameters are not always bound under their own names: a second mark in front is lost. -/
theorem catalogNames_not_bound :
    ¬ ∀ (infos : List ParameterInfo) (procedure : Procedure) (settings : Settings) (types : TypeMap)
        (wrapper : ProcedureWrapper),
      (∀ info ∈ infos, startsWith "@" info.name = true) →
      ofInfos infos = .ok procedure.parameters →
      ofProcedure settings types procedure = .ok wrapper →
      boundNames wrapper.command =
        (listed infos).map fun info => some (units info.name.toList) := by
  intro claimed
  have bound := claimed [{ name := "@@x", sqlType := "int" }] ⟨"p", _, false, none, none, none⟩ {}
    .sqlServer _ (by decide) rfl (ofProcedure_eq _ _ _)
  exact absurd bound (by decide)

end ProcedureWrapper

end DataLayer
