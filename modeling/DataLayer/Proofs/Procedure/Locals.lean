import DataLayer.Proofs.Procedure.Surfaces
import DataLayer.Proofs.Text.Ends
import Mathlib.Data.List.Nodup

/-!
# The locals of generated methods

A local is visible in the whole block that declares it and in all blocks inside, so a body is well
scoped when in each of its blocks all visible names are different. Every generated local begins
alike, and no parameter begins like this. `locals_apart` states that parameters are never hidden,
and that a method whose parameters have different names is well scoped.
-/

namespace DataLayer

open Text (startsWith)

namespace BodyStatement

/-- The local that a statement declares in the block where it stands. -/
def declaredName : BodyStatement → Option String
  | declare name _ => some name
  | perform _ | provided _ _ | forEach _ _ _ _ => none

/-- The locals that are declared in a block itself. -/
def declared (body : List BodyStatement) : List String := body.filterMap declaredName

mutual

/-- The locals that a statement declares at any depth. -/
def locals : BodyStatement → List String
  | declare name _ => [name]
  | perform _ => []
  | provided _ body => localsOfAll body
  | forEach _ name _ body => name :: localsOfAll body

/-- The locals that several statements declare at any depth. -/
def localsOfAll : List BodyStatement → List String
  | [] => []
  | statement :: rest => locals statement ++ localsOfAll rest

end

/-- In every block inside the statements, the names it declares and those that are visible around it
are all different. Blocks beside each other may declare the same names. -/
inductive Scoped : List String → List BodyStatement → Prop where
  | nil (visible : List String) : Scoped visible []
  | declare {visible : List String} {rest : List BodyStatement} (name value : String)
      (others : Scoped visible rest) : Scoped visible (declare name value :: rest)
  | perform {visible : List String} {rest : List BodyStatement} (text : String)
      (others : Scoped visible rest) : Scoped visible (perform text :: rest)
  | provided {visible : List String} {body rest : List BodyStatement} (condition : String)
      (apart : (declared body ++ visible).Nodup) (inside : Scoped (declared body ++ visible) body)
      (others : Scoped visible rest) : Scoped visible (provided condition body :: rest)
  | forEach {visible : List String} {body rest : List BodyStatement}
      (elementType name source : String) (apart : (declared body ++ name :: visible).Nodup)
      (inside : Scoped (declared body ++ name :: visible) body) (others : Scoped visible rest) :
      Scoped visible (forEach elementType name source body :: rest)

/-- A body in which all visible names are different, its parameters included. -/
def WellScoped (parameters : List String) (body : List BodyStatement) : Prop :=
  (declared body ++ parameters).Nodup ∧ Scoped (declared body ++ parameters) body

/-- A body may follow another one that has all it needs in sight. -/
theorem Scoped.append {visible : List String} {body others : List BodyStatement}
    (first : Scoped visible body) (second : Scoped visible others) :
    Scoped visible (body ++ others) := by
  induction first with
  | nil => exact second
  | declare name value _ ih => exact .declare name value (ih second)
  | perform text _ ih => exact .perform text (ih second)
  | provided condition apart inside _ _ ih => exact .provided condition apart inside (ih second)
  | forEach elementType name source apart inside _ _ ih =>
      exact .forEach elementType name source apart inside (ih second)

/-- Both of two bodies declare their locals. -/
theorem declared_append (body others : List BodyStatement) :
    declared (body ++ others) = declared body ++ declared others :=
  List.filterMap_append

/-- And so do they at any depth. -/
theorem localsOfAll_append (body others : List BodyStatement) :
    localsOfAll (body ++ others) = localsOfAll body ++ localsOfAll others := by
  induction body with
  | nil => rfl
  | cons statement body ih => simp only [List.cons_append, localsOfAll, ih, List.append_assoc]

/-- The statement has no block inside. -/
def isFlat : BodyStatement → Bool
  | declare _ _ | perform _ => true
  | provided _ _ | forEach _ _ _ _ => false

/-- Without blocks inside, a body is scoped, and it declares all its locals itself. -/
theorem scoped_of_flat {body : List BodyStatement}
    (flat : ∀ statement ∈ body, statement.isFlat = true) (visible : List String) :
    Scoped visible body ∧ localsOfAll body = declared body := by
  induction body with
  | nil => exact ⟨.nil visible, rfl⟩
  | cons statement body ih =>
      obtain ⟨inside, same⟩ := ih fun other later => flat other (List.mem_cons_of_mem _ later)
      have here := flat statement List.mem_cons_self
      cases statement with
      | declare name value =>
          refine ⟨.declare name value inside, ?_⟩
          rw [localsOfAll, locals, same, List.singleton_append]
          rfl
      | perform text => exact ⟨.perform text inside, by rw [localsOfAll, locals, same]; rfl⟩
      | provided condition inner => cases here
      | forEach elementType name source inner => cases here

end BodyStatement

/-- The name begins like a local, and it is not that of the provider. -/
def IsLocal (name : String) : Prop := startsWith localStart name = true ∧ name ≠ providerLocal

instance (name : String) : Decidable (IsLocal name) := inferInstanceAs (Decidable (_ ∧ _))

/-- A parameter does not begin like a local. -/
theorem WrapperParameter.startsWith_clearOfLocals (codeName : String) :
    startsWith localStart (clearOfLocals codeName) = false := by
  unfold clearOfLocals
  split
  · exact Text.startsWith_of_apart (by decide) codeName
  · rename_i clear
    exact Bool.not_eq_true _ ▸ clear

/-- What begins with the start of a local is one when the provider does not begin like this. -/
theorem isLocal_append {start : String} (begins : startsWith localStart start = true)
    (apart : startsWith start providerLocal = false) (rest : String) : IsLocal (start ++ rest) :=
  ⟨Text.startsWith_append begins rest, Text.append_ne apart rest⟩

/-- The start of the locals that hold output parameters. -/
def handleStart : String := localStart ++ "par_"

namespace ProcedureWrapper

open BodyStatement

variable (settings : Settings) (types : TypeMap) (procedure : Procedure)

/-- What is visible in a method outside its body. -/
def methodScope (wrapper : ProcedureWrapper) : List String :=
  providerLocal :: wrapper.parameters.map (·.codeName)

/-- No local of the body is visible outside it, and the body is well scoped when the parameters have
different names. -/
structure KeepsApart (wrapper : ProcedureWrapper) (body : List BodyStatement) : Prop where
  locals : ∀ name ∈ localsOfAll body, IsLocal name
  wellScoped : (wrapper.parameters.map (·.codeName)).Nodup → WellScoped wrapper.methodScope body

/-- No parameter of a wrapper begins like a local. -/
theorem startsWith_of_mem_codeNames {codeName : String}
    (member : codeName ∈ (typed settings types procedure).parameters.map (·.codeName)) :
    startsWith localStart codeName = false := by
  rw [parameters_typed, List.map_map] at member
  obtain ⟨parameter, -, rfl⟩ := List.mem_map.mp member
  exact WrapperParameter.startsWith_clearOfLocals parameter.codeName

/-- Different locals are different from everything that is visible in the method before. -/
theorem nodup_visible {names : List String} (distinct : names.Nodup)
    (locals : ∀ name ∈ names, IsLocal name)
    (apart : ((typed settings types procedure).parameters.map (·.codeName)).Nodup) :
    (names ++ (typed settings types procedure).methodScope).Nodup := by
  refine List.nodup_append.mpr ⟨distinct, List.nodup_cons.mpr ⟨fun member => ?_, apart⟩, ?_⟩
  · have clear := startsWith_of_mem_codeNames settings types procedure member
    revert clear
    decide
  · rintro name member other visible rfl
    obtain ⟨begins, other⟩ := locals name member
    rcases List.mem_cons.mp visible with provider | codeName
    · exact other provider
    · have clear := startsWith_of_mem_codeNames settings types procedure codeName
      rw [begins] at clear
      cases clear

/-- A body without blocks keeps its locals apart when it declares different ones. -/
theorem keepsApart_of_flat {body : List BodyStatement}
    (flat : ∀ statement ∈ body, statement.isFlat = true)
    (locals : ∀ name ∈ declared body, IsLocal name)
    (distinct : ((typed settings types procedure).parameters.map (·.codeName)).Nodup →
      (declared body).Nodup) :
    KeepsApart (typed settings types procedure) body := by
  constructor
  case locals => rwa [(scoped_of_flat flat []).2]
  case wellScoped =>
    intro apart
    exact ⟨nodup_visible settings types procedure (distinct apart) locals apart,
      (scoped_of_flat flat _).1⟩

section Executing

variable (wrapper : ProcedureWrapper)

/-- The statements that set up the command have no blocks inside. -/
theorem isFlat_of_mem_command {statement : BodyStatement} (member : statement ∈ wrapper.command) :
    statement.isFlat = true := by
  unfold command at member
  rcases List.mem_append.mp member with setUp | binding
  · simp only [List.mem_cons, List.not_mem_nil, or_false] at setUp
    rcases setUp with rfl | rfl | rfl <;> rfl
  · obtain ⟨parameter, -, rfl⟩ := List.mem_map.mp binding
    unfold WrapperParameter.binding
    split <;> rfl

/-- Neither have those that copy values back. -/
theorem isFlat_of_mem_copyOut {statement : BodyStatement} (member : statement ∈ wrapper.copyOut) :
    statement.isFlat = true := by
  obtain ⟨parameter, -, rfl⟩ := List.mem_map.mp member
  rfl

/-- The locals for the output parameters. -/
def handles (wrapper : ProcedureWrapper) : List String :=
  (wrapper.parameters.filter (·.isOutput)).map (·.handle)

/-- Binding an output parameter declares its handle, and binding an input parameter declares
nothing. -/
theorem declaredName_binding (parameter : WrapperParameter) :
    parameter.binding.declaredName =
      if parameter.isOutput then some parameter.handle else none := by
  unfold WrapperParameter.binding
  split <;> rfl

/-- So the handles of the output parameters are declared in order. -/
theorem declared_bindings (parameters : List WrapperParameter) :
    declared (parameters.map (·.binding)) = (parameters.filter (·.isOutput)).map (·.handle) := by
  induction parameters with
  | nil => rfl
  | cons first parameters ih =>
      rw [List.map_cons, declared, List.filterMap_cons, declaredName_binding, List.filter_cons]
      cases first.isOutput with
      | true => exact congrArg (first.handle :: ·) ih
      | false => exact ih

/-- The command is declared before the handles. -/
theorem declared_command : declared wrapper.command = commandLocal :: wrapper.handles := by
  unfold command
  rw [declared_append, declared_bindings]
  rfl

/-- Copying values back declares nothing. -/
theorem declared_copyOut : declared wrapper.copyOut = [] := by
  rw [declared, List.filterMap_eq_nil_iff]
  intro statement member
  obtain ⟨parameter, -, rfl⟩ := List.mem_map.mp member
  rfl

/-- All handles begin in one way. -/
theorem exists_of_mem_handles {name : String} (member : name ∈ wrapper.handles) :
    ∃ rest, name = handleStart ++ rest := by
  obtain ⟨parameter, -, rfl⟩ := List.mem_map.mp member
  exact ⟨parameter.codeName, rfl⟩

/-- Parameters with different names have different handles. -/
theorem nodup_handles (apart : (wrapper.parameters.map (·.codeName)).Nodup) :
    wrapper.handles.Nodup := by
  have names : wrapper.handles =
      ((wrapper.parameters.filter (·.isOutput)).map (·.codeName)).map (handleStart ++ ·) := by
    rw [handles, List.map_map]
    rfl
  have fewer : ((wrapper.parameters.filter (·.isOutput)).map (·.codeName)).Nodup :=
    apart.sublist (List.filter_sublist.map _)
  rw [names]
  exact fewer.map fun _ _ => String.append_right_inj _ |>.mp

/-- The locals of a body that executes the command and keeps the result in one more local. -/
theorem declared_executing (result value closing : String) :
    declared (wrapper.command ++ [.declare result value] ++ wrapper.copyOut ++
      [.perform closing]) = (commandLocal :: wrapper.handles) ++ [result] := by
  simp only [declared_append, declared_command, declared_copyOut, List.append_nil]
  exact List.append_nil _

/-- The local for the result is none of those before it. -/
theorem nodup_executing {result : String} (other : result ≠ commandLocal)
    (noHandle : startsWith handleStart result = false)
    (apart : (wrapper.parameters.map (·.codeName)).Nodup) :
    ((commandLocal :: wrapper.handles) ++ [result]).Nodup := by
  have notAmong {name : String} (apart : startsWith handleStart name = false) :
      name ∉ wrapper.handles := by
    intro member
    obtain ⟨rest, same⟩ := wrapper.exists_of_mem_handles member
    exact Text.append_ne apart rest same.symm
  rw [List.nodup_middle, List.append_nil]
  have ofResult := List.not_mem_cons_of_ne_of_not_mem other (notAmong noHandle)
  have ofCommand := notAmong (by decide : startsWith handleStart commandLocal = false)
  exact List.nodup_cons.mpr ⟨ofResult, List.nodup_cons.mpr ⟨ofCommand, wrapper.nodup_handles apart⟩⟩

end Executing

/-- A body that executes the command keeps its locals apart. -/
theorem keepsApart_executing {result value closing : String} (isLocal : IsLocal result)
    (other : result ≠ commandLocal) (noHandle : startsWith handleStart result = false) :
    let wrapper := typed settings types procedure
    KeepsApart wrapper
      (wrapper.command ++ [.declare result value] ++ wrapper.copyOut ++ [.perform closing]) := by
  intro wrapper
  apply keepsApart_of_flat
  case flat =>
    intro statement member
    simp only [List.mem_append, List.mem_singleton] at member
    rcases member with ((command | rfl) | copyOut) | rfl
    · exact wrapper.isFlat_of_mem_command command
    · rfl
    · exact wrapper.isFlat_of_mem_copyOut copyOut
    · rfl
  case locals =>
    intro name member
    rw [declared_executing] at member
    simp only [List.mem_append, List.mem_cons, List.not_mem_nil, or_false] at member
    rcases member with (rfl | handle) | rfl
    · decide
    -- A handle begins like a local, whatever the name of its parameter.
    · obtain ⟨rest, rfl⟩ := wrapper.exists_of_mem_handles handle
      exact isLocal_append (by decide) (by decide) rest
    · exact isLocal
  case distinct =>
    intro apart
    rw [declared_executing]
    exact wrapper.nodup_executing other noHandle apart

/-- A body that returns the first table has one local. -/
theorem keepsApart_firstTableBody :
    KeepsApart (typed settings types procedure)
      (typed settings types procedure).firstTableBody := by
  apply keepsApart_of_flat
  case flat =>
    intro statement member
    simp only [firstTableBody, List.mem_cons, List.not_mem_nil, or_false] at member
    rcases member with rfl | rfl <;> rfl
  case locals =>
    intro name member
    rw [List.mem_singleton.mp member]
    decide
  case distinct => exact fun _ => List.nodup_singleton dataSetLocal

/-- The starts of the locals for the lists of result rows and for the rows they are filled from. -/
def listStart : String := localStart ++ "tab_"

def rowStart : String := localStart ++ "row_"

/-- The locals that are visible where the object for a row is filled. -/
theorem nodup_objectLocals (index : Nat) {indices : List Nat} (distinct : indices.Nodup) :
    (rowObjectLocal :: Naming.numbered rowStart index :: dataSetLocal :: resultLocal ::
      indices.map (Naming.numbered listStart)).Nodup := by
  have noList {name : String} (apart : startsWith listStart name = false) :
      name ∉ indices.map (Naming.numbered listStart) := by
    intro member
    obtain ⟨other, -, same⟩ := List.mem_map.mp member
    exact Text.append_ne apart other.repr same
  have noRow {name : String} (apart : startsWith rowStart name = false) :
      Naming.numbered rowStart index ≠ name :=
    Text.append_ne apart index.repr
  have lists : (indices.map (Naming.numbered listStart)).Nodup :=
    distinct.map fun _ _ => Naming.numbered_injective
  have rowNoList : Naming.numbered rowStart index ∉ indices.map (Naming.numbered listStart) :=
    noList (Text.startsWith_of_apart (by decide) index.repr)
  simp only [List.nodup_cons, List.mem_cons, not_or]
  exact ⟨⟨(noRow (by decide)).symm, by decide, by decide, noList (by decide)⟩,
    ⟨noRow (by decide), noRow (by decide), rowNoList⟩, ⟨by decide, noList (by decide)⟩,
    noList (by decide), lists⟩

/-- All names in sight where a row is filled are locals. -/
theorem isLocal_of_objectLocals (index : Nat) {indices : List Nat} :
    ∀ name ∈ rowObjectLocal :: Naming.numbered rowStart index :: dataSetLocal :: resultLocal ::
      indices.map (Naming.numbered listStart), IsLocal name := by
  intro name member
  simp only [List.mem_cons] at member
  rcases member with rfl | rfl | rfl | rfl | list
  · decide
  · exact isLocal_append (by decide) (by decide) index.repr
  · decide
  · decide
  · obtain ⟨other, -, rfl⟩ := List.mem_map.mp list
    exact isLocal_append (by decide) (by decide) other.repr

/-- Filling the lists of result rows is scoped where the object for a row is new. -/
theorem scoped_collectTable {visible : List String} (trims : Bool) {tables : List ResultClass}
    (fresh : ∀ result ∈ tables,
      (rowObjectLocal :: Naming.numbered rowStart result.index :: visible).Nodup) :
    Scoped visible (tables.flatMap (collectTable trims)) := by
  induction tables with
  | nil => exact .nil visible
  | cons first tables ih =>
      have here := fresh first List.mem_cons_self
      have visibleAlone : visible.Nodup := here.of_cons.of_cons
      have filled : Scoped visible (collectTable trims first) :=
        .declare _ _ (.provided _ visibleAlone
          (.forEach _ _ _ here (.declare _ _ (.perform _ (.perform _ (.nil _)))) (.nil _))
          (.perform _ (.nil _)))
      exact filled.append (ih fun result later => fresh result (List.mem_cons_of_mem _ later))

/-- Collecting the tables declares one list for each. -/
theorem declared_collectTable (trims : Bool) (tables : List ResultClass) :
    declared (tables.flatMap (collectTable trims)) =
      (tables.map (·.index)).map (Naming.numbered listStart) := by
  induction tables with
  | nil => rfl
  | cons first tables ih =>
      rw [List.flatMap_cons, declared_append, ih]
      rfl

/-- What is declared on the way is a local too. -/
theorem isLocal_of_collectTable {trims : Bool} {tables : List ResultClass} {name : String}
    (member : name ∈ localsOfAll (tables.flatMap (collectTable trims))) : IsLocal name := by
  induction tables with
  | nil => cases member
  | cons first tables ih =>
      rw [List.flatMap_cons, localsOfAll_append] at member
      rcases List.mem_append.mp member with here | later
      · have names : localsOfAll (collectTable trims first) =
            [listStart ++ first.index.repr, rowStart ++ first.index.repr, rowObjectLocal] := rfl
        rw [names] at here
        simp only [List.mem_cons, List.not_mem_nil, or_false] at here
        rcases here with rfl | rfl | rfl
        · exact isLocal_append (by decide) (by decide) _
        · exact isLocal_append (by decide) (by decide) _
        · decide
      · exact ih later

/-- A body that returns an object keeps its locals apart when the tables have different numbers. -/
theorem keepsApart_dataObjectBody {aggregate : ResultAggregate}
    (distinct : (aggregate.tables.map (·.index)).Nodup) :
    KeepsApart (typed settings types procedure)
      ((typed settings types procedure).dataObjectBody aggregate) := by
  have names : declared ((typed settings types procedure).dataObjectBody aggregate) =
      dataSetLocal :: resultLocal ::
        (aggregate.tables.map (·.index)).map (Naming.numbered listStart) := by
    unfold dataObjectBody
    rw [declared_append, declared_append, declared_collectTable]
    exact List.append_nil _
  have isLocal : ∀ name ∈
      localsOfAll ((typed settings types procedure).dataObjectBody aggregate),
      IsLocal name := by
    intro name member
    unfold dataObjectBody at member
    rw [localsOfAll_append, localsOfAll_append] at member
    rcases List.mem_append.mp member with inner | last
    · rcases List.mem_append.mp inner with first | filled
      · have opening : name ∈ [dataSetLocal, resultLocal] := first
        simp only [List.mem_cons, List.not_mem_nil, or_false] at opening
        rcases opening with rfl | rfl <;> decide
      · exact isLocal_of_collectTable filled
    · cases last
  constructor
  case locals => exact isLocal
  case wellScoped =>
    intro apart
    -- A local is visible in its whole block, so a loop has the lists of all tables in sight.
    have visible (index : Nat) := nodup_visible settings types procedure
      (nodup_objectLocals index distinct) (isLocal_of_objectLocals index) apart
    rw [WellScoped, names]
    refine ⟨(visible 0).of_cons.of_cons, ?_⟩
    exact ((Scoped.declare _ _ (.declare _ _ (.nil _))).append
      (scoped_collectTable aggregate.trims fun result _ => visible result.index)).append
      (.perform _ (.nil _))

/-- The tables of a sampled result are numbered in order. -/
theorem indices_typed (name : String) (sample : ResultShape) :
    (ResultAggregate.typed settings name sample).tables.map (·.index) =
      List.range sample.tables.length := by
  refine List.ext_getElem (by simp) fun index _ _ => ?_
  simp

/-- Every method of a wrapper keeps its locals apart. -/
theorem keepsApart_methods :
    ∀ method ∈ (typed settings types procedure).methods,
      KeepsApart (typed settings types procedure) method.body := by
  have count : KeepsApart (typed settings types procedure)
      (typed settings types procedure).countBody :=
    keepsApart_executing settings types procedure (by decide) (by decide) (by decide)
  have dataSet : KeepsApart (typed settings types procedure)
      (typed settings types procedure).dataSetBody :=
    keepsApart_executing settings types procedure (by decide) (by decide) (by decide)
  have firstTable := keepsApart_firstTableBody settings types procedure
  have dataObject (sample : ResultShape) := keepsApart_dataObjectBody settings types procedure
    (indices_typed settings procedure.name sample ▸ List.nodup_range)
  -- Which methods there are depends on whether data are returned and whether they were sampled.
  obtain ⟨name, parameters, returnsData, definition, sample, loadError⟩ := procedure
  cases returnsData with
  | false =>
      intro method member
      rw [List.mem_singleton.mp member]
      exact count
  | true =>
      cases sample with
      | none =>
          intro method member
          rcases List.mem_cons.mp member with rfl | later
          · exact firstTable
          · rw [List.mem_singleton.mp later]
            exact dataSet
      | some sample =>
          intro method member
          rcases List.mem_cons.mp member with rfl | later
          · exact firstTable
          rcases List.mem_cons.mp later with rfl | last
          · exact dataSet
          · rw [List.mem_singleton.mp last]
            exact dataObject sample

/-- No parameter of a method is hidden by a local of it, and no local by another. -/
structure LocalsApart (wrapper : ProcedureWrapper) : Prop where
  parameters : ∀ method ∈ wrapper.methods, ∀ parameter ∈ wrapper.parameters,
    parameter.codeName ∉ providerLocal :: localsOfAll method.body
  wellScoped : (wrapper.parameters.map (·.codeName)).Nodup →
    ∀ method ∈ wrapper.methods,
      WellScoped (providerLocal :: wrapper.parameters.map (·.codeName)) method.body

/-- The locals of a wrapper are apart from its parameters, and from each other wherever these are.
-/
theorem localsApart_typed : LocalsApart (typed settings types procedure) := by
  constructor
  case parameters =>
    intro method member parameter among visible
    have clear := startsWith_of_mem_codeNames settings types procedure
      (List.mem_map_of_mem (f := (·.codeName)) among)
    rcases List.mem_cons.mp visible with provider | declared
    · rw [provider] at clear
      revert clear
      decide
    · have apart := keepsApart_methods settings types procedure method member
      have begins := (apart.locals _ declared).1
      rw [clear] at begins
      cases begins
  case wellScoped =>
    exact fun apart method member =>
      (keepsApart_methods settings types procedure method member).wellScoped apart

/-- Every procedure has a wrapper. The locals of each of its static methods keep apart from the
parameters of the method and from each other. -/
theorem locals_apart :
    ∃ wrapper, ofProcedure settings types procedure = .ok wrapper ∧ LocalsApart wrapper :=
  ⟨_, ofProcedure_eq settings types procedure, localsApart_typed settings types procedure⟩

/-- A procedure with parameters that are written like locals and with two result tables. -/
private def shippingProcedure : Procedure where
  name := "shipping"
  parameters :=
    [⟨"sp_ds", "sp_ds", .input, .int32, "int", 0, 0, 4⟩,
     ⟨"par_sp_ds", "par_sp_ds", .output, .int32, "int", 0, 0, 4⟩,
     ⟨"class", "_class", .both, .int32, "int", 0, 0, 4⟩]
  returnsData := true
  sample := some ⟨[⟨[], 0⟩, ⟨[], 0⟩]⟩

/-- The locals of all three methods for a shipping, whose parameters have been kept clear of them.
-/
theorem locals_apart_shipping :
    ∃ wrapper, ofProcedure {} .sqlServer shippingProcedure = .ok wrapper ∧
      (wrapper.parameters.map (·.codeName)).Nodup ∧ wrapper.methods.length = 3 ∧
      ∀ method ∈ wrapper.methods,
        WellScoped (providerLocal :: wrapper.parameters.map (·.codeName)) method.body := by
  obtain ⟨wrapper, made, apart⟩ := locals_apart {} .sqlServer shippingProcedure
  have distinct : (wrapper.parameters.map (·.codeName)).Nodup := by
    rw [eq_typed made]
    decide
  exact ⟨wrapper, made, distinct, eq_typed made ▸ rfl, apart.wellScoped distinct⟩

/-- Different names do not keep parameters apart: the name that is kept clear of the locals may be
that of another parameter. -/
example : WrapperParameter.clearOfLocals "sp_cmd" = WrapperParameter.clearOfLocals "_sp_cmd" := by
  decide

end ProcedureWrapper

end DataLayer
