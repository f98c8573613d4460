import DataLayer.Proofs.Identifier.Cleanup
import DataLayer.Proofs.Procedure.Surfaces
import DataLayer.Proofs.Text.Ends
import DataLayer.Text.Case
import Mathlib.Data.List.Pairwise

/-!
# The names of methods

The plain method of a procedure is named by the identifier for the prefix and the procedure name.
The other methods of the procedure have this name with an ending. `methodNames_apart` says exactly
when all methods of the static class have different names: the plain ones have to, and none of them
may be another one with the ending of a method that is there.
-/

namespace DataLayer

open Identifier (cleaned needsUnderscore)

namespace Procedure

/-- The name of the plain method of a procedure. -/
def plainMethod (settings : Settings) (procedure : Procedure) : String :=
  ProcedureWrapper.methodNameOf settings procedure.name

/-- The name of the plain method before it is made an identifier. -/
def cleanedName (settings : Settings) (procedure : Procedure) : String :=
  cleaned (settings.procedurePrefix ++ procedure.name)

/-- The endings of the names of the other methods: one for data, and one for data with a sample. -/
def methodEndings (procedure : Procedure) : List String :=
  (if procedure.returnsData then ["_DataSet"] else []) ++
    (if procedure.hasDataObject then ["_DataObject"] else [])

/-- The names of all methods of a procedure. -/
def methodNames (settings : Settings) (procedure : Procedure) : List String :=
  procedure.plainMethod settings ::
    procedure.methodEndings.map (procedure.plainMethod settings ++ ·)

variable {settings : Settings} {procedure : Procedure}

/-- There are two endings. -/
theorem mem_methodEndings {ending : String} (member : ending ∈ procedure.methodEndings) :
    ending = "_DataSet" ∨ ending = "_DataObject" := by
  unfold methodEndings at member
  rcases List.mem_append.mp member with data | object
  · split at data
    · exact .inl (List.mem_singleton.mp data)
    · cases data
  · split at object
    · exact .inr (List.mem_singleton.mp object)
    · cases object

/-- No ending is used twice for one procedure. -/
theorem nodup_methodEndings : procedure.methodEndings.Nodup := by
  unfold methodEndings
  cases procedure.returnsData <;> cases procedure.hasDataObject <;> decide

/-- An ending changes a name. -/
theorem append_ending_ne {ending : String} (member : ending ∈ procedure.methodEndings)
    (name : String) : name ++ ending ≠ name := by
  intro same
  have none : ending = "" := (String.append_eq_left_iff).mp same
  rcases mem_methodEndings member with rfl | rfl <;> exact absurd none (by decide)

/-- Names with endings are the same only when the names without them are. -/
theorem eq_of_append_ending {other : Procedure} {ending otherEnding left right : String}
    (member : ending ∈ procedure.methodEndings) (otherMember : otherEnding ∈ other.methodEndings)
    (same : left ++ ending = right ++ otherEnding) : left = right := by
  have apart {first second : String} (apart : Text.endsApart first second = true)
      (left right : String) : left ++ first ≠ right ++ second := by
    intro same
    have ends := Text.endsWith_append left first
    rw [same, Text.endsWith_of_apart apart] at ends
    cases ends
  rcases mem_methodEndings member with rfl | rfl <;>
    rcases mem_methodEndings otherMember with rfl | rfl
  · exact (String.append_left_inj _).mp same
  · exact absurd same (apart (by decide) left right)
  · exact absurd same (apart (by decide) left right)
  · exact (String.append_left_inj _).mp same

/-- The methods of one procedure have different names. -/
theorem nodup_methodNames : (procedure.methodNames settings).Nodup := by
  refine List.nodup_cons.mpr ⟨fun member => ?_, ?_⟩
  · obtain ⟨ending, among, same⟩ := List.mem_map.mp member
    exact append_ending_ne among _ same
  · exact nodup_methodEndings.map fun _ _ => (String.append_right_inj _).mp

/-- All methods of some procedures have different names exactly when the plain ones have, and none
of these is another one with an ending. -/
theorem nodup_flatMap_methodNames (settings : Settings) (procedures : List Procedure) :
    (procedures.flatMap (methodNames settings)).Nodup ↔
      (procedures.map (plainMethod settings)).Nodup ∧
        ∀ procedure ∈ procedures, ∀ ending ∈ procedure.methodEndings,
          procedure.plainMethod settings ++ ending ∉ procedures.map (plainMethod settings) := by
  rw [List.nodup_flatMap]
  constructor
  · rintro ⟨-, apart⟩
    refine ⟨List.pairwise_map.mpr (apart.imp fun {first second} disjoint same => ?_), ?_⟩
    · exact disjoint List.mem_cons_self (same ▸ List.mem_cons_self)
    · intro procedure member ending among met
      obtain ⟨other, otherMember, same⟩ := List.mem_map.mp met
      have different : procedure ≠ other := by
        rintro rfl
        exact append_ending_ne among _ same.symm
      have symmetric : Std.Symm (Function.onFun List.Disjoint (methodNames settings)) :=
        ⟨fun _ _ disjoint _ left right => disjoint right left⟩
      have disjoint := apart.forall member otherMember different
      exact disjoint (List.mem_cons_of_mem _ (List.mem_map_of_mem among))
        (same ▸ List.mem_cons_self)
  · rintro ⟨distinct, clear⟩
    refine ⟨fun _ _ => nodup_methodNames, ?_⟩
    refine (List.pairwise_map.mp distinct).imp_of_mem fun {first second} inFirst inSecond other => ?_
    have plain {procedure : Procedure} (member : procedure ∈ procedures) :=
      List.mem_map_of_mem (f := plainMethod settings) member
    intro name ofFirst ofSecond
    -- On each side a common name is the plain one or has an ending.
    rcases List.mem_cons.mp ofFirst with rfl | ended <;>
      rcases List.mem_cons.mp ofSecond with same | otherEnded
    · exact other same
    · obtain ⟨ending, among, same⟩ := List.mem_map.mp otherEnded
      exact clear second inSecond ending among (same ▸ plain inFirst)
    · obtain ⟨ending, among, met⟩ := List.mem_map.mp ended
      exact clear first inFirst ending among (met.trans same ▸ plain inSecond)
    · obtain ⟨ending, among, rfl⟩ := List.mem_map.mp ended
      obtain ⟨otherEnding, otherAmong, same⟩ := List.mem_map.mp otherEnded
      exact other (eq_of_append_ending otherAmong among same).symm

/-- The plain methods have different names exactly when the cleaned names are different and none of
them is what another becomes. -/
theorem nodup_plainMethods (settings : Settings) (procedures : List Procedure) :
    (procedures.map (plainMethod settings)).Nodup ↔
      (procedures.map (cleanedName settings)).Nodup ∧
        ∀ name ∈ procedures.map (cleanedName settings), needsUnderscore name = true →
          "_" ++ name ∉ procedures.map (cleanedName settings) := by
  rw [← Identifier.nodup_underscored_iff Identifier.needsUnderscore_underscore, List.map_map]
  have named : plainMethod settings =
      Identifier.underscored needsUnderscore ∘ cleanedName settings :=
    funext fun procedure => Identifier.ofText_eq (settings.procedurePrefix ++ procedure.name)
  rw [named]

end Procedure

/-- The names of the methods in the static class, in order. -/
def ProcedureSurfaces.methodNames (surfaces : ProcedureSurfaces) : List String :=
  surfaces.wrappers.flatMap fun wrapper => wrapper.methods.map (·.name)

namespace Generator

variable (generator : Generator) (procedures : List Procedure)

/-- The static class has the methods of each procedure in order. -/
theorem methodNames_typedSurfaces :
    (generator.typedSurfaces procedures).methodNames =
      procedures.flatMap (Procedure.methodNames generator.settings) := by
  have named (procedure : Procedure) :
      (ProcedureWrapper.typed generator.settings generator.types procedure).methods.map
        (·.name) = procedure.methodNames generator.settings := by
    have heads := congrArg (List.map (·.name))
      (ProcedureWrapper.map_headOf_methods generator.settings generator.types procedure)
    rw [List.map_map] at heads
    refine heads.trans ?_
    unfold Procedure.heads Procedure.methodNames Procedure.methodEndings
    cases procedure.returnsData <;> cases procedure.hasDataObject <;> rfl
  rw [ProcedureSurfaces.methodNames, wrappers_typedSurfaces, List.flatMap_map]
  exact congrArg (List.flatMap · procedures) (funext named)

/-- When the methods of the static class have different names. -/
structure MethodsApart (generator : Generator) (procedures : List Procedure)
    (surfaces : ProcedureSurfaces) : Prop where
  /-- The methods are the plain one of each procedure, one more for data, and one more for data with
  a sample. -/
  named : surfaces.methodNames =
    procedures.flatMap (Procedure.methodNames generator.settings)
  /-- Their names are different exactly when those of the plain ones are, and none of these is
  another one with an ending. -/
  methods : surfaces.methodNames.Nodup ↔
    (procedures.map (Procedure.plainMethod generator.settings)).Nodup ∧
      ∀ procedure ∈ procedures, ∀ ending ∈ procedure.methodEndings,
        procedure.plainMethod generator.settings ++ ending ∉
          procedures.map (Procedure.plainMethod generator.settings)
  /-- The names of the plain ones are different exactly when the cleaned names are, and none of these
  is what another becomes by its underscore. -/
  plain : (procedures.map (Procedure.plainMethod generator.settings)).Nodup ↔
    (procedures.map (Procedure.cleanedName generator.settings)).Nodup ∧
      ∀ name ∈ procedures.map (Procedure.cleanedName generator.settings),
        needsUnderscore name = true →
          "_" ++ name ∉ procedures.map (Procedure.cleanedName generator.settings)

/-- The surfaces are always there. The methods of their static class have different names as far as
the cleaned names of the procedures and the endings allow. -/
theorem methodNames_apart :
    ∃ surfaces, generator.procedureSurfaces procedures = .ok surfaces ∧
      generator.MethodsApart procedures surfaces := by
  refine ⟨_, generator.procedureSurfaces_eq procedures, ?_⟩
  constructor
  case named => exact generator.methodNames_typedSurfaces procedures
  case methods =>
    rw [methodNames_typedSurfaces]
    exact Procedure.nodup_flatMap_methodNames generator.settings procedures
  case plain => exact Procedure.nodup_plainMethods generator.settings procedures

/-- A procedure without parameters. -/
private def plainProcedure (name : String) (returnsData : Bool) : Procedure where
  name := name
  returnsData := returnsData

/-- Procedures with different names can have methods of one name: the cleaned names can be the same,
and a name can have the ending of another method. -/
theorem methodNames_meet :
    (¬ ∀ (generator : Generator) (procedures : List Procedure),
      (procedures.map fun procedure => Text.lower procedure.name).Nodup →
      (procedures.map (Procedure.plainMethod generator.settings)).Nodup) ∧
    ¬ ∀ (generator : Generator) (procedures : List Procedure) (surfaces : ProcedureSurfaces),
      (procedures.map fun procedure => Text.lower procedure.name).Nodup →
      generator.procedureSurfaces procedures = .ok surfaces → surfaces.methodNames.Nodup := by
  refine ⟨fun claimed => ?_, fun claimed => ?_⟩
  · have apart := claimed { settings := {} }
      [plainProcedure "grp a" false, plainProcedure "grp-a" false] (by decide +kernel)
    exact absurd apart (by decide +kernel)
  · have apart := claimed { settings := {} }
      [plainProcedure "grp_a" true, plainProcedure "grp_a_DataSet" true] _ (by decide +kernel)
      (procedureSurfaces_eq _ _)
    exact absurd apart (by decide +kernel)

end Generator

end DataLayer
