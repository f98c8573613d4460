import DataLayer.Proofs.Identifier.Acceptance
import DataLayer.Settings

/-!
# The names in validated settings

The namespace and the procedure class are written into the generated code as they are given.
Validation wants them spelled like identifiers, and this is what cleaning leaves alone, reserved
words apart: `validate_names` says so in both directions. A reserved word is spelled like an
identifier and passes.
-/

namespace DataLayer.Settings

open Identifier (escapeReserved isPart isPath isReserved isSimple isStart ofText)
open Text (joinWith pieces)

/-- A class name is one identifier. -/
theorem isClassName_eq (text : String) : isClassName text = isSimple text.toList := by
  unfold isClassName
  cases dotted : text.toList.contains '.' with
  | true =>
      have unfit : isSimple text.toList = false := by
        rw [← Bool.not_eq_true]
        intro simple
        exact Identifier.dot_not_mem (Identifier.parts_of_isSimple simple)
          (List.contains_iff_mem.mp dotted)
      rw [unfit, Bool.not_true, Bool.and_false]
  | false =>
      have dotless : '.' ∉ text.toList := by
        intro member
        rw [List.contains_iff_mem.mpr member] at dotted
        cases dotted
      rw [Identifier.isPath_of_dotless dotless, Bool.not_false, Bool.and_true]

/-- The name begins with a letter or an underscore, and cleaning does no more than to escape it when
it is a reserved word. -/
structure IsSpelled (name : String) : Prop where
  begins : name.toList.head?.any isStart = true
  cleaned : ofText name = escapeReserved name

/-- The name begins with a letter or an underscore, and cleaning leaves it alone. -/
structure IsKept (name : String) : Prop where
  begins : name.toList.head?.any isStart = true
  cleaned : ofText name = name

/-- A name is well spelled exactly when its characters are those of a simple name. -/
theorem isSpelled_iff {name : String} : IsSpelled name ↔ isSimple name.toList = true := by
  constructor
  · rintro ⟨begins, cleaned⟩
    have parts := Identifier.all_isPart_ofText name
    rw [cleaned, Identifier.escapeReserved_eq] at parts
    rw [Identifier.isSimple_eq, begins, Bool.true_and]
    rcases Identifier.underscored_eq_or isReserved name with ⟨-, same⟩ | ⟨-, marked⟩
    · rwa [same] at parts
    · rw [marked, String.toList_append, List.all_append, Bool.and_eq_true] at parts
      exact parts.2
  · intro simple
    refine ⟨?_, Identifier.ofText_eq_escapeReserved simple⟩
    rw [Identifier.isSimple_eq, Bool.and_eq_true] at simple
    exact simple.1

/-- A well-spelled name that is not reserved is its own identifier. -/
theorem IsSpelled.unchanged {name : String} (spelled : IsSpelled name)
    (free : isReserved name = false) : ofText name = name :=
  Identifier.ofText_of_isSimple (isSpelled_iff.mp spelled) free

/-- What cleaning leaves alone is no reserved word. -/
theorem IsKept.isSpelled {name : String} (kept : IsKept name) : IsSpelled name where
  begins := kept.begins
  cleaned := by
    have free := Identifier.isReserved_ofText name
    rw [kept.cleaned] at free
    rw [kept.cleaned, escapeReserved, free]
    rfl

/-- A path is accepted exactly when each of its parts is well spelled. -/
theorem isPath_iff {text : String} :
    isPath text = true ↔ ∀ part ∈ pieces (· == '.') text, IsSpelled part := by
  simp only [isSpelled_iff, pieces, isPath, List.all_eq_true, List.forall_mem_map,
    String.toList_ofList]

/-- Settings are valid exactly when the namespace is a path and the class for procedures, where it
is used, is named. -/
theorem validate_eq_ok_iff {settings : Settings} :
    settings.validate = .ok () ↔ isPath settings.codeNamespace = true ∧
      (settings.useProcedures = true → isClassName settings.procedureClass = true) := by
  unfold validate
  cases isPath settings.codeNamespace <;> cases settings.useProcedures <;>
    cases isClassName settings.procedureClass <;> simp

/-- Which settings are accepted, in terms of what cleaning makes of their names. -/
structure NamesValidated (settings : Settings) : Prop where
  /-- All parts of the namespace are spelled like identifiers, and the procedure class is when it is
  used. -/
  accepted : settings.validate = .ok () ↔
    (∀ part ∈ pieces (· == '.') settings.codeNamespace, IsSpelled part) ∧
      (settings.useProcedures = true → IsSpelled settings.procedureClass)
  /-- Cleaning leaves the names in accepted settings alone, unless they are reserved words. -/
  unchanged : settings.validate = .ok () →
    (∀ part ∈ pieces (· == '.') settings.codeNamespace,
      isReserved part = false → ofText part = part) ∧
    (settings.useProcedures = true → isReserved settings.procedureClass = false →
      ofText settings.procedureClass = settings.procedureClass)
  /-- Names that cleaning leaves alone are accepted, with dots between those of a namespace. -/
  kept : ∀ parts, parts ≠ [] → settings.codeNamespace = joinWith "." parts →
    (∀ part ∈ parts, IsKept part) →
    (settings.useProcedures = true → IsKept settings.procedureClass) → settings.validate = .ok ()

/-- Validation and cleaning agree on which names are spelled like identifiers. -/
theorem validate_names (settings : Settings) : NamesValidated settings := by
  have accepted : settings.validate = .ok () ↔
      (∀ part ∈ pieces (· == '.') settings.codeNamespace, IsSpelled part) ∧
        (settings.useProcedures = true → IsSpelled settings.procedureClass) := by
    rw [validate_eq_ok_iff, isPath_iff, isClassName_eq, isSpelled_iff]
  constructor
  case accepted => exact accepted
  case unchanged =>
    intro valid
    obtain ⟨parts, procedureClass⟩ := accepted.mp valid
    exact ⟨fun part member => (parts part member).unchanged,
      fun used => (procedureClass used).unchanged⟩
  case kept =>
    intro parts nonempty joined keptParts keptClass
    -- Cleaning leaves no dots, so parts that it does not change can be told apart again.
    have dotless : ∀ part ∈ parts, ∀ c ∈ part.toList, (c == '.') = false := by
      intro part member c among
      rw [beq_eq_false_iff_ne]
      rintro rfl
      rw [← (keptParts part member).cleaned] at among
      exact Identifier.dot_not_mem (Identifier.all_isPart_ofText part) among
    refine accepted.mpr ⟨?_, fun used => (keptClass used).isSpelled⟩
    rw [joined, Text.pieces_joinWith rfl (by decide) nonempty dotless]
    exact fun part member => (keptParts part member).isSpelled

/-- A reserved word is accepted as a namespace and as a procedure class. -/
theorem names_not_always_unchanged :
    (¬ ∀ settings : Settings, settings.validate = .ok () →
      ∀ part ∈ pieces (· == '.') settings.codeNamespace, ofText part = part) ∧
    ¬ ∀ settings : Settings, settings.validate = .ok () → settings.useProcedures = true →
      ofText settings.procedureClass = settings.procedureClass := by
  refine ⟨fun claimed => ?_, fun claimed => ?_⟩
  · have unchanged := claimed { codeNamespace := "class" } (by decide +kernel) "class"
      (by decide +kernel)
    exact absurd unchanged (by decide +kernel)
  · have unchanged := claimed { useProcedures := true, procedureClass := "class" }
      (by decide +kernel) rfl
    exact absurd unchanged (by decide +kernel)

end DataLayer.Settings
