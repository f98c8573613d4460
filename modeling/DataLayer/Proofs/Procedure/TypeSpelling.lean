import DataLayer.Introspection
import DataLayer.Proofs.Procedure.ParameterNames
import DataLayer.Proofs.Text.Padding

/-!
# Spellings of a parameter's type

The class of a parameter is found without regard to letter case and to the white space around its
type. The rest of what is generated looks at the type in lower case with its white space. So letter
case never matters, and white space does for the hints of a decimal and for the argument of a
sample.
-/

namespace DataLayer

open Introspection (dateTypes numberTypes placeholder sampleArgument textTypes)
open Text (Solid isPadded lower trim upper)

/-- Descriptions of a parameter that differ at most in the letter case of its type and in the white
space around it. -/
structure SpelledAlike (left right : ParameterInfo) : Prop where
  others : right = { left with sqlType := right.sqlType }
  types : upper (lower (trim left.sqlType)) = upper (lower (trim right.sqlType))

namespace ParameterType

/-- The names of types are different in any letter case. -/
theorem sqlNames_apart : (sqlNames.map fun entry => upper entry.1).Nodup := by decide +kernel

/-- Exactly the names `decimal` and `numeric` stand for the decimal type. -/
theorem isDecimal_of_mem {entry : String × ParameterType} (member : entry ∈ sqlNames) :
    (entry.1 == "decimal" || entry.1 == "numeric") = (entry.2 == .decimal) := by
  have all : (sqlNames.all fun entry =>
      (entry.1 == "decimal" || entry.1 == "numeric") == (entry.2 == .decimal)) = true := by decide
  exact eq_of_beq (List.all_eq_true.mp all entry member)

/-- A class is found for the name of a type in lower case without the white space around it. -/
theorem mem_sqlNames_of_ofSqlType? {sqlType : String} {parameterType : ParameterType}
    (known : ofSqlType? sqlType = some parameterType) :
    (lower (trim sqlType), parameterType) ∈ sqlNames := by
  obtain ⟨before, after, split, -⟩ := List.lookup_eq_some_iff.mp known
  rw [split]
  exact List.mem_append_right _ List.mem_cons_self

/-- Types that agree up to letter case have the same name, once both have a class. -/
theorem lower_trim_eq {left right : String}
    (same : upper (lower (trim left)) = upper (lower (trim right)))
    {leftType rightType : ParameterType} (leftKnown : ofSqlType? left = some leftType)
    (rightKnown : ofSqlType? right = some rightType) :
    lower (trim left) = lower (trim right) ∧ leftType = rightType := by
  have entries := List.inj_on_of_nodup_map sqlNames_apart (mem_sqlNames_of_ofSqlType? leftKnown)
    (mem_sqlNames_of_ofSqlType? rightKnown) same
  exact Prod.mk.inj entries

end ParameterType

section Padded

variable {text : String}

/-- White space is never lost, so no name without it is left of a text that is padded. -/
theorem contains_lower_of_isPadded {names : List String} (solid : ∀ name ∈ names, Solid name)
    (padded : isPadded text = true) : names.contains (lower text) = false := by
  obtain ⟨c, member, blank⟩ := Text.exists_blank_of_isPadded padded
  rw [← Bool.not_eq_true, List.contains_iff_mem]
  intro among
  have visible := solid _ among c (Text.mem_lower_of_isBlank member blank)
  rw [blank] at visible
  cases visible

/-- A type name with a blank in front or behind is no known name, so its placeholder is `null`. -/
theorem placeholder_lower_of_isPadded (padded : isPadded text = true) :
    placeholder (lower text) = "null" := by
  rw [placeholder, contains_lower_of_isPadded (by decide) padded,
    contains_lower_of_isPadded (by decide) padded, contains_lower_of_isPadded (by decide) padded]
  rfl

/-- A type name that is not padded is its own trimmed form. -/
theorem trim_of_not_isPadded (bare : isPadded text = false) : trim text = text := by
  simpa [isPadded] using bare

end Padded

namespace Parameter

/-- Precision and scale are bound for decimals with a precision whose type has no white space around
it. -/
def isHinted (info : ParameterInfo) (parameter : Parameter) : Bool :=
  parameter.parameterType == .decimal && 0 < parameter.precision && !isPadded info.sqlType

variable {info : ParameterInfo} {parameter : Parameter}

/-- A parameter that was read binds its precision exactly when it is hinted. -/
theorem bindsPrecision_of_ofInfo (read : ofInfo info = .ok (some parameter)) :
    WrapperParameter.bindsPrecision parameter = isHinted info parameter := by
  obtain ⟨-, parameterType, known, rfl⟩ := eq_of_ofInfo read
  have decimal := ParameterType.isDecimal_of_mem (ParameterType.mem_sqlNames_of_ofSqlType? known)
  unfold WrapperParameter.bindsPrecision isHinted
  dsimp only
  cases padded : isPadded info.sqlType with
  | true =>
      have other : ["decimal", "numeric"].contains (lower info.sqlType) = false :=
        contains_lower_of_isPadded (by decide) padded
      have neither :
          (lower info.sqlType == "decimal" || lower info.sqlType == "numeric") = false := by
        simpa using other
      rw [neither]
      simp
  | false =>
      rw [trim_of_not_isPadded padded] at decimal
      dsimp only at decimal
      rw [decimal, Bool.not_false, Bool.and_true, Bool.and_comm]

/-- The sample argument is `null` for outputs and padded type names, else the placeholder of the
trimmed name. -/
theorem sampleArgument_of_ofInfo (read : ofInfo info = .ok (some parameter)) :
    sampleArgument parameter =
      if parameter.isOutput || isPadded info.sqlType then "null"
      else placeholder (lower (trim info.sqlType)) := by
  have typed : parameter.sqlType = lower info.sqlType := by
    obtain ⟨-, parameterType, -, rfl⟩ := eq_of_ofInfo read
    rfl
  rw [sampleArgument, typed]
  cases parameter.isOutput with
  | true => simp only [Bool.true_or, if_true]
  | false =>
      simp only [Bool.false_or, Bool.false_eq_true, if_false]
      cases padded : isPadded info.sqlType with
      | true => simp only [if_true, placeholder_lower_of_isPadded padded]
      | false => simp only [Bool.false_eq_true, if_false, trim_of_not_isPadded padded]

end Parameter

namespace WrapperParameter

/-- No number begins like `null`. -/
theorem startsApart_repr_null (number : Nat) : Text.startsApart number.repr "null" = true := by
  obtain ⟨c, rest, written, digit⟩ := Naming.exists_digit_repr number
  have other : c ≠ 'n' := by
    rintro rfl
    exact absurd digit (by decide)
  simp [Text.startsApart, Text.startsWith, written, List.isPrefixOf, other, other.symm]

/-- The parameter with the given precision and scale. -/
def withHints (parameter : WrapperParameter) (hints : Option Nat × Option Nat) : WrapperParameter :=
  { parameter with precision := hints.1, scale := hints.2 }

/-- The call for an output parameter shows whether it has a precision. -/
theorem isSome_of_binding {parameter : WrapperParameter} (output : parameter.isOutput = true)
    {left right : Option Nat × Option Nat}
    (same : (parameter.withHints left).binding = (parameter.withHints right).binding) :
    left.1.isSome = right.1.isSome := by
  have written (hints : Option Nat × Option Nat) : (parameter.withHints hints).binding =
      .declare parameter.handle ("AddParameterOut(" ++ commandLocal ++ ", " ++
        Literal.plain ("@" ++ parameter.name) ++ ", DbType." ++ parameter.parameterType.name ++
        ", DBNull.Value, " ++ (hint hints.1 ++ (", " ++ hint hints.2 ++ ", " ++
          hint parameter.size ++ ")"))) := by
    simp [binding, withHints, output, ← String.toList_inj, handle]
  rw [written, written] at same
  have texts := (String.append_right_inj _).mp (BodyStatement.declare.inj same).2
  obtain ⟨left, leftScale⟩ := left
  obtain ⟨right, rightScale⟩ := right
  cases left with
  | none =>
      cases right with
      | none => rfl
      | some number =>
          exact absurd texts.symm (Text.append_ne_append (startsApart_repr_null number) _ _)
  | some number =>
      cases right with
      | none => exact absurd texts (Text.append_ne_append (startsApart_repr_null number) _ _)
      | some _ => rfl

/-- The call for an input parameter has no hints. -/
theorem binding_withHints_of_input {parameter : WrapperParameter}
    (input : parameter.isOutput = false) (hints : Option Nat × Option Nat) :
    (parameter.withHints hints).binding = parameter.binding := by
  simp [binding, withHints, input]

end WrapperParameter

namespace Parameter

open WrapperParameter (ofParameter ofParameter_eq typed)

/-- The precision and the scale that are bound for a parameter. -/
def hints (info : ParameterInfo) (parameter : Parameter) : Option Nat × Option Nat :=
  if isHinted info parameter then (some parameter.precision, some parameter.scale) else (none, none)

/-- There is a precision hint exactly for a hinted parameter. -/
theorem isSome_hints (info : ParameterInfo) (parameter : Parameter) :
    (hints info parameter).1.isSome = isHinted info parameter := by
  unfold hints
  cases isHinted info parameter <;> rfl

/-- A parameter that is not hinted has neither precision nor scale. -/
theorem hints_of_unhinted {info : ParameterInfo} {parameter : Parameter}
    (unhinted : isHinted info parameter = false) : hints info parameter = (none, none) := by
  rw [hints, unhinted, if_neg Bool.false_ne_true]

/-- The hints of a wrapper are those of the catalog entry it was read from. -/
theorem hints_typed {info : ParameterInfo} {parameter : Parameter}
    (read : ofInfo info = .ok (some parameter)) (types : TypeMap) :
    ((typed types parameter).precision, (typed types parameter).scale) =
      hints info parameter := by
  unfold typed WrapperParameter.ofType hints
  rw [bindsPrecision_of_ofInfo read]
  cases isHinted info parameter <;> rfl

/-- What is generated for two parameters that are described alike but for the spelling of their
types, and for which methods have the given parameters. -/
structure SpellingsCompared (left right : ParameterInfo) (first second : Parameter)
    (made remade : WrapperParameter) : Prop where
  described : second = { first with sqlType := second.sqlType }
  hinted : (made.precision, made.scale) = hints left first
  /-- The hints apart, the same is generated for both in a wrapper. -/
  wrapped : remade = made.withHints (hints right second)
  /-- Letter case does not matter at all, and white space does not if both have some or none has. -/
  same : isPadded left.sqlType = isPadded right.sqlType →
    made = remade ∧ sampleArgument first = sampleArgument second
  /-- White space around one of them matters to the call for an output parameter that would have
  hints. -/
  bindings : made.binding = remade.binding ↔
    isPadded left.sqlType = isPadded right.sqlType ∨
      ¬ (first.isOutput = true ∧ first.parameterType = .decimal ∧ 0 < first.precision)
  /-- It matters to a sample in which an input parameter would have another argument than null. -/
  arguments : sampleArgument first = sampleArgument second ↔
    isPadded left.sqlType = isPadded right.sqlType ∨ first.isOutput = true ∨
      placeholder (lower (trim left.sqlType)) = "null"

section Alike

variable {left right : ParameterInfo} {first second : Parameter} (alike : SpelledAlike left right)
  (readLeft : ofInfo left = .ok (some first)) (readRight : ofInfo right = .ok (some second))

include alike readLeft readRight

/-- The class of the parameter and everything else but the text of its type are the same. -/
theorem eq_of_spelledAlike : lower (trim left.sqlType) = lower (trim right.sqlType) ∧
    second = { first with sqlType := second.sqlType } := by
  obtain ⟨-, leftType, leftKnown, firstEq⟩ := eq_of_ofInfo readLeft
  obtain ⟨-, rightType, rightKnown, secondEq⟩ := eq_of_ofInfo readRight
  obtain ⟨sameName, sameType⟩ := ParameterType.lower_trim_eq alike.types leftKnown rightKnown
  refine ⟨sameName, ?_⟩
  rw [secondEq, firstEq, alike.others, sameType]
  rfl

/-- Of two entries spelled alike, the second is hinted when the parameter is a decimal with a
precision and its name is not padded. -/
theorem isHinted_of_spelledAlike : isHinted right second =
    (first.parameterType == .decimal && 0 < first.precision && !isPadded right.sqlType) := by
  rw [(eq_of_spelledAlike alike readLeft readRight).2]
  rfl

/-- Entries padded alike give the same hints. -/
theorem hints_of_spelledAlike (padded : isPadded left.sqlType = isPadded right.sqlType) :
    hints right second = hints left first := by
  have hinted := isHinted_of_spelledAlike alike readLeft readRight
  rw [← padded] at hinted
  rw [hints, hinted, (eq_of_spelledAlike alike readLeft readRight).2]
  rfl

/-- The wrappers of two entries spelled alike differ at most in their hints. -/
theorem typed_of_spelledAlike (types : TypeMap) :
    typed types second = (typed types first).withHints (hints right second) := by
  rw [← hints_typed readRight types, (eq_of_spelledAlike alike readLeft readRight).2]
  rfl

/-- The sample arguments of entries spelled alike agree exactly when the names are padded alike or
neither gives a placeholder. -/
theorem sampleArgument_eq_iff : sampleArgument first = sampleArgument second ↔
    isPadded left.sqlType = isPadded right.sqlType ∨ first.isOutput = true ∨
      placeholder (lower (trim left.sqlType)) = "null" := by
  obtain ⟨sameName, described⟩ := eq_of_spelledAlike alike readLeft readRight
  have output : second.isOutput = first.isOutput := by
    rw [described]
    rfl
  rw [sampleArgument_of_ofInfo readLeft, sampleArgument_of_ofInfo readRight, output, ← sameName]
  cases first.isOutput <;> cases isPadded left.sqlType <;> cases isPadded right.sqlType <;>
    simp [eq_comm]

/-- The bindings agree exactly when the names are padded alike or no precision is bound. -/
theorem binding_eq_iff (types : TypeMap) :
    (typed types first).binding = (typed types second).binding ↔
      isPadded left.sqlType = isPadded right.sqlType ∨
        ¬ (first.isOutput = true ∧ first.parameterType = .decimal ∧ 0 < first.precision) := by
  have own : (typed types first).binding =
      ((typed types first).withHints (hints left first)).binding := by
    rw [← hints_typed readLeft types]
    rfl
  rw [typed_of_spelledAlike alike readLeft readRight types]
  generalize wrapper : typed types first = declared at own
  have direction : declared.isOutput = first.isOutput := by
    rw [← wrapper]
    rfl
  rw [own]
  have hinted := isHinted_of_spelledAlike alike readLeft readRight
  constructor
  · intro same
    rw [or_iff_not_imp_right, not_not]
    rintro ⟨output, decimal, positive⟩
    -- The text of an output's binding shows whether it has hints, so equal bindings have both.
    have shown := WrapperParameter.isSome_of_binding (direction.trans output) same
    rw [isSome_hints, isSome_hints, hinted, isHinted, decimal] at shown
    simpa [positive] using shown
  · rintro (padded | plain)
    · rw [hints_of_spelledAlike alike readLeft readRight padded]
    cases output : first.isOutput with
    | false => simp only [WrapperParameter.binding_withHints_of_input (direction.trans output)]
    | true =>
        have neither : (first.parameterType == .decimal && 0 < first.precision) = false := by
          simpa [output] using plain
        rw [hints_of_unhinted (by rw [isHinted, neither, Bool.false_and]),
          hints_of_unhinted (by rw [hinted, neither, Bool.false_and])]

/-- Both parameters have their methods' parameters. A parameter whose type is spelled in other
letters is generated like the other one, and so is one whose type has white space around it, except
for its hints and for its argument in a sample. -/
theorem generated_of_spelledAlike (types : TypeMap) (procedure : String) :
    ∃ made remade, ofParameter types procedure first = .ok made ∧
      ofParameter types procedure second = .ok remade ∧
      SpellingsCompared left right first second made remade := by
  refine ⟨_, _, ofParameter_eq types procedure first, ofParameter_eq types procedure second, ?_⟩
  constructor
  case described => exact (eq_of_spelledAlike alike readLeft readRight).2
  case hinted => exact hints_typed readLeft types
  case wrapped => exact typed_of_spelledAlike alike readLeft readRight types
  case same =>
    intro padded
    refine ⟨?_, (sampleArgument_eq_iff alike readLeft readRight).mpr (.inl padded)⟩
    rw [typed_of_spelledAlike alike readLeft readRight types,
      hints_of_spelledAlike alike readLeft readRight padded, ← hints_typed readLeft types]
    rfl
  case bindings => exact binding_eq_iff alike readLeft readRight types
  case arguments => exact sampleArgument_eq_iff alike readLeft readRight

end Alike

/-- A decimal that comes back from a procedure, with its type in other letters. -/
theorem generated_of_spelledAlike_decimal :
    let left : ParameterInfo :=
      { name := "@total", sqlType := "decimal", direction := .output, precision := 10, scale := 2 }
    let right : ParameterInfo := { left with sqlType := " Decimal" }
    let read (text : String) : Parameter := ⟨"total", "total", .output, .decimal, text, 10, 2, 0⟩
    SpelledAlike left right ∧ ofInfo left = .ok (some (read "decimal")) ∧
      ofInfo right = .ok (some (read " decimal")) ∧
      ∃ made remade, ofParameter .sqlServer "order" (read "decimal") = .ok made ∧
        ofParameter .sqlServer "order" (read " decimal") = .ok remade ∧
        SpellingsCompared left right (read "decimal") (read " decimal") made remade := by
  intro left right read
  have alike : SpelledAlike left right := ⟨rfl, by decide +kernel⟩
  have readLeft : ofInfo left = .ok (some (read "decimal")) := by decide +kernel
  have readRight : ofInfo right = .ok (some (read " decimal")) := by decide +kernel
  exact ⟨alike, readLeft, readRight,
    generated_of_spelledAlike alike readLeft readRight .sqlServer "order"⟩

/-- White space in front of a type is not passed over everywhere: an output parameter loses its
hints, and an input parameter its argument. -/
theorem spelledAlike_differ :
    ¬ (∀ left right first second procedure made remade, SpelledAlike left right →
        ofInfo left = .ok (some first) → ofInfo right = .ok (some second) →
        ofParameter .sqlServer procedure first = .ok made →
        ofParameter .sqlServer procedure second = .ok remade →
        made.binding.heading = remade.binding.heading) ∧
      ¬ ∀ left right first second, SpelledAlike left right → ofInfo left = .ok (some first) →
        ofInfo right = .ok (some second) → sampleArgument first = sampleArgument second := by
  constructor
  · intro claimed
    have same := claimed
      { name := "@x", sqlType := "decimal", direction := .output, precision := 10 }
      { name := "@x", sqlType := " decimal", direction := .output, precision := 10 } _ _ "p" _ _
      ⟨rfl, by decide⟩ rfl rfl (ofParameter_eq _ _ _) (ofParameter_eq _ _ _)
    exact absurd same (by decide)
  · intro claimed
    have same := claimed { name := "@x", sqlType := "int" } { name := "@x", sqlType := " int" } _ _
      ⟨rfl, by decide⟩ rfl rfl
    exact absurd same (by decide)

end Parameter

end DataLayer
