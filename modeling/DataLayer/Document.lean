/-! Structured documents, independent of the notation they are written in. A notation says how its
values are taken as texts, flags, numbers, lists and records; readers of domain types build on
that alone. A notation may let a value refer to another one; reading a document follows a bounded
number of such references, so a small document cannot denote a huge value. -/

namespace DataLayer

/-- Why a document is no value of the wanted type. -/
inductive DocumentFault where
  | expected (what : String)
  | outOfRange
  | tooManyReferences
  | missingField (name : String)
  | unknownField (name : String)
  | repeatedField (name : String)
deriving DecidableEq, Repr

/-- The text shown for a fault. -/
def DocumentFault.message : DocumentFault → String
  | expected what => "expected " ++ what
  | outOfRange => "number out of range"
  | tooManyReferences => "too many references followed"
  | missingField name => "missing field '" ++ name ++ "'"
  | unknownField name => "unknown field '" ++ name ++ "'"
  | repeatedField name => "repeated field '" ++ name ++ "'"

/-- Reading a part of a document. The state is the number of references that may still be
followed. -/
abbrev Decoding : Type → Type := StateT Nat (Except DocumentFault)

/-- Follows a reference. -/
def Decoding.followReference : Decoding Unit := do
  match ← get with
  | 0 => throw .tooManyReferences
  | left + 1 => set left

/-- What is read when at most the given number of references is followed. -/
def Decoding.within {α : Type} (references : Nat) (decoding : Decoding α) :
    Except DocumentFault α :=
  decoding.run' references

/-- A notation whose values have type `δ`. -/
class Document (δ : Type) where
  text : δ → Decoding String
  flag : δ → Decoding Bool
  integer : δ → Decoding Int
  natural : δ → Decoding Nat
  items : δ → Decoding (List δ)
  /-- The fields of a record in order, repeated ones included. A notation may leave out the names
  and list the values of the known fields in their order. -/
  fields : (known : List String) → δ → Decoding (List (String × δ))
  /-- The name of an alternative. -/
  alternative : δ → Decoding String
  /-- The value of an optional field, which may say that there is none. -/
  optional : δ → Decoding (Option δ)

namespace Document

variable {δ : Type} [Document δ]

/-- An integer within closed bounds. -/
def integerWithin (low high : Int) (value : δ) : Decoding Int := do
  let number ← integer value
  if low ≤ number ∧ number ≤ high then pure number else throw .outOfRange

/-- A natural number up to a bound. -/
def naturalUpTo (high : Nat) (value : δ) : Decoding Nat := do
  let number ← natural value
  if number ≤ high then pure number else throw .outOfRange

/-- A signed number of 32 bits. -/
def int32 (value : δ) : Decoding Int :=
  integerWithin (-2147483648) 2147483647 value

/-- An unsigned number of 8 bits. -/
def byte (value : δ) : Decoding Nat := naturalUpTo 255 value

/-- An unsigned number of 64 bits. -/
def word64 (value : δ) : Decoding Nat := naturalUpTo 18446744073709551615 value

/-- A list whose items are read alike. -/
def listOf {α : Type} (read : δ → Decoding α) (value : δ) :
    Decoding (List α) := do
  (← items value).mapM read

/-- A value that may be absent. -/
def optionOf {α : Type} (read : δ → Decoding α) (value : δ) :
    Decoding (Option α) := do
  match ← optional value with
  | none => pure none
  | some present => some <$> read present

/-- An alternative out of a list of names. -/
def oneOf {α : Type} (ofName? : String → Option α) (value : δ) : Decoding α := do
  match ofName? (← alternative value) with
  | some known => pure known
  | none => throw (.expected "a known name")

/-- The known fields of a record. None of them may be repeated; other fields are refused in a
closed record and passed over in an open one. -/
def knownFields (known : List String) (closed : Bool) :
    List (String × δ) → Decoding (List (String × δ))
  | [] => pure []
  | field :: rest => do
    let others ← knownFields known closed rest
    if known.contains field.1 then
      if others.any (·.1 == field.1) then throw (.repeatedField field.1)
      else pure (field :: others)
    else if closed then throw (.unknownField field.1)
    else pure others

/-- The known fields of a record that may hold others. -/
def openRecord (known : List String) (value : δ) : Decoding (List (String × δ)) := do
  knownFields known false (← fields known value)

/-- The fields of a record that may hold no others than the known ones. -/
def closedRecord (known : List String) (value : δ) : Decoding (List (String × δ)) := do
  knownFields known true (← fields known value)

/-- A field that must be there. -/
def required {α : Type} (record : List (String × δ)) (name : String)
    (read : δ → Decoding α) : Decoding α :=
  match record.lookup name with
  | some value => read value
  | none => throw (.missingField name)

/-- A field with a value for its absence. -/
def withDefault {α : Type} (record : List (String × δ)) (name : String)
    (read : δ → Decoding α) (absent : α) : Decoding α :=
  match record.lookup name with
  | some value => read value
  | none => pure absent

end Document

end DataLayer
