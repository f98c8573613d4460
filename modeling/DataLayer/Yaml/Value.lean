import DataLayer.Document
import DataLayer.Yaml.Node

/-! The nodes of a YAML document as texts, flags, numbers, lists and records. A scalar is a text
however it is written. Flags and numbers are written plain, or as a literal block with the tag that
says so. An alias is a reference to the node it means. -/

namespace DataLayer.Yaml

/-- A node together with the nodes that the aliases of its document mean. -/
structure Value where
  node : Node
  /-- The nodes with anchors under their numbers. -/
  anchored : Array Node

namespace Value

/-- The nodes with anchors under their numbers. Of two nodes with one number the one that begins
later counts. -/
def nodesByNumber (anchored : List (Nat × Node)) : Array Node :=
  anchored.foldl (fun nodes entry => nodes.setIfInBounds entry.1 entry.2)
    (Array.replicate anchored.length Node.empty)

/-- The value that a text denotes. -/
def ofText (text : String) : Except Fault Value := do
  let node ← Node.ofText text
  pure { node := node, anchored := nodesByNumber node.anchored }

/-- The same document seen from another of its nodes. -/
def atNode (value : Value) (node : Node) : Value := { value with node := node }

/-- The node that is meant. -/
def target (value : Value) : Decoding Node :=
  match value.node with
  | .alias number => do
    Decoding.followReference
    pure (value.anchored[number]?.getD .empty)
  | node => pure node

/-- The text of a scalar that can be a flag or a number of the named kind. -/
def bareText? (kind : String) : Node → Option String
  | .scalar _ tag style content =>
    if style = .plain ∨ (style = .literal ∧ tag = some (Tag.core kind)) then some content else none
  | _ => none

/-- Whether a text means that nothing is there. -/
def isNull (content : String) : Bool := ["null", "Null", "NULL", "~"].contains content

/-- Whether a text is empty or means that nothing is there. -/
def isAbsent (content : String) : Bool := content == "" || isNull content

/-- The flag that a text denotes. -/
def flagOf? (content : String) : Option Bool :=
  if ["true", "True", "TRUE"].contains content then some true
  else if ["false", "False", "FALSE"].contains content then some false
  else none

/-! ### Numbers -/

/-- The natural number that characters without a sign denote. Decimal numbers have no leading
zeros. -/
def naturalOf? : List Char → Option Nat
  | '0' :: 'x' :: digits => Text.numeral? 16 digits
  | '0' :: 'o' :: digits => Text.numeral? 8 digits
  | '0' :: 'b' :: digits => Text.numeral? 2 digits
  | ['0'] => some 0
  | '0' :: _ => none
  | digits => Text.numeral? 10 digits

/-- The integer that characters with an optional sign denote. -/
def integerOf? : List Char → Option Int
  | '+' :: digits => (naturalOf? digits).map Int.ofNat
  | '-' :: digits => (naturalOf? digits).map fun number => -Int.ofNat number
  | digits => (naturalOf? digits).map Int.ofNat

/-- The natural number that characters with an optional plus sign denote. -/
def unsignedOf? : List Char → Option Nat
  | '+' :: digits => naturalOf? digits
  | digits => naturalOf? digits

/-! ### Values of a document -/

/-- The text of a scalar. -/
def text (value : Value) : Decoding String := do
  match ← value.target with
  | .scalar _ _ _ content => pure content
  | _ => throw (.expected "a text")

/-- What a bare scalar denotes. -/
def bare {α : Type} (value : Value) (kind what : String) (read : String → Option α) :
    Decoding α := do
  match (bareText? kind (← value.target)).bind read with
  | some meant => pure meant
  | none => throw (.expected what)

/-- Whether a node is a place where nothing is written. -/
def isBlank : Node → Bool
  | .scalar _ _ .plain content => content == ""
  | _ => false

/-- The items of a sequence; a place where nothing is written has none. -/
def items (value : Value) : Decoding (List Value) := do
  match ← value.target with
  | .sequence _ items => pure (items.map value.atNode)
  | node => if isBlank node then pure [] else throw (.expected "a list")

/-- The entries of a mapping under the texts of their keys; a place where nothing is written has
none. -/
def fields (value : Value) : Decoding (List (String × Value)) := do
  match ← value.target with
  | .mapping _ entries =>
    entries.mapM fun entry => do
      pure (← (value.atNode entry.1).text, value.atNode entry.2)
  | node => if isBlank node then pure [] else throw (.expected "a record")

/-- The name of an alternative is a text, or a tag of the document itself on a scalar that says
nothing more. -/
def alternative (value : Value) : Decoding String := do
  match ← value.target with
  | .scalar _ tag style content =>
    match tag.bind Tag.localName? with
    | some name =>
      if style = .plain ∧ isAbsent content then pure name
      else throw (.expected "nothing after the tag")
    | none => pure content
  | _ => throw (.expected "a name")

/-- The value of an option. Only plain scalars can say that there is none, and a tag for nothing
admits nothing else. -/
def optional (value : Value) : Decoding (Option Value) := do
  let node ← value.target
  let present := some (value.atNode node)
  match node with
  | .scalar _ tag .plain content =>
    match tag with
    | none => pure (if isAbsent content then none else present)
    | some tag =>
      if tag ≠ Tag.core "null" then pure present
      else if isNull content then pure none
      else throw (.expected "nothing")
  | _ => pure present

instance : Document Value where
  text := Value.text
  flag value := value.bare "bool" "a truth value" flagOf?
  integer value := value.bare "int" "an integer" fun content => integerOf? content.toList
  natural value := value.bare "int" "a natural number" fun content => unsignedOf? content.toList
  items := Value.items
  fields _ := Value.fields
  alternative := Value.alternative
  optional := Value.optional

/-- The number of aliases that may be followed for each mark of a document. -/
def aliasesPerMark : Nat := 100

/-- Reads a text as a document and the document as a domain value. -/
def readText {α : Type} (read : Value → Decoding α) (text : String) : Except String α := do
  let value ← (ofText text).mapError Fault.message
  ((read value).within (aliasesPerMark * value.node.extent)).mapError DocumentFault.message

end Value

end DataLayer.Yaml
