import DataLayer.Yaml.TokenStream

/-! The tree that a document denotes. Anchors have numbers, and an alias means the node that was
last begun under its number. -/

namespace DataLayer.Yaml

/-- A node of a document. -/
inductive Node where
  | alias (slot : Nat)
  | scalar (slot : Option Nat) (tag : Option Tag) (style : ScalarStyle) (content : String)
  | sequence (slot : Option Nat) (items : List Node)
  | mapping (slot : Option Nat) (entries : List (Node × Node))
deriving Repr

namespace Node

/-- What stands where nothing is written. -/
def empty : Node := .scalar none none .plain ""

mutual

/-- The nodes with anchors in the order in which they begin, each with its number. -/
def anchored : Node → List (Nat × Node)
  | .alias _ => []
  | .scalar slot tag style content =>
    (slot.map fun number => (number, .scalar slot tag style content)).toList
  | .sequence slot items =>
    (slot.map fun number => (number, .sequence slot items)).toList ++ anchoredItems items
  | .mapping slot entries =>
    (slot.map fun number => (number, .mapping slot entries)).toList ++ anchoredEntries entries

/-- The nodes with anchors in a list of nodes. -/
def anchoredItems : List Node → List (Nat × Node)
  | [] => []
  | item :: rest => item.anchored ++ anchoredItems rest

/-- The nodes with anchors in the entries of a mapping. -/
def anchoredEntries : List (Node × Node) → List (Nat × Node)
  | [] => []
  | (key, value) :: rest => key.anchored ++ value.anchored ++ anchoredEntries rest

end

mutual

/-- The number of marks a node is written with: one for a leaf, and one at either end of a
collection. -/
def extent : Node → Nat
  | .alias _ | .scalar .. => 1
  | .sequence _ items => 2 + extentItems items
  | .mapping _ entries => 2 + extentEntries entries

/-- The number of marks in a list of nodes. -/
def extentItems : List Node → Nat
  | [] => 0
  | item :: rest => item.extent + extentItems rest

/-- The number of marks in the entries of a mapping. -/
def extentEntries : List (Node × Node) → Nat
  | [] => 0
  | (key, value) :: rest => key.extent + value.extent + extentEntries rest

end

end Node

/-! ### Building nodes from tokens -/

/-- What is known while nodes are built. -/
structure NodeState where
  tokens : List Token
  /-- The starts of tags that handles stand for. -/
  handles : List (String × Tag) := [("!", Tag.ofText "!"), ("!!", Tag.core "")]
  /-- The names of anchors with their latest numbers. -/
  anchors : List (String × Nat) := []

/-- Building something from tokens. -/
abbrev Building : Type → Type := StateT NodeState (Except Fault)

/-- Where a node stands. Only the key or value of a block mapping can be a sequence without an
indentation of its own, and flow collections hold no blocks. -/
inductive NodePlace where
  | inSequence
  | inMapping
  | inFlow
deriving DecidableEq, Repr

namespace Building

/-- The next token. -/
def peek : Building Token := do return (← get).tokens.headD .streamEnd

/-- Goes past the next token. -/
def skip : Building Unit := modify fun state => { state with tokens := state.tokens.tail }

/-- Goes past the next token if it is the given one, and says whether it was. -/
def skipIf (token : Token) : Building Bool := do
  if (← peek) = token then
    skip
    return true
  else
    return false

/-- Numbers an anchor: its number is how many names there were before. -/
def bindAnchor : Option String → Building (Option Nat)
  | none => return none
  | some name => do
    let state ← get
    let slot := state.anchors.length
    let others := state.anchors.filter fun anchor => anchor.1 != name
    set { state with anchors := (name, slot) :: others }
    return some slot

/-- The node that an alias stands for. -/
def aliasOf (name : String) : Building Node := do
  match (← get).anchors.lookup name with
  | some slot => return .alias slot
  | none => throw .unknownAnchor

/-- The tag that a handle and a suffix denote. -/
def resolveTag (handle : String) (suffix : Tag) : Building Tag := do
  if handle = "" then return suffix
  match (← get).handles.lookup handle with
  | some start => return start.append suffix
  | none => throw .tagHandleUndefined

/-- Reads a tag if one comes next. -/
def readTag? : Building (Option Tag) := do
  match ← peek with
  | .tag handle suffix =>
    skip
    return some (← resolveTag handle suffix)
  | _ => return none

/-- Reads an anchor if one comes next. -/
def readAnchor? : Building (Option String) := do
  match ← peek with
  | .anchor name =>
    skip
    return some name
  | _ => return none

/-- Reads an anchor and a tag, in either order, as far as they come next. -/
def readProperties : Building (Option String × Option Tag) := do
  match ← readAnchor? with
  | some anchor => return (some anchor, ← readTag?)
  | none =>
    match ← readTag? with
    | some tag => return (← readAnchor?, some tag)
    | none => return (none, none)

mutual

/-- Builds a node. -/
def readNode : (steps : Nat) → NodePlace → Building Node
  | 0, _ => throw .contentExpected
  | steps + 1, place => do
    match ← peek with
    | .alias name =>
      skip
      aliasOf name
    | _ =>
      let (anchor, tag) ← readProperties
      match ← peek, place with
      | .blockEntry, .inMapping =>
        let slot ← bindAnchor anchor
        return .sequence slot (← readIndentlessItems steps)
      | .scalar content style, _ =>
        skip
        return .scalar (← bindAnchor anchor) tag style content
      | .flowSequenceStart, _ =>
        skip
        let slot ← bindAnchor anchor
        return .sequence slot (← readFlowItems steps true)
      | .flowMappingStart, _ =>
        skip
        let slot ← bindAnchor anchor
        return .mapping slot (← readFlowEntries steps true)
      | .blockSequenceStart, .inSequence | .blockSequenceStart, .inMapping =>
        skip
        let slot ← bindAnchor anchor
        return .sequence slot (← readBlockItems steps)
      | .blockMappingStart, .inSequence | .blockMappingStart, .inMapping =>
        skip
        let slot ← bindAnchor anchor
        return .mapping slot (← readBlockEntries steps)
      | _, _ =>
        if anchor.isNone && tag.isNone then throw .contentExpected
        return .scalar (← bindAnchor anchor) tag .plain ""

/-- Builds a node, or the empty one if one of the given tokens comes next. -/
def readNodeUnless (stops : List Token) : (steps : Nat) → NodePlace → Building Node
  | 0, _ => throw .contentExpected
  | steps + 1, place => do
    if stops.contains (← peek) then return .empty
    readNode steps place

/-- Builds the items of a block sequence. -/
def readBlockItems : (steps : Nat) → Building (List Node)
  | 0 => throw .dashExpected
  | steps + 1 => do
    if ← skipIf .blockEntry then
      let item ← readNodeUnless [.blockEntry, .blockEnd] steps .inSequence
      return item :: (← readBlockItems steps)
    else if ← skipIf .blockEnd then return []
    else throw .dashExpected

/-- Builds the items of a block sequence without an indentation of its own. -/
def readIndentlessItems : (steps : Nat) → Building (List Node)
  | 0 => throw .dashExpected
  | steps + 1 => do
    if ← skipIf .blockEntry then
      let item ← readNodeUnless [.blockEntry, .key, .value, .blockEnd] steps .inSequence
      return item :: (← readIndentlessItems steps)
    else return []

/-- Builds the entries of a block mapping. -/
def readBlockEntries : (steps : Nat) → Building (List (Node × Node))
  | 0 => throw .keyExpected
  | steps + 1 => do
    if ← skipIf .key then
      let key ← readNodeUnless [.key, .value, .blockEnd] steps .inMapping
      let value ←
        if ← skipIf .value then readNodeUnless [.key, .value, .blockEnd] steps .inMapping
        else pure .empty
      return (key, value) :: (← readBlockEntries steps)
    else if ← skipIf .blockEnd then return []
    else throw .keyExpected

/-- Builds the rest of a flow sequence. An item with a key of its own is a mapping of one entry. -/
def readFlowItems : (steps : Nat) → (first : Bool) → Building (List Node)
  | 0, _ => throw .commaOrBracketExpected
  | steps + 1, first => do
    if ← skipIf .flowSequenceEnd then return []
    if !first then
      if !(← skipIf .flowEntry) then throw .commaOrBracketExpected
    if ← skipIf .flowSequenceEnd then return []
    let item ←
      if ← skipIf .key then readFlowPair steps
      else readNode steps .inFlow
    return item :: (← readFlowItems steps false)

/-- Builds a mapping of one entry in a flow sequence. A mark in the place of the key counts for the
empty key and is passed over. -/
def readFlowPair : (steps : Nat) → Building Node
  | 0 => throw .contentExpected
  | steps + 1 => do
    let key ←
      if [Token.value, .flowEntry, .flowSequenceEnd].contains (← peek) then
        skip
        pure .empty
      else readNode steps .inFlow
    let value ←
      if ← skipIf .value then
        readNodeUnless [.flowEntry, .flowSequenceEnd] steps .inFlow
      else pure .empty
    return .mapping none [(key, value)]

/-- Builds the rest of a flow mapping. -/
def readFlowEntries : (steps : Nat) → (first : Bool) → Building (List (Node × Node))
  | 0, _ => throw .commaOrBraceExpected
  | steps + 1, first => do
    if ← skipIf .flowMappingEnd then return []
    if !first then
      if !(← skipIf .flowEntry) then throw .commaOrBraceExpected
    if ← skipIf .flowMappingEnd then return []
    let entry ←
      if ← skipIf .key then
        let key ← readNodeUnless [.value, .flowEntry, .flowMappingEnd] steps .inFlow
        let value ←
          if ← skipIf .value then
            readNodeUnless [.flowEntry, .flowMappingEnd] steps .inFlow
          else pure .empty
        pure (key, value)
      else
        pure (← readNode steps .inFlow, .empty)
    return entry :: (← readFlowEntries steps false)

end

/-- Takes the directives in front of a document. -/
def readDirectives : (steps : Nat) → (versionSeen : Bool) → (declared : List (String × Tag)) →
    Building Unit
  | 0, _, _ => throw .documentStartExpected
  | steps + 1, versionSeen, declared => do
    match ← peek with
    | .versionDirective major minor =>
      if versionSeen then throw .directiveRepeated
      if major ≠ 1 ∨ (minor ≠ 1 ∧ minor ≠ 2) then throw .versionUnsupported
      skip
      readDirectives steps true declared
    | .tagDirective handle start =>
      if (declared.lookup handle).isSome then throw .directiveRepeated
      skip
      readDirectives steps versionSeen ((handle, start) :: declared)
    | _ => modify fun state => { state with handles := declared ++ state.handles }

/-- Whether a token can only stand outside the content of a document. -/
def isOutside : Token → Bool
  | .versionDirective .. | .tagDirective .. | .documentStart | .documentEnd | .streamEnd => true
  | _ => false

/-- Builds the content of the first document. Without a mark of its beginning there may be
none. -/
def readContent (steps : Nat) : Building Node := do
  match ← peek with
  | .streamEnd => return .empty
  | .versionDirective .. | .tagDirective .. | .documentStart =>
    readDirectives steps false []
    if !(← skipIf .documentStart) then throw .documentStartExpected
    if isOutside (← peek) then return .empty
    readNode steps .inSequence
  | _ => readNode steps .inSequence

/-- Goes past marks of the end of a document. -/
def skipDocumentEnds : (steps : Nat) → Building Unit
  | 0 => return
  | steps + 1 => do
    if ← skipIf .documentEnd then skipDocumentEnds steps

/-- Builds the only document of a stream. -/
def readDocument (steps : Nat) : Building Node := do
  let content ← readContent steps
  skipDocumentEnds steps
  if (← peek) ≠ .streamEnd then throw .severalDocuments
  return content

end Building

/-- The document that a text denotes. Between two tokens at most three functions are entered. -/
def Node.ofText (text : String) : Except Fault Node := do
  let tokens ← tokensOf text
  let (node, _) ← (Building.readDocument (3 * tokens.length + 3)).run { tokens := tokens }
  pure node

end DataLayer.Yaml
