import DataLayer.Yaml.Token

/-! Cutting the text of a YAML stream into tokens. Whether a scalar is a key shows only at the colon
after it, so the number of the token that a key may begin with is kept until then, and the marks of
the key and of its block are put in front of it. -/

namespace DataLayer.Yaml

/-- A place where a key without a mark of its own may have begun. -/
structure PossibleKey where
  /-- Number of the token that the key begins with. -/
  place : Nat
  start : Cursor
  /-- Whether nothing but a key can stand here. -/
  required : Bool

/-- The largest number of bytes between the beginning of a key and its colon. -/
def keyLimit : Nat := 1024

/-- Whether the colon can no longer follow: it must stand in the line of the key, and near it. -/
def PossibleKey.expired (key : PossibleKey) (here : Cursor) : Bool :=
  key.start.line < here.line || key.start.offset + keyLimit < here.offset

/-- What is known after some tokens. -/
structure TokenState where
  cursor : Cursor
  tokens : Array Token := #[]
  /-- Columns of the open blocks, the innermost first. -/
  blocks : List Nat := []
  /-- The possible key outside all flow collections or in the innermost one. -/
  possibleKey : Option PossibleKey := none
  /-- The possible keys around each open flow collection, the innermost first. -/
  outerKeys : List (Option PossibleKey) := []
  /-- Whether a key may begin here. -/
  keyAllowed : Bool := true

namespace TokenState

/-- Whether a flow collection is open. -/
def inFlow (state : TokenState) : Bool := !state.outerKeys.isEmpty

/-- The column of the innermost block, -1 outside of all blocks. -/
def indentation (state : TokenState) : Int :=
  match state.blocks with
  | [] => -1
  | column :: _ => column

/-- Adds a token. -/
def push (state : TokenState) (token : Token) : TokenState :=
  { state with tokens := state.tokens.push token }

/-- Adds a token and goes on behind it. -/
def pushTaken (state : TokenState) (taken : Taken Token) : TokenState :=
  { state.push taken.1 with cursor := taken.2 }

/-- Adds a token for some characters from here on. -/
def pushMark (state : TokenState) (token : Token) (length : Nat) : TokenState :=
  state.pushTaken (token, state.cursor.advance length)

/-- Gives up the possible key. -/
def dropKey (state : TokenState) : Except Fault TokenState :=
  if state.possibleKey.any (·.required) then .error .keyWithoutValue
  else .ok { state with possibleKey := none }

/-- Notes that a key may begin here. -/
def offerKey (state : TokenState) : Except Fault TokenState :=
  if state.keyAllowed then do
    let free ← state.dropKey
    pure
      { free with
        possibleKey := some
          { place := state.tokens.size
            start := state.cursor
            required := !state.inFlow && state.indentation == state.cursor.column } }
  else
    .ok state

/-- Gives up a key whose colon can no longer follow. -/
def expire (here : Cursor) (key : Option PossibleKey) : Except Fault (Option PossibleKey) :=
  match key with
  | none => .ok none
  | some key =>
    if !key.expired here then .ok (some key)
    else if key.required then .error .keyWithoutValue
    else .ok none

/-- Gives up all keys whose colon can no longer follow. -/
def expireKeys (state : TokenState) : Except Fault TokenState := do
  pure
    { state with
      possibleKey := ← expire state.cursor state.possibleKey
      outerKeys := ← state.outerKeys.mapM (expire state.cursor) }

/-- Closes the blocks that are indented further than the column. -/
def closeBlocks (state : TokenState) (column : Int) : TokenState :=
  if state.inFlow then state
  else
    let closed := state.blocks.takeWhile fun block => column < Int.ofNat block
    { state with
      tokens := state.tokens ++ Array.replicate closed.length Token.blockEnd
      blocks := state.blocks.drop closed.length }

/-- Opens a block at a column, unless one is open there. Its token takes the given place. -/
def openBlock (state : TokenState) (column place : Nat) (token : Token) : TokenState :=
  if !state.inFlow && state.indentation < column then
    { state with
      tokens := state.tokens.insertIdxIfInBounds place token
      blocks := column :: state.blocks }
  else
    state

/-- Opens a block here, unless one is open here. -/
def openBlockHere (state : TokenState) (token : Token) : TokenState :=
  state.openBlock state.cursor.column state.tokens.size token

/-- Goes over blanks, comments and line breaks. Tabs count as blanks only where no key may begin,
and in flow collections. A byte order mark may begin a line; it takes up a column. -/
def toNextToken : (steps : Nat) → TokenState → TokenState
  | 0, state => state
  | steps + 1, state =>
    let start :=
      if state.cursor.column = 0 && state.cursor.sees '\ufeff' then state.cursor.skip
      else state.cursor
    let lineEnd :=
      (start.skipWhile fun c => c == ' ' || (c == '\t' && (state.inFlow || !state.keyAllowed)))
        |>.skipComment
    if lineEnd.seesAny isBreak then
      toNextToken steps
        { state with
          cursor := lineEnd.skipBreak
          keyAllowed := state.keyAllowed || !state.inFlow }
    else
      { state with cursor := lineEnd }

/-- Ends all blocks in front of a directive or a document mark. -/
def leaveBlocks (state : TokenState) : Except Fault TokenState := do
  pure { ← (state.closeBlocks (-1)).dropKey with keyAllowed := false }

/-- Opens a flow collection. -/
def openFlow (state : TokenState) (token : Token) : Except Fault TokenState := do
  let outer ← state.offerKey
  pure
    { outer.pushMark token 1 with
      possibleKey := none
      outerKeys := outer.possibleKey :: outer.outerKeys
      keyAllowed := true }

/-- Closes a flow collection. -/
def closeFlow (state : TokenState) (token : Token) : Except Fault TokenState := do
  let inner ← state.dropKey
  pure
    { inner.pushMark token 1 with
      possibleKey := inner.outerKeys.headD none
      outerKeys := inner.outerKeys.tail
      keyAllowed := false }

/-- Separates two items of a flow collection. -/
def separateFlow (state : TokenState) : Except Fault TokenState := do
  pure { (← state.dropKey).pushMark .flowEntry 1 with keyAllowed := true }

/-- Begins an entry of a block sequence. -/
def beginEntry (state : TokenState) : Except Fault TokenState := do
  if !state.inFlow && !state.keyAllowed then throw .entryNotAllowed
  let entry ← (state.openBlockHere .blockSequenceStart).dropKey
  pure { entry.pushMark .blockEntry 1 with keyAllowed := true }

/-- Begins a key that has a mark of its own. -/
def beginKey (state : TokenState) : Except Fault TokenState := do
  if !state.inFlow && !state.keyAllowed then throw .keyNotAllowed
  let key ← (state.openBlockHere .blockMappingStart).dropKey
  pure { key.pushMark .key 1 with keyAllowed := !state.inFlow }

/-- Begins a value. What stood at the place of the possible key turns out to be its key. -/
def beginValue (state : TokenState) : Except Fault TokenState := do
  match state.possibleKey with
  | some key =>
    let keyed :=
      { state with
        tokens := state.tokens.insertIdxIfInBounds key.place .key
        possibleKey := none }
    let inBlock := keyed.openBlock key.start.column key.place .blockMappingStart
    pure { inBlock.pushMark .value 1 with keyAllowed := false }
  | none =>
    if !state.inFlow && !state.keyAllowed then throw .valueNotAllowed
    let inBlock := state.openBlockHere .blockMappingStart
    pure { inBlock.pushMark .value 1 with keyAllowed := !state.inFlow }

/-- Adds a token that may be the beginning of a key. -/
def pushContent (state : TokenState) (read : Cursor → Except Fault (Taken Token)) :
    Except Fault TokenState := do
  let offered ← state.offerKey
  pure { offered.pushTaken (← read state.cursor) with keyAllowed := false }

/-- Adds a plain scalar. A key may follow one that reaches to a later line. -/
def pushPlain (state : TokenState) : Except Fault TokenState := do
  let offered ← state.offerKey
  let ((content, lineBegun), after) ← readPlain state.inFlow state.indentation state.cursor
  pure
    { offered.pushTaken (.scalar (String.ofList content) .plain, after) with
      keyAllowed := lineBegun }

/-- Adds a quoted scalar. -/
def pushQuoted (state : TokenState) (single : Bool) : Except Fault TokenState :=
  state.pushContent fun cursor => do
    let (content, after) ← readQuoted single cursor
    pure (.scalar (String.ofList content) .quoted, after)

/-- Adds a block scalar. -/
def pushBlock (state : TokenState) (literal : Bool) : Except Fault TokenState := do
  let free ← state.dropKey
  let (content, after) ← readBlock literal state.indentation state.cursor
  let style := if literal then ScalarStyle.literal else .folded
  pure { free.pushTaken (.scalar (String.ofList content) style, after) with keyAllowed := true }

/-- Adds an anchor or an alias. -/
def pushName (state : TokenState) (token : String → Token) : Except Fault TokenState :=
  state.pushContent fun cursor => do
    let (name, after) ← readAnchorName cursor.skip
    pure (token name, after)

/-- Whether a plain scalar begins here. -/
def seesPlain (state : TokenState) (c : Char) : Bool :=
  let wordEnds := endsWord (state.cursor.peekAt 1)
  if c == '-' then !(state.cursor.peekAt 1).any isSpace
  else if c == '?' || c == ':' then !state.inFlow && !wordEnds
  else !isSpace c && !",[]\x7b\x7d#&*!|>'\"%@\x60".toList.contains c

/-- Adds the token that begins with the next character. -/
def pushNext (state : TokenState) (c : Char) : Except Fault TokenState :=
  let wordEnds := endsWord (state.cursor.peekAt 1)
  let atLineStart := state.cursor.column == 0
  if atLineStart && c == '%' then do
    pure ((← state.leaveBlocks).pushTaken (← readDirective state.cursor))
  else if state.cursor.seesMark '-' then do
    pure ((← state.leaveBlocks).pushMark .documentStart 3)
  else if state.cursor.seesMark '.' then do
    pure ((← state.leaveBlocks).pushMark .documentEnd 3)
  else if c == '[' then state.openFlow .flowSequenceStart
  else if c == '\x7b' then state.openFlow .flowMappingStart
  else if c == ']' then state.closeFlow .flowSequenceEnd
  else if c == '\x7d' then state.closeFlow .flowMappingEnd
  else if c == ',' then state.separateFlow
  else if c == '-' && wordEnds then state.beginEntry
  else if c == '?' && (state.inFlow || wordEnds) then state.beginKey
  else if c == ':' && (state.inFlow || wordEnds) then state.beginValue
  else if c == '*' then state.pushName .alias
  else if c == '&' then state.pushName .anchor
  else if c == '!' then state.pushContent (readTag state.inFlow)
  else if c == '|' && !state.inFlow then state.pushBlock true
  else if c == '>' && !state.inFlow then state.pushBlock false
  else if c == '\'' then state.pushQuoted true
  else if c == '"' then state.pushQuoted false
  else if state.seesPlain c then state.pushPlain
  else .error .strayCharacter

/-- Cuts off token after token up to the end of the text. -/
def pushAll : (steps : Nat) → TokenState → Except Fault TokenState
  | 0, _ => .error .strayCharacter
  | steps + 1, state => do
    let next ← (state.toNextToken (state.cursor.rest.length + 1)).expireKeys
    let ready := next.closeBlocks next.cursor.column
    match ready.cursor.peek with
    | none => pure ((← ready.leaveBlocks).push .streamEnd)
    | some c => pushAll steps (← ready.pushNext c)

end TokenState

/-- The tokens of a text. -/
def tokensOf (text : String) : Except Fault (List Token) :=
  let characters := text.toList
  if characters.all isPermitted then do
    let state : TokenState := { cursor := { rest := characters } }
    pure (← state.pushAll (characters.length + 1)).tokens.toList
  else
    .error .controlCharacter

end DataLayer.Yaml
