import DataLayer.Text.Edit

/-! Environment variables, and files that assign them. A statement `name=value` ends with its line,
unless a quote is still open there. Variables that are set already keep their values, and values
may mention variables. -/

namespace DataLayer

/-- The variables that are set, with their values. -/
structure Environment where
  bindings : List (String × String) := []
deriving DecidableEq, Repr

namespace Environment

/-- The value of a variable that is set. -/
def get? (environment : Environment) (name : String) : Option String :=
  environment.bindings.lookup name

/-- Sets a variable that is not set yet. -/
def setNew (environment : Environment) (name value : String) : Environment :=
  if (environment.get? name).isSome then environment
  else ⟨(name, value) :: environment.bindings⟩

/-! ### Statements -/

/-- What is open at a place of a line. -/
inductive LineState where
  | nothing
  /-- A blank has just been passed, so a comment may begin. -/
  | blank
  | escape
  | single
  | singleEscape
  | double
  | doubleEscape
deriving DecidableEq, Repr

/-- What is open after a character outside of quotes. -/
def LineState.outside (c : Char) : LineState :=
  if c = '\\' then .escape
  else if c = '"' then .double
  else if c = '\'' then .single
  else .nothing

/-- What is open after a character. A blank that follows another begins no comment. -/
def LineState.after (state : LineState) (c : Char) : LineState :=
  match state with
  | .nothing => if Text.isBlank c && c != '\n' && c != '\r' then .blank else outside c
  | .blank => outside c
  | .escape => .nothing
  | .single => if c = '\\' then .singleEscape else if c = '\'' then .nothing else .single
  | .singleEscape => .single
  | .double => if c = '\\' then .doubleEscape else if c = '"' then .nothing else .double
  | .doubleEscape => .double

/-- The part of a line before its comment, and what is open at its end. -/
def uncommented (state : LineState) : List Char → List Char × LineState
  | [] => ([], state)
  | c :: rest =>
    if state = .blank ∧ c = '#' then ([], .nothing)
    else
      let (kept, last) := uncommented (state.after c) rest
      (c :: kept, last)

/-- Cuts a text after every line break. -/
def linesOf : List Char → List (List Char)
  | [] => []
  | c :: rest =>
    if c = '\n' then [c] :: linesOf rest
    else
      match linesOf rest with
      | [] => [[c]]
      | line :: later => (c :: line) :: later

/-- The statements that some lines hold, after the beginning of one. Nothing may be open at the
end. -/
def statementsFrom (state : LineState) (begun : List Char) :
    List (List Char) → Option (List (List Char))
  | [] => if state = .nothing then some [] else none
  | line :: rest =>
    if begun = [] ∧ (line.dropWhile Text.isBlank).head? = some '#' then
      statementsFrom .nothing [] rest
    else
      let (kept, last) := uncommented state line
      if last = .nothing then do
        let later ← statementsFrom .nothing [] rest
        pure ((begun ++ kept) :: later)
      else
        statementsFrom last (begun ++ kept) rest

/-! ### Values -/

/-- How the next character of a value is read. Outside of single quotes it matters whether double
quotes are open. -/
inductive ValueState where
  | text (quoted : Bool)
  | escape (quoted : Bool)
  | single
  /-- After a dollar sign and the beginning of a name. -/
  | name (quoted : Bool) (name : List Char)
  /-- After a dollar sign, a brace and the beginning of a name. -/
  | braced (quoted : Bool) (name : List Char)
  /-- After the blank that ends the value. -/
  | ended
  | comment
deriving DecidableEq, Repr

/-- What an escaped character means. -/
def escapes : List (Char × Char) :=
  [('\\', '\\'), ('\'', '\''), ('"', '"'), ('$', '$'), (' ', ' '), ('n', '\n')]

/-- What a mention of a variable stands for. A mention is looked up among the assignments as they
are written, so `name=start` stands for the rest of a value that begins with `start=`. One that is
found nowhere is empty. -/
def mentioned (environment : Environment) (name : List Char) : List Char :=
  (environment.bindings.findSome? fun binding =>
    (name ++ ['=']).isPrefixOf? (binding.1.toList ++ '=' :: binding.2.toList)).getD []

/-- Reads a character of a value outside of single quotes and names. -/
def readPlainCharacter (quoted : Bool) (c : Char) : ValueState × List Char :=
  if c = '$' then (.name quoted [], [])
  else if c = '\\' then (.escape quoted, [])
  else if c = '"' then (.text (!quoted), [])
  else if quoted then (.text true, [c])
  else if c = '\'' then (.single, [])
  else if c = ' ' ∨ c = '\t' then (.ended, [])
  else (.text false, [c])

/-- Reads a character of a value; the answer holds what it adds to the value. The character that
ends a name stands for itself, also where it would otherwise be a quote. -/
def readCharacter (environment : Environment) (state : ValueState) (c : Char) :
    Option (ValueState × List Char) :=
  match state with
  | .text quoted => some (readPlainCharacter quoted c)
  | .escape quoted => (escapes.lookup c).map fun meant => (.text quoted, [meant])
  | .single => some (if c = '\'' then (.text false, []) else (.single, [c]))
  | .name quoted name =>
    if Text.isAlphanumeric c then some (.name quoted (name ++ [c]), [])
    else if c = '\x7b' ∧ name = [] then some (.braced quoted [], [])
    else if c = '$' then some (.name quoted [], environment.mentioned name)
    else some (.text quoted, environment.mentioned name ++ [c])
  | .braced quoted name =>
    if c = '\x7d' then some (.text quoted, environment.mentioned name)
    else some (.braced quoted (name ++ [c]), [])
  | .ended =>
    if c = ' ' ∨ c = '\t' then some (.ended, [])
    else if c = '#' then some (.comment, [])
    else none
  | .comment => some (.comment, [])

/-- What the end of a value adds to it. No quote and no brace may be open. -/
def endValue (environment : Environment) : ValueState → Option (List Char)
  | .text quoted | .escape quoted => if quoted then none else some []
  | .name quoted name => if quoted then none else some (environment.mentioned name)
  | .single | .braced _ _ => none
  | .ended | .comment => some []

/-- Reads a value. -/
def readValue (environment : Environment) (state : ValueState) :
    List Char → Option (List Char)
  | [] => environment.endValue state
  | c :: rest => do
    let (next, added) ← environment.readCharacter state c
    let later ← readValue environment next rest
    pure (added ++ later)

/-! ### Assignments -/

/-- Whether a name may begin with the character. -/
def startsName (c : Char) : Bool := Text.isAsciiLetter c || c == '_'

/-- Whether a name may go on with the character. -/
def continuesName (c : Char) : Bool := Text.isAsciiWord c || c == '.'

/-- Reads the name of a variable and goes past the blanks after it. -/
def readName (line : List Char) : Option (List Char × List Char) :=
  if line.head?.any startsName then
    some (line.takeWhile continuesName,
      (line.dropWhile continuesName).dropWhile Text.isBlank)
  else
    none

/-- Goes past an equals sign. -/
def readEquals : List Char → Option (List Char)
  | '=' :: rest => some rest
  | _ => none

/-- Reads the name of an assignment and its equals sign. The word `export` may stand in front. -/
def readTarget (line : List Char) : Option (List Char × List Char) := do
  let (name, rest) ← readName line
  if name = "export".toList ∧ (readEquals rest).isNone then
    let (exported, beyond) ← readName rest
    pure (exported, ← readEquals beyond)
  else
    pure (name, ← readEquals rest)

/-- Whether nothing but a comment is left of a line. -/
def isBare (line : List Char) : Bool := line.head?.all (· == '#')

/-- Carries out a statement. -/
def assign (environment : Environment) (statement : List Char) : Option Environment := do
  let line := (Text.trim (String.ofList statement)).toList
  if isBare line then
    pure environment
  else
    let (name, rest) ← readTarget line
    let written := rest.dropWhile Text.isBlank
    let value ← if isBare written then pure [] else environment.readValue (.text false) written
    pure (environment.setNew (String.ofList name) (String.ofList value))

/-- Carries out the statements of a file, which may begin with a byte order mark. -/
def assignAll (environment : Environment) (text : String) : Option Environment := do
  let characters := match text.toList with
    | '\ufeff' :: rest => rest
    | characters => characters
  let statements ← statementsFrom .nothing [] (linesOf characters)
  statements.foldlM assign environment

end Environment

end DataLayer
