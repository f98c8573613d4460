import DataLayer.Text.Numeral
import DataLayer.Yaml.Cursor
import DataLayer.Yaml.Fault

/-! Reading scalars: plain ones, quoted ones and block scalars. Line breaks inside a scalar are
folded: a single one becomes a blank, and of several the first is dropped. -/

namespace DataLayer.Yaml

/-- How a scalar was written. -/
inductive ScalarStyle where
  | plain
  | quoted
  | literal
  | folded
deriving DecidableEq, Repr

/-- Blanks and line breaks between two words of a scalar. -/
structure Gap where
  /-- Blanks before the first line break. -/
  blanks : List Char := []
  /-- Whether the gap holds a line break. -/
  broken : Bool := false
  firstBreak : List Char := []
  laterBreaks : List Char := []

/-- The characters that a gap contributes to the scalar. -/
def Gap.folded (gap : Gap) : List Char :=
  if gap.broken then
    if gap.firstBreak = ['\n'] then
      if gap.laterBreaks = [] then [' '] else gap.laterBreaks
    else gap.firstBreak ++ gap.laterBreaks
  else gap.blanks

/-- Reads a gap. With a least indentation, a tab before it on a continued line is a fault. -/
def readGap (indentation : Option Int) :
    (steps : Nat) → Gap → Cursor → Except Fault (Taken Gap)
  | 0, gap, cursor => .ok (gap, cursor)
  | steps + 1, gap, cursor =>
    match cursor.peek with
    | none => .ok (gap, cursor)
    | some c =>
      if isSpace c then
        if gap.broken && c == '\t' &&
            indentation.any (fun least => Int.ofNat cursor.column < least) then
          .error .tabIndentation
        else if gap.broken then readGap indentation steps gap cursor.skip
        else readGap indentation steps { gap with blanks := gap.blanks ++ [c] } cursor.skip
      else if isBreak c then
        let (taken, after) := cursor.takeBreak
        if gap.broken then
          readGap indentation steps { gap with laterBreaks := gap.laterBreaks ++ taken } after
        else readGap indentation steps { gap with broken := true, firstBreak := taken } after
      else .ok (gap, cursor)

/-! ### Plain scalars -/

/-- Whether a character separates or encloses the items of a flow collection. -/
def isFlowIndicator (c : Char) : Bool :=
  c == ',' || c == '[' || c == ']' || c == '\x7b' || c == '\x7d'

/-- The next word of a plain scalar. A colon before a blank ends it, and inside a flow collection
the indicators of one do; there a colon right before an indicator is a fault. -/
def plainWord (inFlow : Bool) : List Char → Except Fault (List Char)
  | [] => .ok []
  | c :: rest =>
    if isSpace c || isBreak c then .ok []
    else if inFlow && c == ':' && rest.head?.any (fun next => isFlowIndicator next || next == '?')
    then .error .colonInPlainScalar
    else if (c == ':' && endsWord rest.head?) || (inFlow && isFlowIndicator c) then .ok []
    else do
      let word ← plainWord inFlow rest
      pure (c :: word)

/-- Reads words and gaps of a plain scalar in turn. The answer also says whether a line was begun
since the last word. -/
def plainWords (inFlow : Bool) (indentation : Int) :
    (steps : Nat) → (content : List Char) → Gap → Cursor → Except Fault (Taken (List Char × Bool))
  | 0, content, gap, cursor => .ok ((content, gap.broken), cursor)
  | steps + 1, content, gap, cursor => do
    if cursor.seesDocumentMark || cursor.sees '#' then
      pure ((content, gap.broken), cursor)
    else
      let word ← plainWord inFlow cursor.rest
      let after := cursor.advance word.length
      let longer := if word = [] then content else content ++ gap.folded ++ word
      let broken := gap.broken && word.isEmpty
      if after.seesAny (fun c => isSpace c || isBreak c) then
        let (next, beyond) ← readGap (some indentation) after.rest.length {} after
        if !inFlow && beyond.column < indentation then
          pure ((longer, next.broken), beyond)
        else
          plainWords inFlow indentation steps longer next beyond
      else
        pure ((longer, broken), after)

/-- Reads a plain scalar inside blocks of the given indentation. -/
def readPlain (inFlow : Bool) (parent : Int) (cursor : Cursor) :
    Except Fault (Taken (List Char × Bool)) :=
  plainWords inFlow (parent + 1) cursor.rest.length [] {} cursor

/-! ### Quoted scalars -/

/-- Escapes of one character after the backslash. -/
def simpleEscapes : List (Char × Char) :=
  [('0', '\x00'), ('a', '\x07'), ('b', '\x08'), ('t', '\t'), ('\t', '\t'), ('n', '\n'),
   ('v', '\x0b'), ('f', '\x0c'), ('r', '\r'), ('e', '\x1b'), (' ', ' '), ('"', '"'), ('/', '/'),
   ('\\', '\\'), ('N', '\x85'), ('_', '\xa0'), ('L', '\u2028'), ('P', '\u2029')]

/-- Escapes that name a code point by some hexadecimal digits. -/
def numericEscapes : List (Char × Nat) := [('x', 2), ('u', 4), ('U', 8)]

/-- Reads an escape, with the cursor on the character after the backslash. -/
def readEscape (cursor : Cursor) : Except Fault (Taken Char) :=
  match cursor.peek with
  | none => .error .unknownEscape
  | some c =>
    match simpleEscapes.lookup c, numericEscapes.lookup c with
    | some meant, _ => .ok (meant, cursor.skip)
    | none, some count =>
      let digits := (cursor.rest.drop 1).take count
      match Text.numeral? 16 digits with
      | none => .error .escapeDigits
      | some code =>
        if digits.length < count then .error .escapeDigits
        else if code.isValidChar then .ok (Char.ofNat code, cursor.advance (count + 1))
        else .error .escapeCode
    | none, none => .error .unknownEscape

/-- The quote that encloses a scalar. -/
def quoteOf (single : Bool) : Char := if single then '\'' else '"'

/-- Reads characters of a quoted scalar up to the next blank, break or closing quote. In a
double-quoted scalar an escaped line break ends the word too, and the answer says so. -/
def quotedWord (single : Bool) :
    (steps : Nat) → (content : List Char) → Cursor → Except Fault (Taken (List Char × Bool))
  | 0, content, cursor => .ok ((content, false), cursor)
  | steps + 1, content, cursor =>
    match cursor.peek with
    | none => .ok ((content, false), cursor)
    | some c =>
      if isSpace c || isBreak c then .ok ((content, false), cursor)
      else if single && c == '\'' && cursor.peekAt 1 == some '\'' then
        quotedWord single steps (content ++ ['\'']) (cursor.advance 2)
      else if c == quoteOf single then .ok ((content, false), cursor)
      else if !single && c == '\\' && (cursor.peekAt 1).any isBreak then
        .ok ((content, true), cursor.skip.skipBreak)
      else if !single && c == '\\' then do
        let (meant, after) ← readEscape cursor.skip
        quotedWord single steps (content ++ [meant]) after
      else quotedWord single steps (content ++ [c]) cursor.skip

/-- Reads words and gaps of a quoted scalar in turn up to the closing quote. -/
def quotedWords (single : Bool) :
    (steps : Nat) → (content : List Char) → Cursor → Except Fault (Taken (List Char))
  | 0, _, _ => .error .endInScalar
  | steps + 1, content, cursor => do
    if cursor.seesDocumentMark then throw .documentMarkInScalar
    if cursor.peek.isNone then throw .endInScalar
    let ((word, broken), after) ← quotedWord single cursor.rest.length [] cursor
    if after.sees (quoteOf single) then
      pure (content ++ word, after.skip)
    else
      let (gap, beyond) ← readGap none after.rest.length { broken := broken } after
      quotedWords single steps (content ++ word ++ gap.folded) beyond

/-- Reads a quoted scalar, with the cursor on the opening quote. -/
def readQuoted (single : Bool) (cursor : Cursor) : Except Fault (Taken (List Char)) :=
  quotedWords single cursor.rest.length [] cursor.skip

/-! ### Block scalars -/

/-- What happens to the line breaks at the end of a block scalar. -/
inductive Chomping where
  | strip
  | clip
  | keep
deriving DecidableEq, Repr

/-- Reads a chomping indicator. -/
def readChomping (cursor : Cursor) : Option (Chomping × Cursor) :=
  if cursor.sees '+' then some (.keep, cursor.skip)
  else if cursor.sees '-' then some (.strip, cursor.skip)
  else none

/-- Reads an indentation indicator; 0 stands for none. -/
def readIncrement (cursor : Cursor) : Except Fault (Taken Nat) :=
  match cursor.peek with
  | some c =>
    if c == '0' then .error .zeroIndentation
    else if Text.isAsciiDigit c then .ok (c.toNat - '0'.toNat, cursor.skip)
    else .ok (0, cursor)
  | none => .ok (0, cursor)

/-- Reads the two indicators of a block scalar in either order. -/
def readIndicators (cursor : Cursor) : Except Fault (Taken (Chomping × Nat)) :=
  match readChomping cursor with
  | some (chomping, after) => do
    let (increment, beyond) ← readIncrement after
    pure ((chomping, increment), beyond)
  | none => do
    let (increment, after) ← readIncrement cursor
    match readChomping after with
    | some (chomping, beyond) =>
      if increment = 0 then pure ((.clip, 0), cursor) else pure ((chomping, increment), beyond)
    | none => pure ((.clip, increment), after)

/-- Reads the line breaks before the next line with content and the indentation of that line. As
long as the indentation is unknown, which 0 stands for, the widest line counts. -/
def readBlockBreaks (indentation : Nat) :
    (steps : Nat) → (widest : Nat) → (breaks : List Char) → Cursor →
      Except Fault (Taken (Nat × List Char))
  | 0, widest, breaks, cursor => .ok ((widest, breaks), cursor)
  | steps + 1, widest, breaks, cursor => do
    let room :=
      if indentation = 0 then cursor.rest.length else indentation - cursor.column
    let after := cursor.advance ((cursor.rest.take room).takeWhile (· == ' ')).length
    let wider := max widest after.column
    if (indentation = 0 || after.column < indentation) && after.sees '\t' then
      throw .tabIndentation
    else if after.seesAny isBreak then
      let (taken, beyond) := after.takeBreak
      readBlockBreaks indentation steps wider (breaks ++ taken) beyond
    else
      pure ((wider, breaks), after)

/-- The state of reading the lines of a block scalar. -/
structure BlockLines where
  content : List Char := []
  /-- The break at the end of the last line. -/
  lastBreak : List Char := []
  /-- The breaks of the empty lines after it. -/
  emptyLines : List Char := []
  /-- Whether the last line began with a blank. -/
  indented : Bool := false

/-- The content with the breaks that stand before the next line. A folded scalar joins two lines
that do not begin with a blank. -/
def BlockLines.joined (lines : BlockLines) (literal nextIndented : Bool) : List Char :=
  if !literal && lines.lastBreak = ['\n'] && !lines.indented && !nextIndented then
    lines.content ++ (if lines.emptyLines = [] then [' '] else lines.emptyLines)
  else
    lines.content ++ lines.lastBreak ++ lines.emptyLines

/-- Reads the lines of a block scalar at its indentation. -/
def readBlockLines (literal : Bool) (indentation : Nat) :
    (steps : Nat) → BlockLines → Cursor → Except Fault (Taken BlockLines)
  | 0, lines, cursor => .ok (lines, cursor)
  | steps + 1, lines, cursor => do
    if cursor.column = indentation && cursor.peek.isSome then
      let indented := cursor.seesAny isSpace
      let (line, atEnd) := cursor.takeWhile fun c => !isBreak c
      let (lastBreak, next) := atEnd.takeBreak
      let ((_, emptyLines), beyond) ←
        readBlockBreaks indentation next.rest.length 0 [] next
      readBlockLines literal indentation steps
        { content := lines.joined literal indented ++ line
          lastBreak := lastBreak
          emptyLines := emptyLines
          indented := indented } beyond
    else
      pure (lines, cursor)

/-- Reads a block scalar inside blocks of the given indentation, with the cursor on its
indicator. -/
def readBlock (literal : Bool) (parent : Int) (cursor : Cursor) :
    Except Fault (Taken (List Char)) := do
  let ((chomping, increment), header) ← readIndicators cursor.skip
  let lineEnd := (header.skipWhile isSpace).skipComment
  if !endsLine lineEnd.peek then throw .blockScalarHeader
  let first := lineEnd.skipBreak
  let given := if increment = 0 then 0 else (max parent 0).toNat + increment
  let ((widest, breaks), start) ← readBlockBreaks given first.rest.length 0 [] first
  let indentation := if given = 0 then max widest (max (parent + 1) 1).toNat else given
  let (lines, after) ←
    readBlockLines literal indentation start.rest.length { emptyLines := breaks } start
  match chomping with
  | .strip => pure (lines.content, after)
  | .clip => pure (lines.content ++ lines.lastBreak, after)
  | .keep => pure (lines.content ++ lines.lastBreak ++ lines.emptyLines, after)

end DataLayer.Yaml
