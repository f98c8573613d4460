import DataLayer.Text.Character

/-! A place in the text of a YAML stream, and the character classes that decide how it is cut into
tokens. -/

namespace DataLayer.Yaml

/-- Line breaks. -/
def isBreak (c : Char) : Bool :=
  c == '\n' || c == '\r' || c == '\x85' || c == '\u2028' || c == '\u2029'

/-- Blanks inside a line. -/
def isSpace (c : Char) : Bool := c == ' ' || c == '\t'

/-- Whether a line ends here: at a break or at the end of the text. -/
def endsLine : Option Char → Bool
  | none => true
  | some c => isBreak c

/-- Whether a word ends here: at a blank, at a break or at the end of the text. -/
def endsWord : Option Char → Bool
  | none => true
  | some c => isSpace c || isBreak c

/-- Characters of anchors, tag handles and directive names. -/
def isNameCharacter (c : Char) : Bool := Text.isAsciiWord c || c == '-'

/-- Characters that may stand in a stream. -/
def isPermitted (c : Char) : Bool :=
  Text.inRanges
    [(0x9, 0xA), (0xD, 0xD), (0x20, 0x7E), (0x85, 0x85), (0xA0, 0xD7FF), (0xE000, 0xFFFD),
     (0x10000, 0x10FFFF)] c.toNat

/-- The rest of the text and where it begins. -/
structure Cursor where
  rest : List Char
  /-- Number of bytes before this place, as the text is encoded in UTF-8. -/
  offset : Nat := 0
  line : Nat := 0
  column : Nat := 0
deriving DecidableEq, Repr

/-- Something read and the place after it. -/
abbrev Taken (α : Type) : Type := α × Cursor

namespace Cursor

/-- The next character. -/
def peek (cursor : Cursor) : Option Char := cursor.rest.head?

/-- The character some places further on. -/
def peekAt (cursor : Cursor) (distance : Nat) : Option Char := cursor.rest[distance]?

/-- Whether the next character is the given one. -/
def sees (cursor : Cursor) (c : Char) : Bool := cursor.peek == some c

/-- Whether the next character is of a class. -/
def seesAny (cursor : Cursor) (p : Char → Bool) : Bool := cursor.peek.any p

/-- The offset some characters further on. -/
def offsetAfter (cursor : Cursor) (distance : Nat) : Nat :=
  ((cursor.rest.take distance).map Char.utf8Size).foldl (· + ·) cursor.offset

/-- The place some characters further on in the same line. -/
def advance (cursor : Cursor) (distance : Nat) : Cursor :=
  { cursor with
    rest := cursor.rest.drop distance
    offset := cursor.offsetAfter distance
    column := cursor.column + distance }

/-- The place after the next character. -/
def skip (cursor : Cursor) : Cursor := cursor.advance 1

/-- The characters of a class from here on, and the place after them. -/
def takeWhile (cursor : Cursor) (p : Char → Bool) : Taken (List Char) :=
  let taken := cursor.rest.takeWhile p
  (taken, cursor.advance taken.length)

/-- The place after the characters of a class. -/
def skipWhile (cursor : Cursor) (p : Char → Bool) : Cursor := (cursor.takeWhile p).2

/-- The place after the comment that begins here, if one does. -/
def skipComment (cursor : Cursor) : Cursor :=
  if cursor.sees '#' then cursor.skipWhile (fun c => !isBreak c) else cursor

/-- The beginning of the next line. -/
def nextLine (cursor : Cursor) (breakLength : Nat) : Cursor :=
  { rest := cursor.rest.drop breakLength
    offset := cursor.offsetAfter breakLength
    line := cursor.line + 1
    column := 0 }

/-- The line break at this place as it counts in a scalar, and the place after it. Without a break
nothing is taken. -/
def takeBreak (cursor : Cursor) : Taken (List Char) :=
  match cursor.rest with
  | '\r' :: '\n' :: _ => (['\n'], cursor.nextLine 2)
  | c :: _ =>
    if c = '\u2028' ∨ c = '\u2029' then ([c], cursor.nextLine 1)
    else if isBreak c then (['\n'], cursor.nextLine 1)
    else ([], cursor)
  | [] => ([], cursor)

/-- The place after the line break at this place. -/
def skipBreak (cursor : Cursor) : Cursor := cursor.takeBreak.2

/-- Whether a mark of three equal characters stands here as a word at the beginning of a line. -/
def seesMark (cursor : Cursor) (c : Char) : Bool :=
  cursor.column == 0 && cursor.rest.take 3 == [c, c, c] && endsWord (cursor.peekAt 3)

/-- Whether a document begins or ends here. -/
def seesDocumentMark (cursor : Cursor) : Bool := cursor.seesMark '-' || cursor.seesMark '.'

end Cursor

end DataLayer.Yaml
