import DataLayer.Yaml.Scalar
import DataLayer.Yaml.Tag

/-! The tokens of a YAML stream, and the reading of those that are neither scalars nor marks:
anchors, tags and directives. -/

namespace DataLayer.Yaml

/-- A token. Blocks begin and end by indentation; their tokens stand for no characters. -/
inductive Token where
  | streamEnd
  | versionDirective (major minor : Nat)
  | tagDirective (handle : String) (start : Tag)
  | documentStart
  | documentEnd
  | blockSequenceStart
  | blockMappingStart
  | blockEnd
  | flowSequenceStart
  | flowSequenceEnd
  | flowMappingStart
  | flowMappingEnd
  | blockEntry
  | flowEntry
  | key
  | value
  | alias (name : String)
  | anchor (name : String)
  | tag (handle : String) (suffix : Tag)
  | scalar (content : String) (style : ScalarStyle)
deriving DecidableEq, Repr

/-! ### Anchors and aliases -/

/-- Whether the name of an anchor or alias may end before this place. -/
def endsAnchor (next : Option Char) : Bool :=
  endsWord next || next.any fun c => "?:,]\x7d%@\x60".toList.contains c

/-- Reads the name of an anchor or alias, with the cursor after its indicator. -/
def readAnchorName (cursor : Cursor) : Except Fault (Taken String) :=
  let (name, after) := cursor.takeWhile isNameCharacter
  if name ≠ [] ∧ endsAnchor after.peek then .ok (String.ofList name, after)
  else .error .anchorName

/-! ### Tags -/

/-- Reads a tag, with the cursor on its exclamation mark. A tag without a full handle belongs to
the handle of one mark, and a single mark is a tag by itself, without a handle. -/
def readTag (inFlow : Bool) (cursor : Cursor) : Except Fault (Taken Token) := do
  let ((handle, suffix), after) ← readParts
  if endsWord after.peek || (inFlow && after.sees ',') then pure (.tag handle suffix, after)
  else throw .tagEnd
where
  readParts : Except Fault (Taken (String × Tag)) := do
    if cursor.peekAt 1 = some '<' then
      let (suffix, after) ← readSomeTagSuffix true (cursor.advance 2)
      if after.sees '>' then pure (("", suffix), after.skip) else throw .tagEnd
    else
      let (handle, after) := readTagHandle cursor
      if isFullHandle handle then
        let (suffix, beyond) ← readSomeTagSuffix false after
        pure ((handle, suffix), beyond)
      else
        let (more, beyond) ← readTagSuffix false after
        let suffix := (Tag.ofText (String.ofList (handle.toList.drop 1))).append more
        if suffix.octets = [] then pure (("", Tag.ofText handle), beyond)
        else pure (("!", suffix), beyond)

/-! ### Directives -/

/-- The largest number of digits in a version number. -/
def versionDigits : Nat := 9

/-- Reads a part of a version number. -/
def readVersionPart (cursor : Cursor) : Except Fault (Taken Nat) :=
  let (digits, after) := cursor.takeWhile Text.isAsciiDigit
  match Text.numeral? 10 digits with
  | some number =>
    if digits.length ≤ versionDigits then .ok (number, after) else .error .versionNumber
  | none => .error .versionNumber

/-- Reads the version after the name of its directive. -/
def readVersion (cursor : Cursor) : Except Fault (Taken Token) := do
  let (major, after) ← readVersionPart (cursor.skipWhile isSpace)
  if !after.sees '.' then throw .versionNumber
  let (minor, beyond) ← readVersionPart after.skip
  pure (.versionDirective major minor, beyond)

/-- Reads the handle and the start of tags after the name of their directive. -/
def readTagDirective (cursor : Cursor) : Except Fault (Taken Token) := do
  let start := cursor.skipWhile isSpace
  if !start.sees '!' then throw .tagHandle
  let (handle, after) := readTagHandle start
  if !(isFullHandle handle || handle = "!") then throw .tagHandle
  if !after.seesAny isSpace then throw .tagHandle
  let (tagStart, beyond) ← readSomeTagSuffix true (after.skipWhile isSpace)
  if !endsWord beyond.peek then throw .tagEnd
  pure (.tagDirective handle tagStart, beyond)

/-- Reads a directive and the rest of its line, with the cursor on the percent sign. -/
def readDirective (cursor : Cursor) : Except Fault (Taken Token) := do
  let (name, after) := cursor.skip.takeWhile isNameCharacter
  if name = [] ∨ !endsWord after.peek then throw .directiveName
  let (directive, beyond) ←
    if name = "YAML".toList then readVersion after
    else if name = "TAG".toList then readTagDirective after
    else throw .unknownDirective
  let lineEnd := (beyond.skipWhile isSpace).skipComment
  if endsLine lineEnd.peek then pure (directive, lineEnd.skipBreak) else throw .directiveEnd

end DataLayer.Yaml
