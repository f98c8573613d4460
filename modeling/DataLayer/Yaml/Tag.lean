import DataLayer.Text.Numeral
import DataLayer.Yaml.Cursor
import DataLayer.Yaml.Fault

/-! Tags. A tag is written with characters of a small alphabet and with octets in hexadecimal, so
what it denotes is a row of octets, which need not be a text. -/

namespace DataLayer.Yaml

/-- A tag, or a part of one. -/
structure Tag where
  octets : List UInt8
deriving DecidableEq, Repr

namespace Tag

/-- The tag that is written as a text without escapes. -/
def ofText (text : String) : Tag := ⟨text.toUTF8.toList⟩

/-- Tags of the values that every document knows. -/
def core (name : String) : Tag := ofText ("tag:yaml.org,2002:" ++ name)

/-- The tag that begins with one part and ends with another. -/
def append (start suffix : Tag) : Tag := ⟨start.octets ++ suffix.octets⟩

/-- The text of a tag that is one. -/
def text? (tag : Tag) : Option String := String.fromUTF8? (ByteArray.mk tag.octets.toArray)

/-- The name in a tag of the document itself, which begins with an exclamation mark. -/
def localName? (tag : Tag) : Option String :=
  match tag.octets with
  | mark :: name => if mark = '!'.toNat.toUInt8 then text? ⟨name⟩ else none
  | [] => none

end Tag

/-- Characters of the suffix of a tag. In a tag between angle brackets and in a directive some flow
indicators may stand too. -/
def isTagCharacter (verbatim : Bool) (c : Char) : Bool :=
  isNameCharacter c || ";/?:@&=+$.%!~*'()".toList.contains c ||
    (verbatim && (c == ',' || c == '[' || c == ']'))

/-! ### Octets -/

/-- Reads an octet written as a percent sign and two hexadecimal digits. -/
def readOctet (cursor : Cursor) : Except Fault (Taken UInt8) :=
  match cursor.rest with
  | '%' :: high :: low :: _ =>
    match Text.numeral? 16 [high, low] with
    | some octet => .ok (octet.toUInt8, cursor.advance 3)
    | none => .error .tagEscape
  | _ => .error .tagEscape

/-- The number of octets that the first octet of a character announces. -/
def octetCount? (first : UInt8) : Option Nat :=
  if first < 0x80 then some 1
  else if first < 0xC0 then none
  else if first < 0xE0 then some 2
  else if first < 0xF0 then some 3
  else if first < 0xF8 then some 4
  else none

/-- Reads further octets of a character. -/
def readLaterOctets : (count : Nat) → Cursor → Except Fault (Taken (List UInt8))
  | 0, cursor => .ok ([], cursor)
  | count + 1, cursor => do
    let (octet, after) ← readOctet cursor
    if octet < 0x80 ∨ 0xC0 ≤ octet then throw .tagEscape
    let (later, beyond) ← readLaterOctets count after
    pure (octet :: later, beyond)

/-- Reads as many octets as the first one announces. They are not checked any further. -/
def readEscapedCharacter (cursor : Cursor) : Except Fault (Taken (List UInt8)) := do
  let (first, after) ← readOctet cursor
  match octetCount? first with
  | none => throw .tagEscape
  | some count =>
    let (later, beyond) ← readLaterOctets (count - 1) after
    pure (first :: later, beyond)

/-- Reads the octets of the suffix of a tag. -/
def readTagOctets (verbatim : Bool) :
    (steps : Nat) → Cursor → Except Fault (Taken (List UInt8))
  | 0, cursor => .ok ([], cursor)
  | steps + 1, cursor => do
    match cursor.peek with
    | none => pure ([], cursor)
    | some c =>
      if !isTagCharacter verbatim c then pure ([], cursor)
      else
        let (octets, after) ←
          if c = '%' then readEscapedCharacter cursor
          else pure ([c.toNat.toUInt8], cursor.skip)
        let (later, beyond) ← readTagOctets verbatim steps after
        pure (octets ++ later, beyond)

/-! ### Parts of tags -/

/-- Reads the suffix of a tag. It ends at the first octet that is zero. -/
def readTagSuffix (verbatim : Bool) (cursor : Cursor) : Except Fault (Taken Tag) := do
  let (octets, after) ← readTagOctets verbatim cursor.rest.length cursor
  pure (⟨octets.takeWhile (· != 0)⟩, after)

/-- Reads the suffix of a tag, for which something must be written. -/
def readSomeTagSuffix (verbatim : Bool) (cursor : Cursor) : Except Fault (Taken Tag) :=
  if cursor.seesAny (isTagCharacter verbatim) then readTagSuffix verbatim cursor
  else .error .tagSuffix

/-- Reads an exclamation mark, name characters and, if it follows, another mark. -/
def readTagHandle (cursor : Cursor) : Taken String :=
  let (name, after) := cursor.skip.takeWhile isNameCharacter
  if after.sees '!' then (String.ofList ('!' :: name ++ ['!']), after.skip)
  else (String.ofList ('!' :: name), after)

/-- Whether a text is a handle of its own: it begins and ends with different exclamation marks. -/
def isFullHandle (handle : String) : Bool :=
  handle.toList.length ≥ 2 && handle.toList.getLast? == some '!'

end DataLayer.Yaml
