import DataLayer.Text.Alphabetic
import DataLayer.Text.Cased
import DataLayer.Text.Numeric

/-! Character classes. Letters, digits and blanks are those of Unicode; the few rules that know
ASCII alone say so in their names. -/

namespace DataLayer.Text

/-- Whether a code point lies in one of the closed ranges. -/
def inRanges (ranges : List (Nat × Nat)) (code : Nat) : Bool :=
  ranges.any fun range => range.1 ≤ code && code ≤ range.2

/-- Letters, and the marks and letter numbers that Unicode counts with them. -/
def isAlphabetic (c : Char) : Bool := inRanges alphabeticRanges c.toNat

/-- Decimal digits, letter numbers and other numeric characters. -/
def isNumeric (c : Char) : Bool := inRanges numericRanges c.toNat

/-- Alphabetic or numeric. -/
def isAlphanumeric (c : Char) : Bool := isAlphabetic c || isNumeric c

/-- Characters that have or denote case. -/
def isCased (c : Char) : Bool := inRanges casedRanges c.toNat

/-- Characters that a search for a neighbouring cased character passes over. -/
def isCaseIgnorable (c : Char) : Bool := inRanges caseIgnorableRanges c.toNat

/-- First and last code point of every maximal run of white space. -/
def blankRanges : List (Nat × Nat) :=
  [(0x9, 0xD), (0x20, 0x20), (0x85, 0x85), (0xA0, 0xA0), (0x1680, 0x1680), (0x2000, 0x200A),
   (0x2028, 0x2029), (0x202F, 0x202F), (0x205F, 0x205F), (0x3000, 0x3000)]

/-- White space. -/
def isBlank (c : Char) : Bool := inRanges blankRanges c.toNat

/-- The digits `0` to `9`. -/
def isAsciiDigit (c : Char) : Bool := '0' ≤ c && c ≤ '9'

/-- The letters `A` to `Z` and `a` to `z`. -/
def isAsciiLetter (c : Char) : Bool := ('a' ≤ c && c ≤ 'z') || ('A' ≤ c && c ≤ 'Z')

/-- An ASCII letter, an ASCII digit or an underscore. -/
def isAsciiWord (c : Char) : Bool := isAsciiLetter c || isAsciiDigit c || c == '_'

end DataLayer.Text
