import DataLayer.Text.Character

/-! Trimming, splitting, joining and replacing. Everything works on the list of characters, so
that each operation has a plain recursive description. -/

namespace DataLayer.Text

/-- Drops leading characters of the class. -/
def dropStart (p : Char → Bool) (text : String) : String :=
  String.ofList (text.toList.dropWhile p)

/-- Drops trailing characters of the class. -/
def dropEnd (p : Char → Bool) (text : String) : String :=
  String.ofList (text.toList.reverse.dropWhile p).reverse

/-- Drops trailing white space. -/
def trimEnd (text : String) : String := dropEnd isBlank text

/-- Drops white space on both sides. -/
def trim (text : String) : String := dropEnd isBlank (dropStart isBlank text)

/-- Whether the text begins with the given start. -/
def startsWith (start text : String) : Bool := start.toList.isPrefixOf text.toList

/-- Whether the part stands somewhere in the characters. -/
def occursIn (part : List Char) : List Char → Bool
  | [] => part.isEmpty
  | c :: rest => part.isPrefixOf (c :: rest) || occursIn part rest

/-- Whether the part stands somewhere in the text. -/
def contains (part text : String) : Bool := occursIn part.toList text.toList

/-- Puts a character in front of the first piece. -/
def consFirst (c : Char) : List (List Char) → List (List Char)
  | [] => [[c]]
  | piece :: rest => (c :: piece) :: rest

/-- Cuts at every separator; there is one piece more than there are separators. -/
def splitWhere (isSeparator : Char → Bool) : List Char → List (List Char)
  | [] => [[]]
  | c :: rest =>
    if isSeparator c then [] :: splitWhere isSeparator rest
    else consFirst c (splitWhere isSeparator rest)

/-- The pieces of a text between the separators. -/
def pieces (isSeparator : Char → Bool) (text : String) : List String :=
  (splitWhere isSeparator text.toList).map String.ofList

/-- The maximal runs of characters that are no white space. -/
def words (text : String) : List String :=
  (pieces isBlank text).filter (· != "")

/-- Joins the pieces with the separator between neighbours. -/
def joinWith (separator : String) : List String → String
  | [] => ""
  | [piece] => piece
  | piece :: next :: rest => piece ++ separator ++ joinWith separator (next :: rest)

/-- Joins the pieces without anything between them. -/
def concat (texts : List String) : String := joinWith "" texts

/-- Writes the replacement for every occurrence of one character. -/
def replaceChar (c : Char) (replacement : String) (text : String) : String :=
  String.ofList (text.toList.flatMap fun d => if d = c then replacement.toList else [d])

/-- Replaces the occurrences of a pattern from left to right; a match is not searched again. The
pattern is its first character and the rest. -/
def replacePattern (first : Char) (more replacement : List Char) : List Char → List Char
  | [] => []
  | c :: rest =>
    if c = first ∧ more.isPrefixOf rest then
      replacement ++ replacePattern first more replacement (rest.drop more.length)
    else
      c :: replacePattern first more replacement rest
termination_by text => text.length
decreasing_by
  all_goals simp only [List.length_cons, List.length_drop]; omega

/-- Replaces every occurrence of a non-empty pattern. -/
def replaceAll (pattern replacement text : String) : String :=
  match pattern.toList with
  | [] => text
  | first :: more => String.ofList (replacePattern first more replacement.toList text.toList)

/-- Strips a leading part as often as it occurs. -/
def stripRepeated (first : Char) (more : List Char) : List Char → List Char
  | [] => []
  | c :: rest =>
    if c = first ∧ more.isPrefixOf rest then stripRepeated first more (rest.drop more.length)
    else c :: rest
termination_by text => text.length
decreasing_by
  simp only [List.length_cons, List.length_drop]; omega

/-- Strips a non-empty leading part as often as it occurs. -/
def dropRepeated (part text : String) : String :=
  match part.toList with
  | [] => text
  | first :: more => String.ofList (stripRepeated first more text.toList)

end DataLayer.Text
