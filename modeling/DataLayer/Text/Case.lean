import DataLayer.Text.CaseTable
import DataLayer.Text.Character

/-! Case conversion of texts and comparisons that ignore case. A character may map to several.
In a whole text a capital sigma at the end of a word takes its final form; a character on its own
never does. -/

namespace DataLayer.Text

/-- The mapping of one character by a table of runs and a table of expansions. -/
def mapCase (runs : List CaseRun) (expansions : List (Nat × List Nat)) (c : Char) : List Char :=
  match runs.findSome? fun run => run.apply? c.toNat with
  | some code => [Char.ofNat code]
  | none =>
    match expansions.find? fun expansion => expansion.1 == c.toNat with
    | some expansion => expansion.2.map Char.ofNat
    | none => [c]

/-- Lower case of one character, without regard to its neighbours. -/
def lowerOf (c : Char) : List Char :=
  if c.toNat < 0x80 then [c.toLower] else mapCase lowerRuns lowerExpansions c

/-- Upper case of one character. -/
def upperOf (c : Char) : List Char :=
  if c.toNat < 0x80 then [c.toUpper] else mapCase upperRuns upperExpansions c

/-- Whether the first character that case detection does not pass over is cased. -/
def meetsCased (characters : List Char) : Bool :=
  match characters.dropWhile isCaseIgnorable with
  | [] => false
  | c :: _ => isCased c

/-- Lower case of a text whose characters before it are given nearest first. A capital sigma is
final when a cased character precedes it and none follows. -/
def lowerAfter (before : List Char) : List Char → List Char
  | [] => []
  | c :: rest =>
    (if c = 'Σ' then
      [if meetsCased before && !meetsCased rest then 'ς' else 'σ']
    else
      lowerOf c) ++ lowerAfter (c :: before) rest

/-- Lower case of a whole text. -/
def lower (text : String) : String := String.ofList (lowerAfter [] text.toList)

/-- Upper case of a whole text. -/
def upper (text : String) : String := String.ofList (text.toList.flatMap upperOf)

/-- Equality up to the case of ASCII letters. -/
def sameIgnoringAsciiCase (left right : String) : Bool :=
  left.toList.map Char.toLower == right.toList.map Char.toLower

end DataLayer.Text
