import DataLayer.Text.Edit

/-! Generated code as a tree of lines and blocks, and its layout. Each level is four blanks
deeper than the one around it. -/

namespace DataLayer

/-- A piece of generated code. -/
inductive Code where
  /-- A line at the depth of its place. -/
  | line (text : String)
  /-- An empty line. -/
  | blank
  /-- Finished text that keeps its own indentation. -/
  | verbatim (text : String)
  /-- Lines that open a block, of which the last is followed by a brace; then the body one level
  deeper; then the closing brace. -/
  | block (opening : List String) (body : List Code)
  /-- A body one level deeper without braces. -/
  | deeper (body : List Code)
deriving Repr

namespace Code

/-- Blanks in front of a line at the given depth. -/
def indent (depth : Nat) : String := String.ofList (List.replicate (4 * depth) ' ')

/-- The opening lines of a block, with the brace after the last. -/
def openingLines (depth : Nat) : List String → List String
  | [] => [indent depth ++ "\x7b"]
  | [last] => [indent depth ++ last ++ " \x7b"]
  | first :: next :: rest => (indent depth ++ first) :: openingLines depth (next :: rest)

mutual

/-- The lines of a piece of code at the given depth. -/
def lines (depth : Nat) : Code → List String
  | line text => [indent depth ++ text]
  | blank => [""]
  | verbatim text => [text]
  | block opening body =>
    openingLines depth opening ++ linesOfAll (depth + 1) body ++ [indent depth ++ "\x7d"]
  | deeper body => linesOfAll (depth + 1) body

/-- The lines of several pieces, one after the other. -/
def linesOfAll (depth : Nat) : List Code → List String
  | [] => []
  | piece :: rest => lines depth piece ++ linesOfAll depth rest

end

/-- The text of several pieces at the given depth, without a line end after the last line. -/
def layout (depth : Nat) (pieces : List Code) : String :=
  Text.joinWith "\n" (linesOfAll depth pieces)

/-- The text between braces on one line. -/
def inBraces (text : String) : String := "\x7b " ++ text ++ " \x7d"

/-- A documentation comment of one line. -/
def summary (text : String) : Code := line ("/// <summary> " ++ text ++ " </summary>")

/-- A list of pieces that is there only under a condition. -/
def onlyIf (condition : Bool) (pieces : List Code) : List Code :=
  if condition then pieces else []

/-- Code between region marks at the same depth. -/
def region (title : String) (body : List Code) : List Code :=
  line ("#region " ++ title) :: body ++ [line "#endregion"]

end Code

end DataLayer
