import DataLayer.Text.Edit

/-! Literals of the generated code as the generator writes them: a name between quotes, plain or
verbatim. -/

namespace DataLayer.Literal

/-- A name as a plain text literal. -/
def plain (name : String) : String := "\"" ++ name ++ "\""

/-- A name as a verbatim text literal. -/
def verbatim (name : String) : String := "@\"" ++ name ++ "\""

/-- A truth value. -/
def truth (value : Bool) : String := if value then "true" else "false"

/-- Doubles the quotes of a text that will stand in a verbatim literal. -/
def doubleQuotes (text : String) : String := Text.replaceChar '"' "\"\"" text

end DataLayer.Literal
