import DataLayer.Text.Case
import DataLayer.Text.Edit

/-! Default expressions as the catalog stores them, such as `((0))` or `(getdate())`, and their
normal form as an expression of the generated code. -/

namespace DataLayer.DefaultExpression

open Text

/-- Types whose defaults are written as text or character literals. -/
def characterTypes : List String := ["char", "nchar", "varchar", "nvarchar", "text", "ntext"]

/-- Types whose defaults are written as decimal literals. -/
def decimalTypes : List String := ["decimal", "numeric", "money", "smallmoney"]

/-- Follows the parentheses outside single quotes. The answer is yes when none of them closes
back to depth zero before the last character and the depth at the end is zero; a closing
parenthesis at depth zero stays there. -/
def staysOpen (depth : Nat) (quoted : Bool) : List Char → Bool
  | [] => depth == 0
  | c :: rest =>
    if c = '\'' then staysOpen depth (!quoted) rest
    else if c = '(' ∧ quoted = false then staysOpen (depth + 1) quoted rest
    else if c = ')' ∧ quoted = false then
      if depth - 1 = 0 ∧ rest ≠ [] then false else staysOpen (depth - 1) quoted rest
    else staysOpen depth quoted rest

/-- Drops white space on both sides. -/
def trimmed (text : List Char) : List Char :=
  ((text.dropWhile isBlank).reverse.dropWhile isBlank).reverse

/-- The characters between the first and the last. -/
def inner (text : List Char) : List Char := text.tail.dropLast

/-- Whether one matching pair of parentheses encloses the whole text. -/
def isWrapped (text : List Char) : Bool :=
  text.head? == some '(' && text.getLast? == some ')' && staysOpen 0 false text

/-- Trimming makes no text longer. -/
theorem length_trimmed_le (text : List Char) : (trimmed text).length ≤ text.length := by
  have first := (List.dropWhile_sublist isBlank (l := text)).length_le
  have second :=
    (List.dropWhile_sublist isBlank (l := (text.dropWhile isBlank).reverse)).length_le
  simp only [trimmed, List.length_reverse] at *
  omega

/-- Without the parentheses around it a text is shorter, so stripping comes to an end. -/
theorem length_inner_lt {text : List Char} (wrapped : isWrapped text = true) :
    (inner text).length < text.length := by
  cases text with
  | nil => simp [isWrapped] at wrapped
  | cons c rest => simp only [inner, List.tail_cons, List.length_dropLast, List.length_cons]; omega

/-- Strips every pair of parentheses that encloses the whole text, and the white space around
each. -/
def stripParentheses (text : List Char) : List Char :=
  if isWrapped (trimmed text) then stripParentheses (inner (trimmed text)) else trimmed text
termination_by text.length
decreasing_by
  exact Nat.lt_of_lt_of_le (length_inner_lt ‹_›) (length_trimmed_le text)

/-- Drops all parentheses, wherever they stand. -/
def withoutParentheses (text : List Char) : List Char :=
  text.filter fun c => c != '(' && c != ')'

/-- The text between single quotes, when the trimmed text is enclosed by two of them. -/
def unquoted? (text : List Char) : Option (List Char) :=
  match trimmed text with
  | '\'' :: rest =>
    if rest.getLast? == some '\'' then some rest.dropLast else none
  | _ => none

/-- Drops the `N` that marks a Unicode text literal. -/
def withoutUnicodeMark : List Char → List Char
  | 'N' :: '\'' :: rest => '\'' :: rest
  | text => text

/-- A bit default: 1 and 0 become truth values. -/
def bitForm (value : List Char) : String :=
  match String.ofList (trimmed (withoutParentheses value)) with
  | "1" => "true"
  | "0" => "false"
  | other => other

/-- A character literal; an empty text stands for a blank. -/
def characterLiteral (content : List Char) : String :=
  "'" ++ replaceChar '\'' "\\'" (String.ofList (if content.isEmpty then [' '] else content)) ++ "'"

/-- A text literal. -/
def textLiteral (content : List Char) : String :=
  "\"" ++ replaceChar '"' "\\\"" (String.ofList content) ++ "\""

/-- A text default: a quoted text becomes a literal, any other expression stays. -/
def characterForm (value : List Char) (nullable : Bool) (length : Int) : String :=
  let unmarked := withoutUnicodeMark value
  match unquoted? unmarked with
  | some content =>
    if !nullable && length == 1 then characterLiteral (trimmed content)
    else textLiteral (trimmed content)
  | none => String.ofList unmarked

/-- Expressions that yield the current time. -/
def clockCalls : List String := ["getdate()", "current_timestamp", "sysdatetime()"]

/-- A date default: a quoted date is parsed, a clock call reads the clock, any other expression
stays. -/
def dateForm (value : List Char) : String :=
  match unquoted? value with
  | some content => "SqlDateTime.Parse(\"" ++ String.ofList content ++ "\").Value"
  | none =>
    if clockCalls.contains (lower (String.ofList value)) then "DateTime.Now"
    else String.ofList value

/-- A decimal default carries the decimal suffix. -/
def decimalForm (value : List Char) : String :=
  String.ofList (trimmed (withoutParentheses value)) ++ "m"

/-- Any other default loses its parentheses; the session number has no counterpart and becomes
-1. -/
def plainForm (value : List Char) : String :=
  replaceAll "@@spid" "-1" (String.ofList (trimmed (withoutParentheses value)))

/-- The form of a stripped default for a column type in lower case. -/
def form (value : List Char) (dbType : String) (nullable : Bool) (length : Int) : String :=
  if dbType = "bit" then bitForm value
  else if characterTypes.contains dbType then characterForm value nullable length
  else if contains "date" dbType then dateForm value
  else if decimalTypes.contains dbType then decimalForm value
  else plainForm value

/-- The expression of the generated code for a raw default, or nothing when the column has none. -/
def normalize (raw : Option String) (dbType : String) (nullable : Bool) (length : Int) :
    Option String := do
  let text := trimmed (← raw).toList
  if text.isEmpty then none
  let value := stripParentheses text
  if sameIgnoringAsciiCase (String.ofList value) "null" then none
  let expression := form value (lower dbType) nullable length
  if expression.isEmpty then none
  some expression

end DataLayer.DefaultExpression
