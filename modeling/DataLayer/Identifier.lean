import DataLayer.Text.Case
import DataLayer.Text.Edit

/-! Identifiers of the generated code: which texts are identifiers, and how a catalog name becomes
one. -/

namespace DataLayer.Identifier

open Text

/-- Keywords of the generated language that cannot stand as plain identifiers. -/
def reservedWords : List String :=
  ["abstract", "as", "base", "bool", "break", "byte", "case", "catch", "char", "checked",
   "class", "const", "continue", "decimal", "default", "delegate", "do", "double", "else",
   "enum", "event", "explicit", "extern", "false", "finally", "fixed", "float", "for",
   "foreach", "goto", "if", "implicit", "in", "int", "interface", "internal", "is", "lock",
   "long", "namespace", "new", "null", "object", "operator", "out", "override", "params",
   "private", "protected", "public", "readonly", "ref", "return", "sbyte", "sealed", "short",
   "sizeof", "stackalloc", "static", "string", "struct", "switch", "this", "throw", "true",
   "try", "typeof", "uint", "ulong", "unchecked", "unsafe", "ushort", "using", "virtual",
   "void", "volatile", "while"]

/-- Reserved words are matched with their case, so `Class` is free. -/
def isReserved (name : String) : Bool := reservedWords.contains name

/-- A reserved word gets an underscore in front; any other name stays. -/
def escapeReserved (name : String) : String :=
  if isReserved name then "_" ++ name else name

/-- Characters that may stand inside an identifier. -/
def isPart (c : Char) : Bool := isAlphanumeric c || c == '_'

/-- Characters that may begin an identifier. -/
def isStart (c : Char) : Bool := isAlphabetic c || c == '_'

/-- Each character that cannot stand in an identifier becomes an underscore. -/
def clean (text : List Char) : List Char := text.map fun c => if isPart c then c else '_'

/-- A leading ASCII digit gets an underscore in front. -/
def guardDigit : List Char → List Char
  | [] => []
  | c :: rest => if isAsciiDigit c then '_' :: c :: rest else c :: rest

/-- The identifier for an arbitrary text. -/
def ofText (text : String) : String :=
  escapeReserved (String.ofList (guardDigit (clean text.toList)))

/-- One identifier: a first character that may begin it, then characters that may stand in it. -/
def isSimple : List Char → Bool
  | [] => false
  | c :: rest => isStart c && rest.all isPart

/-- One or more identifiers with dots between them. -/
def isPath (text : String) : Bool := (splitWhere (· == '.') text.toList).all isSimple

/-- Capitalises the character after each underscore and drops the underscore; every other
character is lowered. -/
def pascalAfter (capitalNext : Bool) : List Char → List Char
  | [] => []
  | c :: rest =>
    if c = '_' then pascalAfter true rest
    else (if capitalNext then upperOf c else lowerOf c) ++ pascalAfter false rest

/-- The name with every underscore-separated piece capitalised and joined. A leading underscore is
kept. -/
def pascalCase (name : String) : String :=
  match name.toList with
  | '_' :: rest => String.ofList ('_' :: pascalAfter true rest)
  | characters => String.ofList (pascalAfter true characters)

end DataLayer.Identifier
