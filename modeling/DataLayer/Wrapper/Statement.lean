import DataLayer.Code

/-! Statements of generated method bodies. Locals are declared by constructors of their own, so the
names that a body brings into scope can be read off it. -/

namespace DataLayer

/-- A statement of a method body. -/
inductive BodyStatement where
  /-- Declares a local with its first value. -/
  | declare (name value : String)
  /-- Any statement that declares nothing. -/
  | perform (text : String)
  /-- Statements that run under a condition. -/
  | provided (condition : String) (body : List BodyStatement)
  /-- Statements that run for each element of a source, which the named local holds. -/
  | forEach (elementType name source : String) (body : List BodyStatement)
deriving Repr

namespace BodyStatement

/-- The whole text of a statement on one line, or what stands before the body of one with a
body. -/
def heading : BodyStatement → String
  | declare name value => "var " ++ name ++ " = " ++ value ++ ";"
  | perform text => text
  | provided condition _ => "if (" ++ condition ++ ")"
  | forEach elementType name source _ =>
    "foreach (" ++ elementType ++ " " ++ name ++ " in " ++ source ++ ")"

mutual

/-- The code of a statement. -/
def code : BodyStatement → Code
  | declare name value => .line (declare name value).heading
  | perform text => .line (perform text).heading
  | provided condition body => .block [(provided condition body).heading] (codeOfAll body)
  | forEach elementType name source body =>
    .block [(forEach elementType name source body).heading] (codeOfAll body)

/-- The code of several statements. -/
def codeOfAll : List BodyStatement → List Code
  | [] => []
  | statement :: rest => statement.code :: codeOfAll rest

end

end BodyStatement

end DataLayer
