import DataLayer.Failure
import DataLayer.Identifier
import DataLayer.SqlType

/-! Stored procedures: their parameters as described and as used, and the shape of what an
execution returns. -/

namespace DataLayer

/-- Which way a parameter passes its value. -/
inductive Direction where
  | input
  | output
  | both
deriving DecidableEq, Repr

/-- Whether a value comes back through the parameter. -/
def Direction.isOutput : Direction → Bool
  | input => false
  | output | both => true

/-- All directions under the names that descriptions use. -/
def Direction.names : List (String × Direction) :=
  [("in", input), ("out", output), ("inout", both)]

/-- The direction of that name. -/
def Direction.ofName? (name : String) : Option Direction := names.lookup name

/-- A parameter as the catalog describes it. -/
structure ParameterInfo where
  name : String
  sqlType : String
  direction : Direction := .input
  precision : Nat := 0
  scale : Nat := 0
  size : Int := 0
deriving DecidableEq, Repr

/-- A stored-procedure parameter, named without the leading `@`. -/
structure Parameter where
  name : String
  codeName : String
  direction : Direction
  parameterType : ParameterType
  sqlType : String
  precision : Nat
  scale : Nat
  size : Int
deriving DecidableEq, Repr

namespace Parameter

/-- The entry that stands for the return value among the parameters of a catalog. -/
def isReturnValue (info : ParameterInfo) : Bool :=
  Text.sameIgnoringAsciiCase info.name "@RETURN_VALUE"

/-- Reads a parameter description. The return value yields no parameter, and a type without a
class is a failure. -/
def ofInfo (info : ParameterInfo) : Except Failure (Option Parameter) :=
  if isReturnValue info then
    .ok none
  else
    let name := Text.dropStart (· == '@') info.name
    match ParameterType.ofSqlType? info.sqlType with
    | none => .error (.unmappedType info.sqlType ("parameter @" ++ name))
    | some parameterType =>
      .ok (some
        { name := name
          codeName := Identifier.escapeReserved name
          direction := info.direction
          parameterType := parameterType
          sqlType := Text.lower info.sqlType
          precision := info.precision
          scale := info.scale
          size := info.size })

/-- Reads parameter descriptions in order, without the return value; the first type without a
class is the failure. -/
def ofInfos : List ParameterInfo → Except Failure (List Parameter)
  | [] => .ok []
  | info :: rest => do
    let first ← ofInfo info
    let others ← ofInfos rest
    pure (first.toList ++ others)

/-- Whether a value comes back through the parameter. -/
def isOutput (parameter : Parameter) : Bool := parameter.direction.isOutput

end Parameter

/-- A column of a result table. -/
structure ResultColumn where
  name : String
  runtimeType : RuntimeType
deriving DecidableEq, Repr

/-- One table of a result. -/
structure ResultTable where
  columns : List ResultColumn
  rowCount : Nat := 0
deriving DecidableEq, Repr

/-- The tables that one execution returned, in order. -/
structure ResultShape where
  tables : List ResultTable := []
deriving DecidableEq, Repr

/-- A stored procedure. The parameters are in catalog order; `loadError` says why reading the
procedure stopped early. -/
structure Procedure where
  name : String
  parameters : List Parameter := []
  returnsData : Bool
  definition : Option String := none
  sample : Option ResultShape := none
  loadError : Option String := none
deriving DecidableEq, Repr

end DataLayer
