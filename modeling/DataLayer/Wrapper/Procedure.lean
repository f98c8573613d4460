import DataLayer.Wrapper.Result
import DataLayer.Wrapper.Statement

/-! The methods that wrap a stored procedure. A wrapper offers up to three methods, and each of them
appears in the static class, in the interface and in the object class. -/

namespace DataLayer

/-- A parameter of the generated methods and how it is bound. -/
structure WrapperParameter where
  name : String
  codeName : String
  codeType : String
  isOutput : Bool
  parameterType : ParameterType
  precision : Option Nat
  scale : Option Nat
  size : Option Nat
deriving DecidableEq, Repr

/-- Every local that a generated body declares begins like this. -/
def localStart : String := "sp_"

/-- The first parameter of every static method. -/
def providerLocal : String := "sp_provider"

/-- The local that holds the command. -/
def commandLocal : String := "sp_cmd"

namespace WrapperParameter

/-- A parameter name that begins like a local gets an underscore in front. -/
def clearOfLocals (codeName : String) : String :=
  if Text.startsWith localStart codeName then "_" ++ codeName else codeName

/-- Whether precision and scale are bound for the parameter. -/
def bindsPrecision (parameter : Parameter) : Bool :=
  0 < parameter.precision && (parameter.sqlType == "decimal" || parameter.sqlType == "numeric")

/-- The method parameter of the given type for a procedure parameter. -/
def ofType (parameter : Parameter) (codeType : String) : WrapperParameter where
  name := parameter.name
  codeName := clearOfLocals parameter.codeName
  codeType := codeType
  isOutput := parameter.isOutput
  parameterType := parameter.parameterType
  precision := if bindsPrecision parameter then some parameter.precision else none
  scale := if bindsPrecision parameter then some parameter.scale else none
  size := if 0 < parameter.size then some parameter.size.toNat else none

/-- A failure to find a type, with the procedure and the parameter that need it. -/
def located (procedure parameter : String) : Failure → Failure
  | .unmappedType dbType _ => .unmappedType dbType (procedure ++ " @" ++ parameter)
  | other => other

/-- The method parameter for a parameter of the named procedure. -/
def ofParameter (types : TypeMap) (procedure : String) (parameter : Parameter) :
    Except Failure WrapperParameter :=
  match types.resolveParameter parameter.parameterType parameter.isOutput with
  | .ok codeType => .ok (ofType parameter codeType)
  | .error failure => .error (located procedure parameter.name failure)

/-- The parameter in a parameter list. -/
def declaration (parameter : WrapperParameter) : String :=
  (if parameter.isOutput then "out " else "") ++ parameter.codeType ++ " " ++ parameter.codeName

/-- The parameter in an argument list. -/
def argument (parameter : WrapperParameter) : String :=
  (if parameter.isOutput then "out " else "") ++ parameter.codeName

/-- The local that holds the bound parameter while its value is still to come back. -/
def handle (parameter : WrapperParameter) : String := localStart ++ "par_" ++ parameter.codeName

/-- A number, or null when there is none. -/
def hint (value : Option Nat) : String :=
  match value with
  | some number => number.repr
  | none => "null"

/-- The statement that binds the parameter to the command. -/
def binding (parameter : WrapperParameter) : BodyStatement :=
  let start := "(" ++ commandLocal ++ ", " ++ Literal.plain ("@" ++ parameter.name) ++
    ", DbType." ++ parameter.parameterType.name ++ ", "
  if parameter.isOutput then
    .declare parameter.handle
      ("AddParameterOut" ++ start ++ "DBNull.Value, " ++ hint parameter.precision ++ ", " ++
        hint parameter.scale ++ ", " ++ hint parameter.size ++ ")")
  else
    .perform
      ("AddParameter" ++ start ++ "(CheckNull(" ++ parameter.codeName ++
        ") ? (object) DBNull.Value : (object) " ++ parameter.codeName ++ "));")

/-- The statement that copies the value of an output parameter back. -/
def copyBack (parameter : WrapperParameter) : BodyStatement :=
  .perform
    (parameter.codeName ++ " = " ++ parameter.handle ++ ".Value == DBNull.Value ? default(" ++
      parameter.codeType ++ ") : (" ++ parameter.codeType ++ ") " ++ parameter.handle ++
      ".Value;")

end WrapperParameter

/-- The wrapper of one stored procedure. -/
structure ProcedureWrapper where
  name : String
  methodName : String
  returnsData : Bool
  parameters : List WrapperParameter
  aggregate : Option ResultAggregate
deriving DecidableEq, Repr

/-- One method of a wrapper, as it appears on every surface. -/
structure WrapperMethod where
  name : String
  returnType : String
  /-- What the method is for. -/
  purpose : String
  /-- The body on the static surface. -/
  body : List BodyStatement
deriving Repr

namespace ProcedureWrapper

/-- The name of the method for a procedure. -/
def methodNameOf (settings : Settings) (procedure : String) : String :=
  Identifier.ofText (settings.procedurePrefix ++ procedure)

/-- The wrapper of a procedure with the given parameters and results. -/
def ofParts (settings : Settings) (procedure : Procedure) (parameters : List WrapperParameter)
    (aggregate : Option ResultAggregate) : ProcedureWrapper where
  name := procedure.name
  methodName := methodNameOf settings procedure.name
  returnsData := procedure.returnsData
  parameters := parameters
  aggregate := aggregate

/-- The results of a procedure. They are wrapped when the procedure returns data and was
sampled. -/
def aggregateOf (settings : Settings) (procedure : Procedure) :
    Except Failure (Option ResultAggregate) :=
  match procedure.returnsData, procedure.sample with
  | true, some sample => some <$> ResultAggregate.ofSample settings procedure.name sample
  | _, _ => .ok none

/-- The wrapper of a procedure: its parameters first, then its results. -/
def ofProcedure (settings : Settings) (types : TypeMap) (procedure : Procedure) :
    Except Failure ProcedureWrapper := do
  let parameters ← procedure.parameters.mapM (WrapperParameter.ofParameter types procedure.name)
  let aggregate ← aggregateOf settings procedure
  pure (ofParts settings procedure parameters aggregate)

/-- The return type of the first method. -/
def returnType (wrapper : ProcedureWrapper) : String :=
  if wrapper.returnsData then "DataTable" else "int"

/-- The parameter list of the interface and of the object class. -/
def signature (wrapper : ProcedureWrapper) : String :=
  Text.joinWith ", " (wrapper.parameters.map (·.declaration))

/-- The parameter list of a static method after the provider, one parameter on a line. -/
def staticParameters (wrapper : ProcedureWrapper) : String :=
  Text.concat (wrapper.parameters.map fun parameter =>
    ",\n            " ++ parameter.declaration)

/-- The argument list after the provider. -/
def forwardedArguments (wrapper : ProcedureWrapper) : String :=
  Text.concat (wrapper.parameters.map fun parameter => ", " ++ parameter.argument)

/-- Creates the command and binds every parameter in order. -/
def command (wrapper : ProcedureWrapper) : List BodyStatement :=
  [.declare commandLocal (providerLocal ++ ".CreateCommand()"),
   .perform (commandLocal ++ ".CommandText = " ++ providerLocal ++ ".DatabasePrefix + " ++
     providerLocal ++ ".SchemaPrefix + " ++ Literal.plain ("." ++ wrapper.name) ++ ";"),
   .perform (commandLocal ++ ".CommandType = CommandType.StoredProcedure;")] ++
  wrapper.parameters.map (·.binding)

/-- Copies the values of the output parameters back in order. -/
def copyOut (wrapper : ProcedureWrapper) : List BodyStatement :=
  (wrapper.parameters.filter (·.isOutput)).map (·.copyBack)

/-- The local that holds the data set. -/
def dataSetLocal : String := localStart ++ "ds"

/-- The name of the method that returns the data set. -/
def dataSetMethod (wrapper : ProcedureWrapper) : String := wrapper.methodName ++ "_DataSet"

/-- The name of the method that returns the result object. -/
def dataObjectMethod (wrapper : ProcedureWrapper) : String := wrapper.methodName ++ "_DataObject"

/-- Calls the data set method with the arguments of the calling method. -/
def fetchDataSet (wrapper : ProcedureWrapper) : BodyStatement :=
  .declare dataSetLocal
    (wrapper.dataSetMethod ++ "(" ++ providerLocal ++ wrapper.forwardedArguments ++ ")")

/-- Executes the command and returns the number of rows. -/
def countBody (wrapper : ProcedureWrapper) : List BodyStatement :=
  let result := localStart ++ "result_value"
  wrapper.command ++
  [.declare result (providerLocal ++ ".ExecuteNonQuery(" ++ commandLocal ++ ")")] ++
  wrapper.copyOut ++ [.perform ("return " ++ result ++ ";")]

/-- Returns the first table of the data set. -/
def firstTableBody (wrapper : ProcedureWrapper) : List BodyStatement :=
  [wrapper.fetchDataSet,
   .perform ("return " ++ dataSetLocal ++ ".Tables.Count > 0 ? " ++ dataSetLocal ++
     ".Tables[0] : null;")]

/-- Executes the command and returns all its tables. -/
def dataSetBody (wrapper : ProcedureWrapper) : List BodyStatement :=
  wrapper.command ++
  [.declare dataSetLocal (providerLocal ++ ".GetDataSet(" ++ commandLocal ++ ")")] ++
  wrapper.copyOut ++ [.perform ("return " ++ dataSetLocal ++ ";")]

/-- The local that holds the result object. -/
def resultLocal : String := localStart ++ "res"

/-- The local that holds the object for one row. -/
def rowObjectLocal : String := localStart ++ "obj"

/-- Fills the list for one result table from the table of that index, if there is one. -/
def collectTable (trims : Bool) (result : ResultClass) : List BodyStatement :=
  let index := result.index.repr
  let list := localStart ++ "tab_" ++ index
  let row := localStart ++ "row_" ++ index
  [.declare list ("new List<" ++ result.className ++ ">()"),
   .provided (dataSetLocal ++ ".Tables.Count > " ++ index)
     [.forEach "DataRow" row (dataSetLocal ++ ".Tables[" ++ index ++ "].Rows")
       [.declare rowObjectLocal ("new " ++ result.className ++ "()"),
        .perform (rowObjectLocal ++ ".FillFromDataRow(" ++ row ++ ", " ++ Literal.truth trims ++
          ");"),
        .perform (list ++ ".Add(" ++ rowObjectLocal ++ ");")]],
   .perform (resultLocal ++ ".Table_" ++ index ++ " = " ++ list ++ ";")]

/-- Fetches the data set and copies every result table into the result object. -/
def dataObjectBody (wrapper : ProcedureWrapper) (aggregate : ResultAggregate) :
    List BodyStatement :=
  [wrapper.fetchDataSet,
   .declare resultLocal ("new " ++ aggregate.className ++ "()")] ++
  aggregate.tables.flatMap (collectTable aggregate.trims) ++
  [.perform ("return " ++ resultLocal ++ ";")]

/-- What a method of the wrapper is for. -/
def purpose (wrapper : ProcedureWrapper) (result : String) : String :=
  "Wrapper for stored procedure " ++ wrapper.name ++ result ++ "."

/-- The methods of a wrapper: the plain one always, the data set for data, the result object for a
sampled result. -/
def methods (wrapper : ProcedureWrapper) : List WrapperMethod :=
  ⟨wrapper.methodName, wrapper.returnType, wrapper.purpose "",
    if wrapper.returnsData then wrapper.firstTableBody else wrapper.countBody⟩ ::
  (if wrapper.returnsData then
    [⟨wrapper.dataSetMethod, "DataSet", wrapper.purpose " returning DataSet",
      wrapper.dataSetBody⟩]
  else
    []) ++
  match wrapper.aggregate with
  | some aggregate =>
    [⟨wrapper.dataObjectMethod, aggregate.qualifiedName,
      wrapper.purpose " returning data object", wrapper.dataObjectBody aggregate⟩]
  | none => []

open Code

/-- A method on the static surface. -/
def staticMethod (wrapper : ProcedureWrapper) (method : WrapperMethod) : List Code :=
  [summary method.purpose,
   block ["public static " ++ method.returnType ++ " " ++ method.name ++ "(IDataProviderSp " ++
       providerLocal ++ wrapper.staticParameters,
     ")"] (BodyStatement.codeOfAll method.body)]

/-- A method on the interface surface. -/
def interfaceMethod (wrapper : ProcedureWrapper) (method : WrapperMethod) : List Code :=
  [summary method.purpose,
   line (method.returnType ++ " " ++ method.name ++ "(" ++ wrapper.signature ++ ");")]

/-- A method on the object surface: it calls the static method of the same name. -/
def objectMethod (staticClass : String) (wrapper : ProcedureWrapper) (method : WrapperMethod) :
    List Code :=
  [summary method.purpose,
   block ["public " ++ method.returnType ++ " " ++ method.name ++ "(" ++ wrapper.signature ++ ")"]
     [line ("return " ++ staticClass ++ "." ++ method.name ++ "(this.provider" ++
       wrapper.forwardedArguments ++ ");")]]

/-- The part of the static class for one procedure, with empty lines between the methods. -/
def staticCode (wrapper : ProcedureWrapper) : List Code :=
  blank :: region wrapper.name
    ((wrapper.methods.map wrapper.staticMethod).intersperse [blank]).flatten

/-- The part of the interface for one procedure. -/
def interfaceCode (wrapper : ProcedureWrapper) : List Code :=
  region wrapper.name (wrapper.methods.flatMap wrapper.interfaceMethod)

/-- The part of the object class for one procedure. -/
def objectCode (staticClass : String) (wrapper : ProcedureWrapper) : List Code :=
  region wrapper.name (wrapper.methods.flatMap (wrapper.objectMethod staticClass))

/-- The code of the result classes of a procedure. -/
def resultCode (wrapper : ProcedureWrapper) : List Code :=
  match wrapper.aggregate with
  | some aggregate => aggregate.code wrapper.name
  | none => []

end ProcedureWrapper

/-- The three surfaces over a list of wrappers, and the fixed helpers of the static class. -/
structure ProcedureSurfaces where
  className : String
  helpers : String
  wrappers : List ProcedureWrapper

namespace ProcedureSurfaces

open Code

/-- The name of the interface. -/
def interfaceName (surfaces : ProcedureSurfaces) : String := "I" ++ surfaces.className

/-- The name of the object class. -/
def objectName (surfaces : ProcedureSurfaces) : String := surfaces.className ++ "Obj"

/-- The result classes of all procedures, in a region of their own when there are any. -/
def resultsCode (surfaces : ProcedureSurfaces) : List Code :=
  onlyIf (surfaces.wrappers.any (·.aggregate.isSome))
    (blank :: region "result table wrappers"
      (surfaces.wrappers.flatMap (·.resultCode)))

/-- The static class. -/
def staticClass (surfaces : ProcedureSurfaces) : List Code :=
  [summary "Public static class containing stored-procedure wrappers.",
   block ["public static class " ++ surfaces.className]
     ([blank, verbatim surfaces.helpers] ++ surfaces.wrappers.flatMap (·.staticCode) ++
       surfaces.resultsCode)]

/-- The interface. -/
def interfaceType (surfaces : ProcedureSurfaces) : List Code :=
  [summary "Public interface containing stored-procedure wrappers.",
   block ["public partial interface " ++ surfaces.interfaceName]
     (surfaces.wrappers.flatMap (·.interfaceCode))]

/-- The class whose objects are bound to a data provider. -/
def objectClass (surfaces : ProcedureSurfaces) : List Code :=
  [summary "Stored-procedure wrappers bound to a data provider.",
   block ["public partial class " ++ surfaces.objectName ++ " : " ++ surfaces.interfaceName]
     ([blank,
       line "IDataProviderSp provider;",
       blank,
       summary "Public constructor.",
       line ("public " ++ surfaces.objectName ++ "(IDataProviderSp _provider) " ++
         inBraces "this.provider = _provider;"),
       blank] ++
      surfaces.wrappers.flatMap (·.objectCode surfaces.className))]

/-- The code of all three surfaces. -/
def code (surfaces : ProcedureSurfaces) : List Code :=
  surfaces.staticClass ++ [blank] ++ surfaces.interfaceType ++ [blank] ++ surfaces.objectClass

/-- The text of all three surfaces inside a namespace. -/
def text (surfaces : ProcedureSurfaces) : String := layout 1 surfaces.code

end ProcedureSurfaces

end DataLayer
