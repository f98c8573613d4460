import DataLayer.Failure
import DataLayer.Identifier
import DataLayer.TableFilter

/-! The options of a run: what is generated and how it is named. Every option has a default. -/

namespace DataLayer

/-- The options of a run. -/
structure Settings where
  /-- File the generated code is written to. -/
  exportFile : String := "dal.cs"
  /-- Namespace around the generated code. -/
  codeNamespace : String := "Dal"
  /-- Code placed right after the namespace opens. -/
  startCode : Option String := none
  /-- Further namespaces to import. -/
  additionalNamespaces : List String := []
  /-- Start of the class names of tables and results. -/
  classPrefix : String := "Table"
  /-- Start of the class names of views. -/
  viewPrefix : String := "View"
  /-- Start of member names. -/
  memberPrefix : String := ""
  /-- Base class of the generated classes. -/
  baseClass : Option String := none
  /-- Whether column names are lowered in the generated code. -/
  lowercaseNames : Bool := true
  /-- Tables to read; none means all. -/
  selectedTables : List String := []
  /-- Tables and views to leave out. -/
  excludedTables : List String := []
  /-- Start of the names of tables and views to leave out. -/
  excludedPrefix : Option String := none
  /-- Catalog schema that holds the procedures. -/
  catalogSchema : String := "dbo"
  /-- Leaves out the attribute classes and the mapping table. -/
  omitInfrastructure : Bool := false
  /-- Leaves out the basic data provider. -/
  omitProvider : Bool := false
  /-- Leaves out the query context. -/
  omitContext : Bool := true
  /-- Whether entity classes offer query objects. -/
  queryObjects : Bool := true
  /-- Whether entity classes hold SQL statements. -/
  sqlStatements : Bool := false
  /-- Directory with replacements for the fixed pieces of code. -/
  clipsDirectory : Option String := none
  /-- Whether stored procedures are read and wrapped. -/
  useProcedures : Bool := false
  /-- Name of the class that holds the procedure wrappers. -/
  procedureClass : String := "StoredProcedures"
  /-- Start of the names of procedure wrappers. -/
  procedurePrefix : String := ""
  /-- Whether procedures may return data. -/
  dataProcedures : Bool := true
  /-- Start of the names of procedures that return data. -/
  dataPrefix : String := "grp_"
  /-- Comment that a definition must contain for its results to be sampled. -/
  wrapperFlag : Option String := none
  /-- Whether result wrappers trim their texts. -/
  trimResults : Bool := false
  /-- Time limit of a sample execution in seconds. -/
  sampleSeconds : Option Nat := none
  /-- Whether procedures are sampled with placeholder arguments. -/
  sampleWithArguments : Bool := false
deriving DecidableEq, Repr

namespace Settings

open Text

/-- Trims the entries of a list and drops blank ones. -/
def cleanList (entries : List String) : List String := (entries.map trim).filter (· != "")

/-- Trims an optional text and drops a blank one. -/
def cleanOption (entry : Option String) : Option String :=
  match entry with
  | none => none
  | some text => if trim text = "" then none else some (trim text)

/-- Drops blank entries and brings the exclusions to upper case. -/
def normalize (settings : Settings) : Settings :=
  { settings with
    additionalNamespaces := cleanList settings.additionalNamespaces
    selectedTables := cleanList settings.selectedTables
    excludedTables := (cleanList settings.excludedTables).map upper
    excludedPrefix := (cleanOption settings.excludedPrefix).map upper
    wrapperFlag := cleanOption settings.wrapperFlag
    baseClass := cleanOption settings.baseClass }

/-- Whether the text is one identifier without dots. -/
def isClassName (text : String) : Bool := Identifier.isPath text && !text.toList.contains '.'

/-- Accepts settings whose namespace is a path of identifiers and whose procedure class, when it is
used, is one identifier. -/
def validate (settings : Settings) : Except Failure Unit :=
  if !Identifier.isPath settings.codeNamespace then
    .error (.configuration
      ("code_namespace '" ++ settings.codeNamespace ++ "' is not a valid namespace"))
  else if settings.useProcedures && !isClassName settings.procedureClass then
    .error (.configuration
      ("sp_class_name '" ++ settings.procedureClass ++ "' is not a valid class name"))
  else
    .ok ()

/-- Settings as they take effect: normalised, then validated. -/
def prepare (settings : Settings) : Except Failure Settings := do
  settings.normalize.validate
  pure settings.normalize

/-- The tables that the settings select and exclude. -/
def tableFilter (settings : Settings) : TableFilter where
  include? := if settings.selectedTables.isEmpty then none else some settings.selectedTables
  excluded := settings.excludedTables
  excludedPrefix := settings.excludedPrefix

/-- Whether a procedure of this name counts as returning data. -/
def returnsData (settings : Settings) (procedure : String) : Bool :=
  settings.dataProcedures && startsWith settings.dataPrefix procedure

/-- Whether a procedure with this definition is sampled: always without a flag, else when the
definition contains the flag as a comment. -/
def wantsSample (settings : Settings) (definition : Option String) : Bool :=
  match settings.wrapperFlag with
  | none => true
  | some flag =>
    match definition with
    | none => false
    | some text => contains ("-- " ++ flag) text

/-- The least time limit of a sample execution, in seconds. -/
def leastSampleSeconds : Nat := 30

/-- The time limit of a sample execution in seconds; a limit can only be raised. -/
def sampleLimit (settings : Settings) : Nat :=
  max leastSampleSeconds (settings.sampleSeconds.getD leastSampleSeconds)

/-- The base class of generated classes. -/
def baseClassName (settings : Settings) : String := settings.baseClass.getD "object"

end Settings

end DataLayer
