/-! What can go wrong, by cause. The wording of each failure is in `Failure.message`, and
`Failure.isFatal` says which failures end a run and which concern a single catalog item. -/

namespace DataLayer

/-- A reason why a step could not be done. -/
inductive Failure where
  /-- A database type without a counterpart in the generated code, and where it was met. -/
  | unmappedType (dbType context : String)
  /-- A statement that must single out rows of a table without key columns. -/
  | noKeyColumn (table statement : String)
  /-- A sample execution that did not come to a result. -/
  | sampleFailed (procedure message : String)
  /-- A settings file that does not exist. -/
  | settingsMissing (path : String)
  /-- A catalog that cannot be reached or read at all. -/
  | connectionFailed (message : String)
  /-- A catalog object that cannot be read. -/
  | catalogItem (object message : String)
  /-- Code that cannot be laid out. -/
  | codeGeneration (object message : String)
  /-- An output file that cannot be written. -/
  | outputFailed (message : String)
  /-- Settings or connection data that cannot be used. -/
  | configuration (message : String)
deriving DecidableEq, Repr

namespace Failure

/-- The text shown for a failure. -/
def message : Failure → String
  | unmappedType dbType context => "No type mapping for '" ++ dbType ++ "' (" ++ context ++ ")"
  | noKeyColumn table statement =>
    "No key column found in '" ++ table ++ "' while building " ++ statement ++ " statement"
  | sampleFailed procedure message =>
    "Sample execution of '" ++ procedure ++ "' failed: " ++ message
  | settingsMissing path => "Settings file not found: " ++ path
  | connectionFailed message => "Failed to connect to database: " ++ message
  | catalogItem object message => "Failed to read catalog object '" ++ object ++ "': " ++ message
  | codeGeneration object message => "Code generation failed for '" ++ object ++ "': " ++ message
  | outputFailed message => "Failed to write output: " ++ message
  | configuration message => "Configuration error: " ++ message

/-- Failures that end the whole run. The others leave out one catalog item, one sample or one
statement. -/
def isFatal : Failure → Bool
  | noKeyColumn .. | sampleFailed .. | catalogItem .. => false
  | _ => true

end Failure

end DataLayer
