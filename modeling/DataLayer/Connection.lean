import DataLayer.Environment
import DataLayer.Files
import DataLayer.Text.Case
import DataLayer.Text.Numeral

/-! How a live catalog is reached. The data come from environment variables, which a file may
supplement. -/

namespace DataLayer

/-- The data of a connection. -/
structure Connection where
  host : String := "localhost"
  tcpPort : UInt16 := 1433
  database : String
  user : String
  password : String
  /-- Whether the certificate of the server is accepted as it is. -/
  trustCertificate : Bool := false
deriving DecidableEq, Repr

namespace Connection

/-- The connection as it may be shown, without its password. -/
def redacted (connection : Connection) : String :=
  "Server=tcp:" ++ connection.host ++ "," ++ connection.tcpPort.toNat.repr ++ ";Database=" ++
    connection.database ++ ";User Id=" ++ connection.user ++ ";Password=***"

/-- Reads a number of 16 bits: decimal digits, perhaps after a plus sign. -/
def tcpPort? (text : String) : Option UInt16 := do
  let digits := match text.toList with
    | '+' :: rest => rest
    | characters => characters
  let number ← Text.numeral? 10 digits
  if fits : number < UInt16.size then some (UInt16.ofNatLT number fits) else none

/-- Reads a truth value; a blank text is false. -/
def truth? (text : String) : Option Bool :=
  let word := Text.trim text
  if word = "" then some false
  else if Text.sameIgnoringAsciiCase word "true" || word == "1" then some true
  else if Text.sameIgnoringAsciiCase word "false" || word == "0" then some false
  else none

/-- The value of a variable that must be set. -/
def required (environment : Environment) (name : String) : Except Failure String :=
  match environment.get? name with
  | some value => .ok value
  | none => .error (.configuration (name ++ " environment variable is required"))

/-- The connection that the variables describe. -/
def ofEnvironment (environment : Environment) : Except Failure Connection := do
  let host := (environment.get? "DB_HOST").getD "localhost"
  let some tcpPort := tcpPort? ((environment.get? "DB_PORT").getD "1433")
    | throw (.configuration "DB_PORT must be a valid port number")
  let database ← required environment "DB_NAME"
  let user ← required environment "DB_USER"
  let password ← required environment "DB_PASSWORD"
  let some trustCertificate := truth? ((environment.get? "DB_TRUST_CERT").getD "")
    | throw (.configuration "DB_TRUST_CERT must be true or false")
  pure
    { host := host
      tcpPort := tcpPort
      database := database
      user := user
      password := password
      trustCertificate := trustCertificate }

variable {m : Type → Type} [Monad m] [FileAccess m]

/-- The connection that the variables and, if it exists, a file of assignments describe. -/
def load (environment : Environment) (path : String) : ExceptT Failure m Connection := do
  if ← (FileAccess.pathExists path : m Bool) then
    match ← (FileAccess.readText path : m (Except ReadFault String)) with
    | .error fault =>
      throw (.configuration ("Failed to load " ++ path ++ ": " ++ fault.message))
    | .ok text =>
      match environment.assignAll text with
      | some extended => ofEnvironment extended
      | none =>
        throw (.configuration ("Failed to load " ++ path ++ ": a line is no assignment"))
  else
    ofEnvironment environment

end Connection

end DataLayer
