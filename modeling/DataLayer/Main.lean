import DataLayer.Run

/-! The command line program. -/

namespace DataLayer

/-- The place that a path means, seen from the working directory. -/
def placeOf (path : String) := do
  return (← IO.currentDir) / path

/-- Access to the files of the system. -/
instance : FileAccess IO where
  pathExists path := do
    if path = "" then return false
    (← placeOf path).pathExists
  isDirectory path := do
    if path = "" then return false
    (← placeOf path).isDir
  isFile path := do
    if path = "" then return false
    try return (← (← placeOf path).metadata).type == .file
    catch _ => return false
  readText path := do
    let place ← placeOf path
    if !(← place.pathExists) then return .error .notFound
    if ← place.isDir then return .error .isDirectory
    match String.fromUTF8? (← IO.FS.readBinFile place) with
    | some text => return .ok text
    | none => return .error .notText
  writeText path text := do
    let place ← placeOf path
    try
      if let some directory := place.parent then IO.FS.createDirAll directory
      IO.FS.writeFile place text
      return .ok ()
    catch error => return .error error.toString

/-- The variables that describe a connection, as far as they are set. -/
def connectionVariables : IO Environment := do
  let names := ["DB_HOST", "DB_PORT", "DB_NAME", "DB_USER", "DB_PASSWORD", "DB_TRUST_CERT"]
  let bindings ← names.filterMapM fun name => do
    return (← IO.getEnv name).map fun value => (name, value)
  return { bindings := bindings }

end DataLayer

/-- Runs the program on its arguments. -/
def main (arguments : List String) : IO UInt32 := do
  let outcome ← DataLayer.Run.execute (m := IO) (← DataLayer.connectionVariables) arguments
  IO.print outcome.output
  if outcome.complaint != "" then IO.eprintln outcome.complaint
  return outcome.exitCode
