import DataLayer.Catalog.Record
import DataLayer.Files
import DataLayer.Yaml.Value

/-! Snapshots from a YAML text or file. -/

namespace DataLayer.Snapshot

/-- The snapshot that a text denotes. -/
def ofYaml (text : String) : Except Failure Snapshot :=
  match Yaml.Value.readText Snapshot.read text with
  | .ok snapshot => .ok snapshot
  | .error reason => .error (.connectionFailed ("invalid snapshot: " ++ reason))

variable {m : Type → Type} [Monad m] [FileAccess m]

/-- The snapshot of a file, which must exist. -/
def load (path : String) : ExceptT Failure m Snapshot := do
  if ← (FileAccess.pathExists path : m Bool) then
    match ← (FileAccess.readText path : m (Except ReadFault String)) with
    | .ok text => ofYaml text
    | .error fault =>
      throw (.connectionFailed ("failed to read snapshot " ++ path ++ ": " ++ fault.message))
  else
    throw (.connectionFailed ("snapshot " ++ path ++ " does not exist"))

end DataLayer.Snapshot
