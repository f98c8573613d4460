import DataLayer.Clips
import DataLayer.Files

/-! Fixed pieces with replacements from a directory. -/

namespace DataLayer.Clips

variable {m : Type → Type} [Monad m] [FileAccess m]

/-- A path below a directory. -/
def pathBelow (directory name : String) : String :=
  if directory = "" ∨ directory.toList.getLast? = some '/' then directory ++ name
  else directory ++ "/" ++ name

/-- Replaces the pieces that the directory has files for. -/
def replaceFrom (directory : String) (clips : Clips) : List Name → ExceptT Failure m Clips
  | [] => pure clips
  | name :: rest => do
    let path := pathBelow directory (name.fileStem ++ ".txt")
    if ← (FileAccess.isFile path : m Bool) then
      match ← (FileAccess.readText path : m (Except ReadFault String)) with
      | .ok text => replaceFrom directory (clips.replace name text) rest
      | .error fault =>
        throw (.configuration ("Failed to read clip '" ++ path ++ "': " ++ fault.message))
    else
      replaceFrom directory clips rest

/-- The built-in pieces with the replacements of a directory, which must exist. -/
def loadDirectory (directory : String) : ExceptT Failure m Clips := do
  if ← (FileAccess.isDirectory directory : m Bool) then
    replaceFrom directory .builtin Name.all
  else
    throw (.configuration ("clips directory '" ++ directory ++ "' does not exist"))

/-- The pieces that the settings ask for. -/
def load (directory : Option String) : ExceptT Failure m Clips :=
  match directory with
  | some path => loadDirectory path
  | none => pure .builtin

end DataLayer.Clips
