import DataLayer.Files
import DataLayer.Settings.Record
import DataLayer.Yaml.Value

/-! Settings from a YAML text or file. Loaded settings are normalised and valid. -/

namespace DataLayer.Settings

/-- The settings that a text denotes. A blank text leaves every option at its default. -/
def ofYaml (text : String) : Except Failure Settings :=
  if Text.trim text = "" then prepare {}
  else
    match Yaml.Value.readText Settings.read text with
    | .ok settings => settings.prepare
    | .error reason => .error (.configuration ("Invalid settings: " ++ reason))

variable {m : Type → Type} [Monad m] [FileAccess m]

/-- The settings of a file, which must exist. -/
def load (path : String) : ExceptT Failure m Settings := do
  if ← (FileAccess.pathExists path : m Bool) then
    match ← (FileAccess.readText path : m (Except ReadFault String)) with
    | .ok text => ofYaml text
    | .error fault =>
      throw (.configuration ("Failed to read " ++ path ++ ": " ++ fault.message))
  else
    throw (.settingsMissing path)

end DataLayer.Settings
