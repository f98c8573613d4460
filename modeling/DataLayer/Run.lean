import DataLayer.Clip.Directory
import DataLayer.CommandLine
import DataLayer.Connection
import DataLayer.Generator
import DataLayer.Introspection
import DataLayer.Settings.Load
import DataLayer.Snapshot.Load

/-! A whole run: reading settings and catalog, generating code and writing it. The output file is
written last, so a run that fails leaves all files as they are. -/

namespace DataLayer.Run

open CommandLine

/-- What a run leaves behind besides files. -/
structure Outcome where
  exitCode : UInt32
  /-- The text for standard output. -/
  output : String := ""
  /-- The text for standard error. -/
  complaint : String := ""
deriving DecidableEq, Repr

/-- The version as it is shown. -/
def versionText : String := "dalgen 0.1.0\n"

/-- The help as it is shown. -/
def helpText : String :=
  "Usage: dalgen [OPTIONS] <SETTINGS>\n\nOptions:\n      --env-file <FILE>\n" ++
    "      --snapshot <FILE>\n  -o, --output <FILE>\n  -v, --verbose\n  -h, --help\n" ++
    "  -V, --version\n"

/-- The settings of a run: an output file among the options goes before the one in the settings. -/
def withOutput (options : Options) (settings : Settings) : Settings :=
  match options.output with
  | some path => { settings with exportFile := path }
  | none => settings

variable {m : Type → Type} [Monad m] [FileAccess m]

/-- The schema of a snapshot. -/
def snapshotSchema (settings : Settings) (path : String) : ExceptT Failure m Schema := do
  let snapshot ← Snapshot.load path
  let (schema, _) :=
    (Introspection.introspect SnapshotCatalog.reader settings).run.run (.ofSnapshot snapshot)
  schema

/-- The schema of a live catalog. There is no access to one, so after its connection data this
always fails. -/
def liveSchema (environment : Environment) (path : String) : ExceptT Failure m Schema := do
  let connection ← Connection.load environment path
  throw (.connectionFailed ("no access to " ++ connection.redacted ++ "; pass --snapshot"))

/-- Reads settings and catalog, generates the code and writes it. -/
def generate (environment : Environment) (options : Options) : ExceptT Failure m Unit := do
  let settings := withOutput options (← Settings.load options.settings)
  let schema ←
    match options.snapshot with
    | some path => snapshotSchema settings path
    | none => liveSchema environment options.environmentFile
  let clips ← Clips.load settings.clipsDirectory
  let code ← Generator.generate { settings := settings, clips := clips } schema
  match ← (FileAccess.writeText settings.exportFile code : m (Except String Unit)) with
  | .ok () => pure ()
  | .error reason => throw (.outputFailed reason)

/-- Does what the arguments ask for. -/
def execute (environment : Environment) (arguments : List String) : m Outcome := do
  match request arguments with
  | .error misuse => return { exitCode := 2, complaint := misuse.message }
  | .ok .version => return { exitCode := 0, output := versionText }
  | .ok .help => return { exitCode := 0, output := helpText }
  | .ok (.run options) =>
    match ← (generate environment options).run with
    | .ok () => return { exitCode := 0 }
    | .error failure => return { exitCode := 1, complaint := failure.message }

end DataLayer.Run
