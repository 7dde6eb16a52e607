import SqlBindings.Files.Tree
import SqlBindings.Log
import SqlBindings.Yaml.Value

/-!
The settings of a connection. They come from one source, the first one that is there: a file the
caller names, the file kept for the catalog in the home directory, the environment, or nothing at all.
Sources are never merged, and one that cannot be read does not give way to the next.
-/

namespace SqlBindings

structure Environment where
  home : Files.Path
  values : List (String × String) := []

/-- Settings by their keys, which are in lower case. -/
abbrev Settings := List (String × Datum)

namespace Settings

inductive Source where
  | file (path : Files.Path) (entry : Option Files.Entry)
  /-- Values that the environment gives; there is at least one. -/
  | environment (values : List (String × String))
  | nothing
deriving DecidableEq, Repr

/-- The directory below the home directory that holds a file for each catalog. -/
def directory : String := ".schemagen"

def keptFile (home : Files.Path) (catalog : String) : Files.Path :=
  (home.join (.ofText directory)).join (.ofText (Text.lower catalog ++ ".yaml"))

/-- The setting without which there is no connection. -/
def connectionString : String := "connection_string"

/-- The setting that replaces the server of the connection string. -/
def server : String := "server"

def variableName (catalog key : String) : String := Text.upper catalog ++ "_" ++ Text.upper key

/-- The settings for a catalog that the environment gives. Empty variables give none. -/
def fromVariables (values : List (String × String)) (catalog : String) : List (String × String) :=
  [connectionString, server].filterMap fun key =>
    ((values.lookup (variableName catalog key)).filter (· != "")).map fun value => (key, value)

/-- The source of the settings for a catalog. An empty name of a file names none. -/
def source (environment : Environment) (files : Files.Tree) (named : Option String)
    (catalog : String) : Except Failure Source :=
  match named.filter (· != "") with
  | some name => do
    let path := Files.Path.ofText name
    return .file path (← files.look path)
  | none => do
    let path := keptFile environment.home catalog
    match ← files.look path with
    | some entry => return .file path (some entry)
    | none =>
      match fromVariables environment.values catalog with
      | [] => return .nothing
      | values => return .environment values

def entriesOfBytes (path : String) (bytes : List UInt8) : Except Failure (Yaml.Entries Datum) := do
  let text ← (Text.decodeUtf8 bytes).mapError .notUtf8
  match Yaml.entries (Text.normalizeLineEnds text) with
  | .ok entries => return entries
  | .error .invalid => throw (.settingsInvalid path)
  | .error .notMapping => throw (.settingsNotMapping path)
  | .error (.value fault) => throw (.settingValue fault)

/-- The settings of a file. Their keys are shown as texts in lower case. -/
def ofEntries (entries : Yaml.Entries Datum) : Except Failure Settings := do
  let named ← entries.mapM fun (key, value) => do
    let shown ← key.displayed.mapError fun fault => .settingValue (.number fault)
    return (Text.lower shown, value)
  return named.foldl (fun settings (name, value) => Datum.put settings name value) []

section

variable {σ : Type}

def empty : Settings := [(connectionString, .text ""), (server, .null)]

def Source.read (catalog : String) : Source → Run σ Settings
  | file path (some (.file bytes)) => do
    let entries ← Run.ofExcept (entriesOfBytes path.display bytes)
    Run.log .info .settings ("Loaded connection config from: " ++ path.display)
    Run.ofExcept (ofEntries entries)
  | file path _ => throw (.settingsNotFound path.display)
  | environment values => do
    Run.log .info .settings
      ("Loaded connection config from " ++ Text.upper catalog ++ "_* environment variables")
    return values.map fun (key, value) => (key, .text value)
  | nothing => do
    Run.log .warning .settings ("No connection config found for " ++ catalog)
    return empty

def load (environment : Environment) (files : Files.Tree) (named : Option String)
    (catalog : String) : Run σ Settings := do
  (← Run.ofExcept (source environment files named catalog)).read catalog

end

/-- Settings need a connection string. -/
def validate (home : Files.Path) (catalog : String) (settings : Settings) : Except Failure Unit :=
  if (Datum.get connectionString settings).isSet then .ok ()
  else .error (.connectionStringMissing catalog (keptFile home catalog).display
    (variableName catalog connectionString))

end Settings

end SqlBindings
