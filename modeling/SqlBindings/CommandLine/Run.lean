import SqlBindings.CommandLine.Usage
import SqlBindings.Render.Package
import SqlBindings.Settings

/-!
Runs of the program on a world of files and a session with a server. A run ends with a status and
with what it has printed; a failure is printed and makes the status one.
-/

namespace SqlBindings.CommandLine

structure World where
  files : Files.Tree := {}
  session : Catalog.Session := {}

namespace World

variable {α : Type}

def onSession (run : Run Catalog.Session α) : Run World α :=
  run.onPart World.session fun session world => { world with session }

def changeFiles (change : Files.Tree → Except Failure Files.Tree) : Run World Unit := do
  let files ← Run.ofExcept (change (← get).state.files)
  modify fun t => { t with state := { t.state with files } }

end World

namespace Generation

def overrideServer (g : Generation) (settings : Settings) : Settings :=
  match g.server.filter (· != "") with
  | some server => Datum.put settings Settings.server (.text server)
  | none => settings

/-- The settings of a generation, which need a connection string. -/
def settings (g : Generation) (environment : Environment) : Run World Settings := do
  let loaded ← Settings.load environment (← get).state.files g.connFile g.catalog
  let settings := g.overrideServer loaded
  Run.ofExcept (Settings.validate environment.home g.catalog settings)
  return settings

def package (g : Generation) (environment : Environment) (driver : Catalog.Driver) :
    Run World (List Package.File) := do
  let settings ← g.settings environment
  let bundles ← World.onSession (Catalog.introspectDatabase driver settings g.catalog)
  Run.ofExcept (Package.ofBundles bundles)

def writeFile (directory : Files.Path) (file : Package.File) : Run World Unit := do
  let path := directory.join (.ofText file.1)
  World.changeFiles fun files => files.write path (Text.encodeUtf8 file.2)
  Run.log .info .commandLine ("Wrote " ++ path.display)

/-- Writes a package into a directory, which is made if it is missing. -/
def writeFiles (directory : Files.Path) (package : List Package.File) : Run World Unit := do
  World.changeFiles fun files => files.makeDirectories directory
  package.forM (writeFile directory)

def listing (package : List Package.File) : String :=
  String.join (package.map fun file => "# === " ++ file.1 ++ " ===\n" ++ file.2 ++ "\n")

/-- What is printed once a package is written. The file that makes it a package is not counted. -/
def summary (directory : String) (package : List Package.File) : String :=
  "Generated " ++ toString (package.length - 1) ++ " schema module(s) in " ++ directory ++ "\n"

/-- Generates a package and delivers it. Gives what is printed. -/
def deliver (g : Generation) (environment : Environment) (driver : Catalog.Driver) :
    Run World String := do
  let package ← g.package environment driver
  match g.destination with
  | .standardOutput => return listing package
  | .directory path =>
    writeFiles (.ofText path) package
    return summary path package

end Generation

structure Completion where
  status : Nat
  output : String := ""
  /-- What is printed about errors, with the log. -/
  errors : String := ""
deriving DecidableEq, Repr

namespace Completion

def logLine (e : LogEntry) : String :=
  e.level.label ++ " " ++ e.source.label ++ ": " ++ e.message ++ "\n"

/-- The log as it is printed. Progress is printed only on demand. -/
def logText (verbose : Bool) (log : List LogEntry) : String :=
  String.join ((log.filter fun e => verbose || e.level != .info).map logLine)

def ofOutcome (verbose : Bool) (outcome : Except Failure String) (log : List LogEntry) :
    Completion :=
  match outcome with
  | .ok output => ⟨0, output, logText verbose log⟩
  | .error failure => ⟨1, "", logText verbose log ++ "Error: " ++ failure.message ++ "\n"⟩

end Completion

def Request.run (request : Request) (environment : Environment) (driver : Catalog.Driver)
    (world : World) : Completion × World :=
  match request with
  | .help topic => (⟨0, topic.help, ""⟩, world)
  | .nothing => (⟨1, Topic.help .program, ""⟩, world)
  | .misuse topic fault => (⟨2, "", topic.rejection fault⟩, world)
  | .generate g =>
    let (outcome, trace) := (g.deliver environment driver).start world
    (Completion.ofOutcome g.verbose outcome trace.log, trace.state)

/-- Runs the program on its arguments. -/
def run (arguments : List String) (environment : Environment) (driver : Catalog.Driver)
    (world : World) : Completion × World :=
  (Request.ofArguments arguments).run environment driver world

end SqlBindings.CommandLine
