import SqlBindings.CommandLine.Run

/-!
The program. It looks at the files that a run may need, runs the request on what it has seen and
carries out the changes. No database driver is built in, so every connection is refused.
-/

open SqlBindings

namespace SqlBindings.Program

def refusingDriver : Catalog.Driver := fun _ _ =>
  .error ⟨"Error", "no database driver is available"⟩

def entryAt (path : Files.Path) : BaseIO (Option Files.Entry) := do
  match ← (IO.FS.readBinFile path.display).toBaseIO with
  | .ok bytes => return some (.file bytes.toList)
  | .error (.noFileOrDirectory _ _ _) => return none
  | .error _ => return some .directory

/-- Adds what stands at a path, and at every directory on the way to it. -/
def lookAlong (files : Files.Tree) (path : Files.Path) : BaseIO Files.Tree :=
  (List.range (path.segments.length + 1)).foldlM (fun files n => do
    let part : Files.Path := ⟨path.root, path.segments.take n⟩
    match files.place part, ← entryAt part with
    | .ok place, some e => return if Files.Tree.isGiven place then files else files.set place e
    | _, _ => return files) files

def pathsOf (g : CommandLine.Generation) (home : Files.Path) : List Files.Path :=
  let output := match g.destination with
    | .standardOutput => []
    | .directory path => [.ofText path]
  (g.connFile.map Files.Path.ofText).toList ++ [Settings.keptFile home g.catalog] ++ output

def variablesOf (g : CommandLine.Generation) : BaseIO (List (String × String)) :=
  [Settings.connectionString, Settings.server].filterMapM fun key => do
    let name := Settings.variableName g.catalog key
    return (← IO.getEnv name).map fun value => (name, value)

def pathOf : List String → String
  | "/" :: names => "/" ++ "/".intercalate names
  | names => "/".intercalate names

/-- Carries out the difference between two trees. -/
def carryOut (before after : Files.Tree) : IO Unit :=
  after.entries.forM fun (place, e) => do
    if before.find? place ≠ some e then
      match e with
      | .directory => IO.FS.createDirAll (pathOf place)
      | .file bytes => IO.FS.writeBinFile (pathOf place) ⟨bytes.toArray⟩

def surroundings : CommandLine.Request → IO (Environment × Files.Tree)
  | .generate g => do
    let home := Files.Path.ofText ((← IO.getEnv "HOME").getD ".")
    let files ← (pathsOf g home).foldlM (fun files path => lookAlong files path) {}
    return (⟨home, ← variablesOf g⟩, files)
  | _ => return (⟨.ofText ".", []⟩, {})

def runRequest (request : CommandLine.Request) : IO UInt32 := do
  let (environment, files) ← surroundings request
  let (completion, world) := request.run environment refusingDriver ⟨files, {}⟩
  carryOut files world.files
  IO.print completion.output
  IO.eprint completion.errors
  return completion.status.toUInt32

end SqlBindings.Program

def main (arguments : List String) : IO UInt32 :=
  SqlBindings.Program.runRequest (SqlBindings.CommandLine.Request.ofArguments arguments)
