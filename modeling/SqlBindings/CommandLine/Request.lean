import SqlBindings.Catalog.Registry
import SqlBindings.CommandLine.Switch

/-!
What a command line asks for. Options in front of the command belong to the program, those behind it
to the command.
-/

namespace SqlBindings.CommandLine

inductive GeneralOption where
  | help
deriving DecidableEq, Repr

def generalSwitches : Switches GeneralOption where
  all := [.help]
  names | .help => ["-h", "--help"]
  demand | .help => .help

inductive GenerateOption where
  | help | catalog | connFile | server | outputDir | stdout | verbose
deriving DecidableEq, Repr

def generateSwitches : Switches GenerateOption where
  all := [.help, .catalog, .connFile, .server, .outputDir, .stdout, .verbose]
  names
    | .help => ["-h", "--help"]
    | .catalog => ["--catalog"]
    | .connFile => ["--conn-file"]
    | .server => ["--server"]
    | .outputDir => ["--output-dir"]
    | .stdout => ["--stdout"]
    | .verbose => ["--verbose", "-v"]
  demand
    | .help => .help
    | .catalog => .value Catalog.CatalogKind.supported
    | .connFile | .server | .outputDir => .value []
    | .stdout | .verbose => .mark
  rivals
    | .outputDir => [.stdout]
    | .stdout => [.outputDir]
    | _ => []

inductive Destination where
  | standardOutput
  | directory (path : String)
deriving DecidableEq, Repr

structure Generation where
  catalog : String
  connFile : Option String
  server : Option String
  destination : Destination
  verbose : Bool
deriving DecidableEq, Repr

/-- The part of the program that explains itself or rejects arguments. -/
inductive Topic where
  | program | generate
deriving DecidableEq, Repr

inductive Request where
  | generate (generation : Generation)
  | help (topic : Topic)
  | nothing
  | misuse (topic : Topic) (fault : Misuse)
deriving DecidableEq, Repr

def generateCommand : String := "generate"

def commandLabel : String := "command"

def defaultCatalog : String := Catalog.CatalogKind.key .sqlServer

def defaultDirectory : String := "generated"

def Generation.ofSelection (s : Switches.Selection GenerateOption) : Generation where
  catalog := (s.value? .catalog).getD defaultCatalog
  connFile := s.value? .connFile
  server := s.value? .server
  destination :=
    if s.has .stdout then .standardOutput
    else .directory ((s.value? .outputDir).getD defaultDirectory)
  verbose := s.has .verbose

namespace Request

/-- What remains of a command line behind its command, given the arguments that were left over in
front of it. -/
def ofGenerateArguments (before arguments : List String) : Request :=
  match generateSwitches.readAll arguments with
  | .error fault => misuse .generate fault
  | .ok readings =>
    match generateSwitches.select {} readings with
    | .error .help => help .generate
    | .error (.misuse fault) => misuse .generate fault
    | .ok selection =>
      match before ++ selection.leftovers with
      | [] => generate (.ofSelection selection)
      | leftovers => misuse .program (.unrecognized leftovers)

def ofCommand (before : List String) (command : String) (arguments : List String) : Request :=
  if command = generateCommand then ofGenerateArguments before arguments
  else misuse .program (.invalidChoice commandLabel command [generateCommand])

/-- Looks for the command; `before` holds the arguments left over so far. -/
def find (before : List String) : List (String × Reading GeneralOption) → Request
  | [] => if before.isEmpty then nothing else misuse .program (.unrecognized before)
  | (command, .word) :: rest => ofCommand before command (rest.map (·.1))
  | (argument, .separator) :: [] => misuse .program (.unrecognized (before ++ [argument]))
  | (argument, .separator) :: _ => ofCommand before argument []
  | (argument, .unknown) :: rest => find (before ++ [argument]) rest
  | (_, .option a isShort attached) :: rest =>
    match generalSwitches.clusterOf a isShort attached with
    | .error fault => misuse .program fault
    | .ok c =>
      match generalSwitches.takeAll {} c.options with
      | .error .help => help .program
      | .error (.misuse fault) => misuse .program fault
      | .ok _ => find (before ++ c.extra.toList) rest

def ofArguments (arguments : List String) : Request :=
  match generalSwitches.readAll arguments with
  | .error fault => misuse .program fault
  | .ok readings => find [] readings

end Request

end SqlBindings.CommandLine
