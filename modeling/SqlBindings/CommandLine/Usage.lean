import SqlBindings.CommandLine.Request

/-! The texts that explain how to use the program, laid out for 80 columns. -/

namespace SqlBindings.CommandLine.Topic

def name : Topic → String
  | .program => "schemagen"
  | .generate => "schemagen generate"

def usage : Topic → List String
  | .program => ["usage: schemagen [-h] \x7bgenerate\x7d ..."]
  | .generate =>
    ["usage: schemagen generate [-h] [--catalog \x7bsqlserver\x7d] [--conn-file CONN_FILE]",
      "                          [--server SERVER]",
      "                          [--output-dir OUTPUT_DIR | --stdout] [--verbose]"]

/-- What it does and what its arguments mean. -/
def explanation : Topic → List String
  | .program =>
    ["schemagen - typed Python bindings for database schemas",
      "",
      "positional arguments:",
      "  \x7bgenerate\x7d",
      "    generate  Generate bindings from a live database",
      "",
      "options:",
      "  -h, --help  show this help message and exit",
      "",
      "Examples:",
      "  schemagen generate --conn-file dev.yaml --output-dir db",
      "  schemagen generate --server localhost,1433 --stdout"]
  | .generate =>
    ["Introspect tables, stored procedures, functions and table types and write one",
      "Python module per schema",
      "",
      "options:",
      "  -h, --help            show this help message and exit",
      "  --catalog \x7bsqlserver\x7d",
      "                        Database catalog type (default: sqlserver)",
      "  --conn-file CONN_FILE",
      "                        Path to connection config file (default:",
      "                        ~/.schemagen/\x7bcatalog\x7d.yaml)",
      "  --server SERVER       Design-time server address, overrides the connection",
      "                        string's SERVER",
      "  --output-dir OUTPUT_DIR",
      "                        Directory to write the generated package to (default:",
      "                        generated)",
      "  --stdout              Print generated modules instead of writing files",
      "  --verbose, -v         Log progress to stderr"]

def lines (texts : List String) : String := String.join (texts.map (· ++ "\n"))

def help (topic : Topic) : String := lines (topic.usage ++ [""] ++ topic.explanation)

def rejection (topic : Topic) (fault : Misuse) : String :=
  lines (topic.usage ++ [topic.name ++ ": error: " ++ fault.message])

end SqlBindings.CommandLine.Topic
