import SqlBindings.Failure
import SqlBindings.Text.Case

/-!
Names in generated code. A database name keeps its spelling; one that collides with a keyword or
with a name the generated code uses itself gets a trailing underscore.
-/

namespace SqlBindings.Name

def keywords : List String :=
  ["False", "None", "True", "and", "as", "assert", "async", "await", "break", "class", "continue",
    "def", "del", "elif", "else", "except", "finally", "for", "from", "global", "if", "import",
    "in", "is", "lambda", "nonlocal", "not", "or", "pass", "raise", "return", "try", "while",
    "with", "yield"]

/-- Names that generated modules bind themselves: locals of their methods, imported modules,
builtins used in annotations, and the members of generated classes. -/
def reserved : List String :=
  ["cls", "db", "cursor", "row", "rows", "value", "values",
    "datetime", "decimal", "uuid", "dataclass", "pyodbc",
    "List", "Optional", "Tuple", "NoRowReturnedError", "SqlConn",
    "bool", "bytes", "float", "int", "list", "str", "tuple",
    "TYPE_NAME", "SCHEMA_NAME", "from_rows", "from_cursor", "to_rows", "to_parameter", "execute"]

def schemaAliasPrefix : String := "_schema_"

/-- The name under which a generated module imports the module of another schema. -/
def schemaAlias (schema : String) : String := schemaAliasPrefix ++ schema

def bindPrefix : String := "@"

/-- Escapes keywords; refuses what is no identifier. -/
def escapeKeyword (name : String) : Except Failure String :=
  if name = "" then .error .emptyName
  else if !Text.isIdentifier name then .error (.notIdentifier name)
  else .ok (if keywords.contains name then name ++ "_" else name)

def isTaken (name : String) : Bool :=
  reserved.contains name || name.startsWith schemaAliasPrefix

def attributeName (name : String) : Except Failure String := do
  let escaped ← escapeKeyword name
  return if isTaken escaped then escaped ++ "_" else escaped

/-- A name that stands unescaped as the name of a class. -/
def checkClassName (name : String) : Except Failure Unit := do
  if (← escapeKeyword name) ≠ name then throw (.keywordClassName name)

/-- A parameter's name without its leading `@`, the first character in lower case. -/
def ofParameter (raw : String) : Except Failure String :=
  match raw.toList.dropWhile (· == '@') with
  | [] => .error (.emptyParameterName raw)
  | c :: rest =>
    let name := String.ofList (Text.lowerChars [c] ++ rest)
    if Text.isIdentifier name then .ok name else .error (.parameterNotIdentifier raw)

end SqlBindings.Name
