import SqlBindings.Attribute
import SqlBindings.Sql.QualifiedName

/-!
What bindings are generated for: table types and commands. A command is a stored procedure, a
function, the getter of a table, or raw SQL.
-/

namespace SqlBindings

inductive Returns where
  | nothing
  | single (type : SqlType) (nullable : Bool)
  | table (columns : List Attribute)
deriving DecidableEq, Repr

inductive CommandKind where
  | storedProcedure | function | tableGetter
  | rawSql (text : String)
deriving DecidableEq, Repr

structure Command where
  schema : String
  name : String
  qualifiedName : String
  parameters : List Attribute
  returns : Returns
  kind : CommandKind
deriving DecidableEq, Repr

structure TableType where
  schema : String
  name : String
  columns : List Attribute
deriving DecidableEq, Repr

namespace Returns

/-- A table needs a column, and its columns need distinct names. -/
def ofColumns (columns : List Attribute) : Except Failure Returns :=
  if columns.isEmpty then .error (.rejected .tableReturn [⟨[.field "columns"], .tooShort⟩])
  else do
    Attribute.checkDistinct columns
    return .table columns

def tableOrNothing (columns : List Attribute) : Except Failure Returns :=
  if columns.isEmpty then .ok .nothing else ofColumns columns

def label : Returns → String
  | nothing => "none"
  | single _ _ => "single"
  | table _ => "table"

def checkSingle : Check Returns :=
  .record .singleReturn fun fields => do
    let type ← Check.required fields "db_type" SqlType.check
    let nullable ← Check.required fields "nullable" .bool
    return single <$> type <*> nullable

def checkTable : Check Returns :=
  .record .tableReturn fun fields => do
    let columns ← Check.required fields "columns"
      (.ensuring (.someOf Attribute.check) Attribute.checkDistinct)
    return table <$> columns

def checkOfLabel? : String → Option (RecordKind × Check Returns)
  | "none" => some (.noReturn, .record .noReturn fun _ => return .accepted nothing)
  | "single" => some (.singleReturn, checkSingle)
  | "table" => some (.tableReturn, checkTable)
  | _ => none

/-- A record that names its own shape. -/
def check : Check Returns
  | .record fields => match fields.lookup "shape" with
    | none => return .breaks .shapeMissing
    | some shape => match shape with
      | .text label => match checkOfLabel? label with
        | some (_, shapeCheck) => return (← shapeCheck (.record fields)).under (.field label)
        | none => return .breaks (.shapeUnknown label)
      | other => return .breaks (.shapeUnknown other.display)
  | _ => return .breaks .shapeSourceExpected

def toDatum : Returns → Datum
  | nothing => .record [("shape", .text "none")]
  | single type nullable =>
    .record [("shape", .text "single"), ("db_type", type.toDatum), ("nullable", .bool nullable)]
  | table columns =>
    .record [("shape", .text "table"), ("columns", .list (columns.map Attribute.toDatum))]

end Returns

namespace CommandKind

def label : CommandKind → String
  | storedProcedure => "STORED_PROCEDURE"
  | function => "FUNCTION"
  | tableGetter => "TABLE_GETTER"
  | rawSql _ => "RAW_SQL"

def text? : CommandKind → Option String
  | rawSql text => some text
  | _ => none

/-- The kinds by label; raw SQL still lacks its text. -/
def kinds : List (String × Option CommandKind) :=
  [storedProcedure, function, tableGetter].map (fun kind => (kind.label, some kind)) ++
    [("RAW_SQL", none)]

/-- A kind from its parts, where exactly raw SQL has a text. -/
def ofParts (kind : Option CommandKind) (text : Option String) : Verdict CommandKind :=
  match kind, text with
  | some kind, none => .accepted kind
  | none, some text => .accepted (rawSql text)
  | _, _ => .breaks (.joint "sql is required for, and only for, raw SQL commands")

end CommandKind

namespace Command

/-- A command that passes the rules on its name and its parameters. -/
def make (schema name : String) (parameters : List Attribute) (returns : Returns)
    (kind : CommandKind) : Except Failure Command := do
  Name.checkClassName name
  Attribute.checkDistinct parameters
  return ⟨schema, name, Sql.qualifiedName schema name, parameters, returns, kind⟩

/-- A function, which must return something. -/
def ofFunction (schema name : String) (parameters : List Attribute) (returns : Returns) :
    Except Failure Command :=
  match returns with
  | .nothing => .error (.functionWithoutReturn (Sql.qualifiedName schema name))
  | returns => make schema name parameters returns .function

def ofStoredProcedure (schema name : String) (parameters : List Attribute) (returns : Returns) :
    Except Failure Command :=
  make schema name parameters returns .storedProcedure

def ofTable (schema name : String) (columns : List Attribute) : Except Failure Command := do
  make schema name [] (← Returns.ofColumns columns) .tableGetter

/-- Raw SQL has no source from which parameters and result could be derived. -/
def ofSql (name : String) : Except Failure Command := .error (.rawSqlUnsupported name)

def check : Check Command :=
  .record .command fun fields => do
    let schema ← Check.required fields "schema_name" .text
    let name ← Check.required fields "name" (.ensuring .text Name.checkClassName)
    let qualifiedName ← Check.required fields "qualified_name" .text
    let parameters ← Check.optional fields "parameters" []
      (.ensuring (.listOf .tupleExpected Attribute.check) Attribute.checkDistinct)
    let returns ← Check.required fields "returns" Returns.check
    let kind ← Check.required fields "kind" (.oneOf CommandKind.kinds)
    let text ← Check.optional fields "sql" none (.orNull .text)
    let parts := (fun s n q p r k t => (Command.mk s n q p r, k, t))
      <$> schema <*> name <*> qualifiedName <*> parameters <*> returns <*> kind <*> text
    return parts.andThen fun (command, kind, text) => command <$> CommandKind.ofParts kind text

def toDatum (c : Command) : Datum :=
  .record [("schema_name", .text c.schema), ("name", .text c.name),
    ("qualified_name", .text c.qualifiedName),
    ("parameters", .list (c.parameters.map Attribute.toDatum)), ("returns", c.returns.toDatum),
    ("kind", .text c.kind.label), ("sql", .ofText? c.kind.text?)]

end Command

namespace TableType

def make (schema name : String) (columns : List Attribute) : Except Failure TableType := do
  Name.checkClassName name
  Attribute.checkDistinct columns
  return ⟨schema, name, columns⟩

def ofEntry (t : Catalog.TableTypeEntry) : Except Failure TableType := do
  make t.schema t.name (← t.columns.mapM Attribute.ofColumn)

def check : Check TableType :=
  .record .tableTypeDefinition fun fields => do
    let schema ← Check.required fields "schema_name" .text
    let name ← Check.required fields "name" (.ensuring .text Name.checkClassName)
    let columns ← Check.required fields "columns"
      (.ensuring (.listOf .tupleExpected Attribute.check) Attribute.checkDistinct)
    return TableType.mk <$> schema <*> name <*> columns

def toDatum (t : TableType) : Datum :=
  .record [("schema_name", .text t.schema), ("name", .text t.name),
    ("columns", .list (t.columns.map Attribute.toDatum))]

end TableType

end SqlBindings
