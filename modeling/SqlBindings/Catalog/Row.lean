import SqlBindings.Catalog.Entry
import SqlBindings.Sql.ParameterDefaults
import SqlBindings.Sql.QualifiedName

/-! Catalog entries from the rows of a result. A row is untyped; its cells go by position. -/

namespace SqlBindings.Catalog.Row

def cell (row : Datum) (position : Nat) : Except Failure Datum :=
  match row with
  | .list items => match items[position]? with
    | some d => .ok d
    | none => .error (.data .outOfRange)
  | .text s => match s.toList[position]? with
    | some c => .ok (.text (String.singleton c))
    | none => .error (.data (.outOfRange))
  | .record _ => .error (.data (.noField (toString position)))
  | other => .error (.data (.notIndexable other.kind))

def cells : Datum → Except Failure (List Datum)
  | .list items => .ok items
  | .text s => .ok (s.toList.map fun c => .text (String.singleton c))
  | .record fields => .ok (fields.map fun field => .text field.1)
  | other => .error (.data (.notIterable other.kind))

/-- The failure of taking some other number of cells than there are. -/
def wrongWidth {α : Type} (expected actual : Nat) : Except Failure α :=
  .error (.data (if actual < expected then .tooFew expected actual else .tooMany expected))

def checkKey (d : Datum) : Except Failure Unit :=
  match d with
  | .list _ | .record _ => .error (.data (.notKey d.kind))
  | _ => .ok ()

def column (name dataType nullable position : Datum) : Except Failure Column :=
  Column.check.run .column (.record [("name", name), ("data_type", dataType),
    ("is_nullable", .bool nullable.isSet), ("ordinal_position", position)])

def functionColumn (row : Datum) : Except Failure Column := do
  column (← cell row 0) (← cell row 1) (← cell row 2) (← cell row 3)

/-- A column together with the schema and the name of the object it belongs to. -/
structure Owned (α : Type) where
  schema : α
  owner : α
  column : Column
deriving Repr

/-- A row that names a schema, an object and a column of it. -/
def ownedColumn (row : Datum) : Except Failure (Owned Datum) := do
  let schema ← cell row 0
  let owner ← cell row 1
  checkKey schema
  checkKey owner
  return ⟨schema, owner, ← column (← cell row 2) (← cell row 3) (← cell row 4) (← cell row 5)⟩

/-- The names a row gives must be texts. -/
def withNames (kind : RecordKind) (row : Owned Datum) : Except Failure (Owned String) := do
  let fields := [("schema_name", row.schema), ("name", row.owner)]
  let schema ← Check.required fields "schema_name" .text
  let owner ← Check.required fields "name" .text
  ((fun s o => ⟨s, o, row.column⟩) <$> schema <*> owner : Verdict (Owned String)).orReject kind

/-- The columns by the object they belong to, objects in the order of their first column. -/
def groupByOwner (rows : List (Owned String)) : List ((String × String) × List Column) :=
  (rows.map fun row => (row.schema, row.owner)).eraseDups.map fun key =>
    (key, (rows.filter fun row => (row.schema, row.owner) == key).map Owned.column)

/-- Objects with columns, from rows with one column each. Every column is read before any name. -/
def objects (kind : RecordKind) (rows : List Datum) :
    Except Failure (List ((String × String) × List Column)) := do
  return groupByOwner (← (← rows.mapM ownedColumn).mapM (withNames kind))

def tableTypes (rows : List Datum) : Except Failure (List TableTypeEntry) := do
  return (← objects .tableType rows).map fun ((schema, name), columns) => ⟨schema, name, columns⟩

def tables (rows : List Datum) : Except Failure (List TableEntry) := do
  return (← objects .table rows).map fun ((schema, name), columns) => ⟨schema, name, columns⟩

structure Routine where
  schema : Datum
  name : Datum
  kind : Datum
  definition : Datum

def routine (row : Datum) : Except Failure Routine := do
  match ← cells row with
  | [schema, name, kind, definition] => return ⟨schema, name, kind, definition⟩
  | other => wrongWidth 4 other.length

/-- A part of an object name; whatever is not set is left out. -/
def namePart : Datum → Except Failure String
  | .text s => .ok s
  | d => if d.isSet then .error (.data (.notName d.kind)) else .ok ""

namespace Routine

def qualifiedName (r : Routine) : Except Failure String := do
  let name ← namePart r.name
  return Sql.qualifiedName (← namePart r.schema) name

/-- The kind of the routine, without the blanks that fill up its column. -/
def kindCode (r : Routine) : Except Failure String :=
  match r.kind with
  | .text s => .ok (String.ofList (Text.trimBlanks s.toList))
  | other => .error (.data (.noOperation other.kind "strip"))

/-- The defaults declared in the text of the routine. A routine without a text declares none. -/
def defaults (r : Routine) : Except Failure (List (String × String)) :=
  match r.definition with
  | .text s => .ok (Sql.parameterDefaults s)
  | other => if other.isSet then .error (.data (.notSearchable other.kind)) else .ok []

end Routine

/-- The parameters of a routine and the data type it returns, if a row gave one. -/
structure Signature where
  parameters : List Parameter
  returnType : Datum

/-- Adds a row to a signature. Position 0 gives the data type returned, any other a parameter. -/
def addParameter (defaults : List (String × String)) (signature : Signature) (row : Datum) :
    Except Failure Signature := do
  match ← cells row with
  | [name, dataType, isTableType, typeSchema, position] =>
    if position.toInt? = some 0 then return { signature with returnType := dataType }
    else match name with
      | .text s => do
        let parameter ← Parameter.check.run .parameter (.record [("name", name),
          ("data_type", dataType), ("is_table_type", .bool isTableType.isSet),
          ("type_schema", if isTableType.isSet then typeSchema else .null),
          ("default_value", .ofText? (defaults.lookup (Text.lower s))),
          ("ordinal_position", position)])
        return { signature with parameters := signature.parameters ++ [parameter] }
      | other => .error (.data (.noOperation other.kind "lower"))
  | other => wrongWidth 5 other.length

def signature (defaults : List (String × String)) (rows : List Datum) : Except Failure Signature :=
  rows.foldlM (addParameter defaults) ⟨[], .null⟩

def function (r : Routine) (kind : String) (s : Signature) (columns : List Column) :
    Except Failure FunctionEntry := do
  let f ← FunctionEntry.check.run .function (.record [("schema_name", r.schema), ("name", r.name),
    ("function_type", .text kind), ("return_type", s.returnType)])
  return { f with parameters := s.parameters, columns := columns }

def procedure (r : Routine) (s : Signature) : Except Failure ProcedureEntry := do
  let p ← ProcedureEntry.check.run .procedure
    (.record [("schema_name", r.schema), ("name", r.name)])
  return { p with parameters := s.parameters }

/-- A result column from an entry of a description: name, type, precision and nullability. -/
def resultColumn (entry : Datum) : Except Failure ResultColumn := do
  let name ← cell entry 0
  let type ← cell entry 1
  let precision ← cell entry 4
  let nullable ← cell entry 6
  ResultColumn.check.run .resultColumn (.record [("name", name), ("value_type", type),
    ("precision", precision), ("nullable", .bool nullable.isSet)])

end SqlBindings.Catalog.Row
