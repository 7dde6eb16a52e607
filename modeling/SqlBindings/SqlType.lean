import SqlBindings.Name
import SqlBindings.Verdict

/-!
The types of columns and parameters: a closed set of scalars, and table types that a database
defines by name. Each type has a representation in Python and a tag under which the driver binds it.
-/

namespace SqlBindings

/-- The scalar types. Native types with one Python representation share a scalar. -/
inductive Scalar where
  | byte | int16 | int32 | int64 | dateTime | guid | string | bool | byteArray | double | decimal
deriving DecidableEq, Repr

inductive SqlType where
  /-- A scalar. Records of scalars may name a schema too; it is kept and has no meaning. -/
  | scalar (kind : Scalar) (schema : Option String)
  /-- A table type, with the schema that owns it if that is known. -/
  | table (name : String) (schema : Option String)
deriving DecidableEq, Repr

namespace Scalar

def label : Scalar → String
  | byte => "BYTE"
  | int16 => "INT16"
  | int32 => "INT32"
  | int64 => "INT64"
  | dateTime => "DATETIME"
  | guid => "GUID"
  | string => "STRING"
  | bool => "BOOL"
  | byteArray => "BYTE_ARRAY"
  | double => "DOUBLE"
  | decimal => "DECIMAL"

def all : List Scalar :=
  [byte, int16, int32, int64, dateTime, guid, string, bool, byteArray, double, decimal]

/-- The scalar a native type name stands for, in lower case. -/
def ofNative? : String → Option Scalar
  | "tinyint" => some byte
  | "smallint" => some int16
  | "int" => some int32
  | "bigint" => some int64
  | "datetime" | "datetime2" => some dateTime
  | "uniqueidentifier" => some guid
  | "nvarchar" | "varchar" | "nchar" | "char" => some string
  | "bit" => some bool
  | "binary" | "varbinary" | "timestamp" => some byteArray
  | "float" => some double
  | "decimal" | "numeric" => some decimal
  | _ => none

def storage : Scalar → String
  | byte | int16 | int32 | int64 => "int"
  | dateTime => "datetime.datetime"
  | guid => "uuid.UUID"
  | string => "str"
  | bool => "bool"
  | byteArray => "bytes"
  | double => "float"
  | decimal => "decimal.Decimal"

/-- The expression that turns the cell `cell` of a row into a value. -/
def read (cell : String) : Scalar → String
  | byte | int16 | int32 | int64 => "int(" ++ cell ++ ")"
  | dateTime => cell
  | guid => "uuid.UUID(str(" ++ cell ++ "))"
  | string => "str(" ++ cell ++ ")"
  | bool => "bool(" ++ cell ++ ")"
  | byteArray => "bytes(" ++ cell ++ ")"
  | double => "float(" ++ cell ++ ")"
  | decimal => "decimal.Decimal(" ++ cell ++ ")"

/-- The driver's name for the type a parameter is bound as. -/
def tag : Scalar → String
  | byte => "SQL_TINYINT"
  | int16 => "SQL_SMALLINT"
  | int32 => "SQL_INTEGER"
  | int64 => "SQL_BIGINT"
  | dateTime => "SQL_TYPE_TIMESTAMP"
  | guid => "SQL_GUID"
  | string => "SQL_WVARCHAR"
  | bool => "SQL_BIT"
  | byteArray => "SQL_VARBINARY"
  | double => "SQL_DOUBLE"
  | decimal => "SQL_DECIMAL"

end Scalar

/-- The classes of values a driver reports for result columns. -/
inductive ValueType where
  | int | str | float | bool | bytes | bytearray | complex | list | dict | object | none
  | dateTime | date | time | decimal | uuid
deriving DecidableEq, Repr

namespace ValueType

def label : ValueType → String
  | int => "int"
  | str => "str"
  | float => "float"
  | bool => "bool"
  | bytes => "bytes"
  | bytearray => "bytearray"
  | complex => "complex"
  | list => "list"
  | dict => "dict"
  | object => "object"
  | none => "NoneType"
  | dateTime => "datetime.datetime"
  | date => "datetime.date"
  | time => "datetime.time"
  | decimal => "decimal.Decimal"
  | uuid => "uuid.UUID"

def all : List ValueType :=
  [int, str, float, bool, bytes, bytearray, complex, list, dict, object, none, dateTime, date,
    time, decimal, uuid]

def ofLabel? (label : String) : Option ValueType := all.find? (·.label == label)

def check : Check ValueType
  | .text label => return match ofLabel? label with
    | some t => .accepted t
    | Option.none => .breaks .typeExpected
  | _ => return .breaks .typeExpected

def literal (t : ValueType) : String := "<class '" ++ t.label ++ "'>"

/-- The scalar that holds every value of a class. Whole numbers are told apart by precision. -/
def scalar? : ValueType → Option Scalar
  | dateTime => some .dateTime
  | uuid => some .guid
  | str => some .string
  | bool => some .bool
  | bytes | bytearray => some .byteArray
  | float => some .double
  | decimal => some .decimal
  | _ => Option.none

end ValueType

namespace SqlType

def tableLabel : String := "USER_DEFINED_TABLE_TYPE"

def kindLabel : SqlType → String
  | scalar kind _ => kind.label
  | table _ _ => tableLabel

def isTable : SqlType → Bool
  | scalar _ _ => false
  | table _ _ => true

def tableName? : SqlType → Option String
  | scalar _ _ => none
  | table name _ => some name

def schema? : SqlType → Option String
  | scalar _ schema => schema
  | table _ schema => schema

def display : SqlType → String
  | scalar kind _ => kind.label
  | table name _ => "UserDefinedTableType(" ++ name ++ ")"

def plain (kind : Scalar) : SqlType := scalar kind none

/-- The type a native type name stands for, in any case. -/
def ofNative (name : String) : Except Failure SqlType :=
  match Scalar.ofNative? (Text.lower name) with
  | some kind => .ok (plain kind)
  | none => .error (.unknownSqlType name)

/-- The width of a whole number, from the precision the driver reports for its column. -/
def ofPrecision : Option Int → Scalar
  | some 3 => .byte
  | some 5 => .int16
  | some 19 => .int64
  | _ => .int32

def ofValueType (t : ValueType) (precision : Option Int) : Except Failure SqlType :=
  if t = .int then .ok (plain (ofPrecision precision))
  else match t.scalar? with
    | some kind => .ok (plain kind)
    | none => .error (.unknownValueType t.literal)

def ofUntyped (valueType precision : Datum) : Except Failure SqlType :=
  match valueType with
  | .text label => match ValueType.ofLabel? label with
    | some .int => match precision with
      | .list _ | .record _ => .error (.data (.notKey precision.kind))
      | _ => ofValueType .int precision.toInt?
    | some t => ofValueType t none
    | none => .error (.unknownValueType valueType.literal)
  | _ => .error (.unknownValueType valueType.literal)

/-- The expression that names the class of a table type inside the module of a schema. Another
schema's table types are reached through the module of that schema. -/
def reference? (schema : Option String) : SqlType → Option String
  | scalar _ _ => none
  | table name owner => match owner, schema with
    | some owner, some schema =>
      if owner = schema then some name else some (Name.schemaAlias owner ++ "." ++ name)
    | _, _ => some name

def storage (t : SqlType) (schema : Option String) : String :=
  match t with
  | scalar kind _ => kind.storage
  | table name _ => "Tuple[" ++ (t.reference? schema).getD name ++ ", ...]"

def readAccessor (t : SqlType) (row : String) (index : Int) (schema : Option String) : String :=
  let cell := row ++ "[" ++ toString index ++ "]"
  match t with
  | scalar kind _ => kind.read cell
  | table name _ => (t.reference? schema).getD name ++ ".from_rows(" ++ cell ++ ")"

def tag : SqlType → String
  | scalar kind _ => kind.tag
  | table _ _ => "SQL_SS_TABLE"

def kinds : List (String × Option Scalar) :=
  Scalar.all.map (fun kind => (kind.label, some kind)) ++ [(tableLabel, none)]

/-- A type from its kind, where exactly the table types have a name. -/
def ofParts (kind : Option Scalar) (name schema : Option String) : Verdict SqlType :=
  match kind, name with
  | some kind, none => .accepted (scalar kind schema)
  | none, some name => .accepted (table name schema)
  | _, _ => .breaks (.joint "table_type_name is required for, and only for, table types")

def check : Check SqlType :=
  Check.record .sqlType fun fields => do
    let kind ← Check.required fields "kind" (Check.oneOf kinds)
    let name ← Check.optional fields "table_type_name" none (Check.orNull Check.text)
    let schema ← Check.optional fields "table_type_schema" none (Check.orNull Check.text)
    let parts := (fun k n s => (k, n, s)) <$> kind <*> name <*> schema
    return parts.andThen fun (kind, name, schema) => ofParts kind name schema

def toDatum (t : SqlType) : Datum :=
  .record [("kind", .text t.kindLabel), ("table_type_name", .ofText? t.tableName?),
    ("table_type_schema", .ofText? t.schema?)]

end SqlType

end SqlBindings
