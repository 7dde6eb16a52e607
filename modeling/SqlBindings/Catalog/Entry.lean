import SqlBindings.SqlType

/-!
What a catalog says about the objects of a database, before any of it is turned into bindings.
-/

namespace SqlBindings.Catalog

structure Column where
  name : String
  dataType : String
  nullable : Bool
  position : Int
deriving DecidableEq, Repr

/-- A parameter of a routine. Its data type is a native type or the name of a table type. -/
structure Parameter where
  name : String
  dataType : String
  isTableType : Bool
  typeSchema : Option String
  /-- The literal text of the declared default. -/
  default : Option String
  position : Int
deriving DecidableEq, Repr

structure TableTypeEntry where
  schema : String
  name : String
  columns : List Column
deriving DecidableEq, Repr

/-- A function. The kind is `FN` or `FS` for scalars and `IF`, `TF` or `FT` for tables. -/
structure FunctionEntry where
  schema : String
  name : String
  kind : String
  /-- The declared result of a scalar function. -/
  returnType : Option String
  parameters : List Parameter
  /-- The columns of a function that returns a table. -/
  columns : List Column
deriving DecidableEq, Repr

/-- A stored procedure. Its result is not declared. -/
structure ProcedureEntry where
  schema : String
  name : String
  parameters : List Parameter
deriving DecidableEq, Repr

structure TableEntry where
  schema : String
  name : String
  columns : List Column
deriving DecidableEq, Repr

/-- A column of the result that a dry run reports. -/
structure ResultColumn where
  name : Option String
  valueType : ValueType
  precision : Option Int
  nullable : Bool
deriving DecidableEq, Repr

def Column.check : Check Column :=
  .record .column fun fields => do
    let name ← Check.required fields "name" .text
    let dataType ← Check.required fields "data_type" .text
    let nullable ← Check.required fields "is_nullable" .bool
    let position ← Check.required fields "ordinal_position" .int
    return Column.mk <$> name <*> dataType <*> nullable <*> position

def Parameter.check : Check Parameter :=
  .record .parameter fun fields => do
    let name ← Check.required fields "name" .text
    let dataType ← Check.required fields "data_type" .text
    let isTableType ← Check.optional fields "is_table_type" false .bool
    let typeSchema ← Check.optional fields "type_schema" none (.orNull .text)
    let default ← Check.optional fields "default_value" none (.orNull .text)
    let position ← Check.required fields "ordinal_position" .int
    return Parameter.mk <$> name <*> dataType <*> isTableType <*> typeSchema <*> default <*> position

def TableTypeEntry.check : Check TableTypeEntry :=
  .record .tableType fun fields => do
    let schema ← Check.required fields "schema_name" .text
    let name ← Check.required fields "name" .text
    let columns ← Check.required fields "columns" (.listOf .listExpected Column.check)
    return TableTypeEntry.mk <$> schema <*> name <*> columns

def FunctionEntry.check : Check FunctionEntry :=
  .record .function fun fields => do
    let schema ← Check.required fields "schema_name" .text
    let name ← Check.required fields "name" .text
    let kind ← Check.required fields "function_type" .text
    let returnType ← Check.optional fields "return_type" none (.orNull .text)
    let parameters ← Check.optional fields "parameters" [] (.listOf .listExpected Parameter.check)
    let columns ← Check.optional fields "columns" [] (.listOf .listExpected Column.check)
    return FunctionEntry.mk <$> schema <*> name <*> kind <*> returnType <*> parameters <*> columns

def ProcedureEntry.check : Check ProcedureEntry :=
  .record .procedure fun fields => do
    let schema ← Check.required fields "schema_name" .text
    let name ← Check.required fields "name" .text
    let parameters ← Check.optional fields "parameters" [] (.listOf .listExpected Parameter.check)
    return ProcedureEntry.mk <$> schema <*> name <*> parameters

def TableEntry.check : Check TableEntry :=
  .record .table fun fields => do
    let schema ← Check.required fields "schema_name" .text
    let name ← Check.required fields "name" .text
    let columns ← Check.required fields "columns" (.listOf .listExpected Column.check)
    return TableEntry.mk <$> schema <*> name <*> columns

def ResultColumn.check : Check ResultColumn :=
  .record .resultColumn fun fields => do
    let name ← Check.optional fields "name" none (.orNull .text)
    let type ← Check.required fields "value_type" ValueType.check
    let precision ← Check.optional fields "precision" none (.orNull .int)
    let nullable ← Check.required fields "nullable" .bool
    return ResultColumn.mk <$> name <*> type <*> precision <*> nullable

def Column.toDatum (c : Column) : Datum :=
  .record [("name", .text c.name), ("data_type", .text c.dataType),
    ("is_nullable", .bool c.nullable), ("ordinal_position", .int c.position)]

def Parameter.toDatum (p : Parameter) : Datum :=
  .record [("name", .text p.name), ("data_type", .text p.dataType),
    ("is_table_type", .bool p.isTableType), ("type_schema", .ofText? p.typeSchema),
    ("default_value", .ofText? p.default), ("ordinal_position", .int p.position)]

def TableTypeEntry.toDatum (t : TableTypeEntry) : Datum :=
  .record [("schema_name", .text t.schema), ("name", .text t.name),
    ("columns", .list (t.columns.map Column.toDatum))]

def FunctionEntry.toDatum (f : FunctionEntry) : Datum :=
  .record [("schema_name", .text f.schema), ("name", .text f.name), ("function_type", .text f.kind),
    ("return_type", .ofText? f.returnType), ("parameters", .list (f.parameters.map Parameter.toDatum)),
    ("columns", .list (f.columns.map Column.toDatum))]

def ProcedureEntry.toDatum (p : ProcedureEntry) : Datum :=
  .record [("schema_name", .text p.schema), ("name", .text p.name),
    ("parameters", .list (p.parameters.map Parameter.toDatum))]

def TableEntry.toDatum (t : TableEntry) : Datum :=
  .record [("schema_name", .text t.schema), ("name", .text t.name),
    ("columns", .list (t.columns.map Column.toDatum))]

def ResultColumn.toDatum (c : ResultColumn) : Datum :=
  .record [("name", .ofText? c.name), ("value_type", .text c.valueType.label),
    ("precision", match c.precision with
      | some n => .int n
      | none => .null),
    ("nullable", .bool c.nullable)]

end SqlBindings.Catalog
