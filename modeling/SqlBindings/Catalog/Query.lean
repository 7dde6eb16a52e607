/-! The queries that read the catalog of a server. -/

namespace SqlBindings.Catalog.Query

def serverVersion : String := "SELECT @@VERSION"

/-- Every table type with its columns: schema, type, column, data type, nullability, position. -/
def tableTypes : String := "
SELECT
    s.name,
    tt.name,
    c.name,
    TYPE_NAME(c.system_type_id),
    c.is_nullable,
    c.column_id
FROM sys.table_types AS tt
JOIN sys.schemas AS s ON s.schema_id = tt.schema_id
JOIN sys.columns AS c ON c.object_id = tt.type_table_object_id
ORDER BY s.name, tt.name, c.column_id
"

/-- Every table with its columns: schema, table, column, data type, nullability, position. -/
def tables : String := "
SELECT
    s.name,
    t.name,
    c.name,
    TYPE_NAME(c.system_type_id),
    c.is_nullable,
    c.column_id
FROM sys.tables AS t
JOIN sys.schemas AS s ON s.schema_id = t.schema_id
JOIN sys.columns AS c ON c.object_id = t.object_id
ORDER BY s.name, t.name, c.column_id
"

/-- The routines of some kinds: schema, routine, kind, text. -/
def routines (kinds : List String) : String := "
SELECT
    s.name,
    o.name,
    o.type,
    OBJECT_DEFINITION(o.object_id)
FROM sys.objects AS o
JOIN sys.schemas AS s ON s.schema_id = o.schema_id
WHERE o.type IN (" ++ ", ".intercalate (kinds.map fun kind => "'" ++ kind ++ "'") ++ ")
ORDER BY s.name, o.name
"

def functionKinds : List String := ["FN", "FS", "IF", "TF", "FT"]

def procedureKinds : List String := ["P"]

/-- The parameters of a routine: name, data type, whether that is a table type, its schema,
position. Position 0 is the result of a scalar function. -/
def parameters : String := "
SELECT
    p.name,
    CASE WHEN t.is_table_type = 1 THEN t.name ELSE TYPE_NAME(p.system_type_id) END,
    t.is_table_type,
    SCHEMA_NAME(t.schema_id),
    p.parameter_id
FROM sys.parameters AS p
JOIN sys.types AS t ON t.user_type_id = p.user_type_id
WHERE p.object_id = OBJECT_ID(?)
ORDER BY p.parameter_id
"

/-- The result columns of a function that returns a table: name, data type, nullability, position. -/
def columns : String := "
SELECT
    c.name,
    TYPE_NAME(c.system_type_id),
    c.is_nullable,
    c.column_id
FROM sys.columns AS c
WHERE c.object_id = OBJECT_ID(?)
ORDER BY c.column_id
"

/-- While this mode is on, batches describe their results and are not run. -/
def describeOnly (batch : String) : String := "SET NOCOUNT ON; SET FMTONLY ON; " ++ batch

def describeOnlyOff : String := "SET FMTONLY OFF"

end SqlBindings.Catalog.Query
