import SqlBindings.Command

/-!
A bundle holds everything that is generated for one schema, each category sorted by name.
`Bundle.group` sorts any collection of objects into bundles.
-/

namespace SqlBindings

structure Bundle where
  schema : String
  tableTypes : List TableType
  storedProcedures : List Command
  functions : List Command
  tableGetters : List Command
deriving DecidableEq, Repr

namespace Bundle

def inOrder (s t : String) : Bool := !decide (t < s)

/-- A list in the order of a key; entries with one key keep their places. -/
def sortOn {α : Type} (key : α → String) (entries : List α) : List α :=
  entries.mergeSort fun a b => inOrder (key a) (key b)

/-- A bundle with its categories put in order. -/
def make (schema : String) (tableTypes : List TableType)
    (storedProcedures functions tableGetters : List Command) : Bundle where
  schema
  tableTypes := sortOn TableType.name tableTypes
  storedProcedures := sortOn Command.name storedProcedures
  functions := sortOn Command.name functions
  tableGetters := sortOn Command.name tableGetters

/-- Commands of all categories, in the order in which they are rendered. -/
def commands (b : Bundle) : List Command := b.storedProcedures ++ b.functions ++ b.tableGetters

def check : Check Bundle :=
  .record .bundle fun fields => do
    let commands := Check.listOf .tupleExpected Command.check
    let schema ← Check.required fields "schema_name" .text
    let tableTypes ← Check.optional fields "table_types" [] (.listOf .tupleExpected TableType.check)
    let storedProcedures ← Check.optional fields "stored_procedures" [] commands
    let functions ← Check.optional fields "functions" [] commands
    let tableGetters ← Check.optional fields "table_getters" [] commands
    return make <$> schema <*> tableTypes <*> storedProcedures <*> functions <*> tableGetters

def toDatum (b : Bundle) : Datum :=
  .record [("schema_name", .text b.schema),
    ("table_types", .list (b.tableTypes.map TableType.toDatum)),
    ("stored_procedures", .list (b.storedProcedures.map Command.toDatum)),
    ("functions", .list (b.functions.map Command.toDatum)),
    ("table_getters", .list (b.tableGetters.map Command.toDatum))]

section

variable (tableTypes : List TableType) (storedProcedures functions tableGetters : List Command)

def schemas : List String :=
  (tableTypes.map TableType.schema ++
    (storedProcedures ++ functions ++ tableGetters).map Command.schema).eraseDups

def ofSchema (schema : String) : Bundle :=
  make schema (tableTypes.filter (·.schema == schema))
    (storedProcedures.filter (·.schema == schema)) (functions.filter (·.schema == schema))
    (tableGetters.filter (·.schema == schema))

/-- One bundle for each schema that occurs, in the order of the schema names. -/
def group : List Bundle :=
  (sortOn id (schemas tableTypes storedProcedures functions tableGetters)).map
    (ofSchema tableTypes storedProcedures functions tableGetters)

end

/-- The other schemas whose table types the parameters of a bundle refer to. -/
def foreignSchemas (b : Bundle) : List String :=
  let owners := b.commands.flatMap fun c => c.parameters.filterMap fun p =>
    match p.type with
    | .table _ (some owner) => if owner = b.schema then none else some owner
    | _ => none
  sortOn id owners.eraseDups

end Bundle

end SqlBindings
