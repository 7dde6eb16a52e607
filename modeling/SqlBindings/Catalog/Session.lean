import SqlBindings.Catalog.Driver
import SqlBindings.Catalog.Query
import SqlBindings.Catalog.Row
import SqlBindings.Catalog.Source
import SqlBindings.Render.Attribute
import SqlBindings.Sql.ConnectionString

/-!
A session with a server: the calls made so far and whether there is a connection. Its operations read
the catalog and dry-run stored procedures. Whatever fails, a cursor that was opened is closed, and a
dry run attempts to end the mode it switched on.
-/

namespace SqlBindings.Catalog

structure Session where
  connected : Bool := false
  /-- The calls in the order in which they were made, the failed ones included. -/
  calls : List Call := []

namespace Session

def log (level : LogLevel) (message : String) : Run Session Unit := Run.log level .catalog message

/-- Makes a call. It is noted whether it fails or not. -/
def attempt (driver : Driver) (call : Call) : Run Session Reply := do
  let history := (← get).state.calls
  modify fun t => { t with state := { t.state with calls := t.state.calls ++ [call] } }
  Run.ofExcept ((driver history call).mapError .driver)

def setConnected (connected : Bool) : Run Session Unit :=
  modify fun t => { t with state := { t.state with connected := connected } }

def requireConnection : Run Session Unit := do
  if !(← get).state.connected then throw .notConnected

/-- A run with a cursor, which is closed at the end in any case. -/
def withCursor {α : Type} (driver : Driver) (body : Run Session α) : Run Session α :=
  body.followedAlwaysBy do
    let _ ← attempt driver .closeCursor

def query (driver : Driver) (sql : String) (arguments : List Argument := []) :
    Run Session (List Datum) := do
  requireConnection
  withCursor driver do
    return (← attempt driver (.execute sql arguments)).rows

/-- Opens a connection to the server the settings name. A connection that is open already is replaced
once the new one stands. -/
def connect (driver : Driver) (settings : List (String × Datum)) : Run Session Unit := do
  let target ← Run.ofExcept do
    match settings.lookup "connection_string" with
    | none => throw (.data (.noField "connection_string"))
    | some connectionString => Sql.overrideServer connectionString (Datum.get "server" settings)
  match ← (attempt driver (.connect target)).outcome with
  | .ok _ =>
    setConnected true
    log .info "Successfully connected to SQL Server"
  | .error failure =>
    if let .driver error := failure then
      if error.isOwn then
        log .error ("Failed to connect to SQL Server: " ++ error.text)
    throw failure

def serverVersion (driver : Driver) : Run Session Datum := do
  let rows ← query driver Query.serverVersion
  Run.ofExcept do Row.cell (← Row.cell (.list rows) 0) 0

def fetched {α : Type} (what : String) (entries : List α) : Run Session (List α) := do
  log .info ("Fetched " ++ toString entries.length ++ " " ++ what)
  return entries

def tableTypes (driver : Driver) : Run Session (List TableTypeEntry) := do
  let rows ← query driver Query.tableTypes
  fetched "table types" (← Run.ofExcept (Row.tableTypes rows))

def tables (driver : Driver) : Run Session (List TableEntry) := do
  let rows ← query driver Query.tables
  fetched "tables" (← Run.ofExcept (Row.tables rows))

def signature (driver : Driver) (qualifiedName : String) (routine : Row.Routine) :
    Run Session Row.Signature := do
  let defaults ← Run.ofExcept routine.defaults
  let rows ← query driver Query.parameters [.text qualifiedName]
  Run.ofExcept (Row.signature defaults rows)

/-- The columns of a function. One that returns a scalar has none and is not asked. -/
def functionColumns (driver : Driver) (qualifiedName : String) (returnType : Datum) :
    Run Session (List Column) := do
  if returnType.isSet then return []
  else
    let rows ← query driver Query.columns [.text qualifiedName]
    Run.ofExcept (rows.mapM Row.functionColumn)

def function (driver : Driver) (row : Datum) : Run Session FunctionEntry := do
  let routine ← Run.ofExcept (Row.routine row)
  let qualifiedName ← Run.ofExcept routine.qualifiedName
  let kind ← Run.ofExcept routine.kindCode
  let signature ← signature driver qualifiedName routine
  let columns ← functionColumns driver qualifiedName signature.returnType
  Run.ofExcept (Row.function routine kind signature columns)

def functions (driver : Driver) : Run Session (List FunctionEntry) := do
  let rows ← query driver (Query.routines Query.functionKinds)
  fetched "functions" (← rows.mapM (function driver))

def procedure (driver : Driver) (row : Datum) : Run Session ProcedureEntry := do
  let routine ← Run.ofExcept (Row.routine row)
  let qualifiedName ← Run.ofExcept routine.qualifiedName
  let signature ← signature driver qualifiedName routine
  Run.ofExcept (Row.procedure routine signature)

def procedures (driver : Driver) : Run Session (List ProcedureEntry) := do
  let rows ← query driver (Query.routines Query.procedureKinds)
  fetched "stored procedures" (← rows.mapM (procedure driver))

/-- The schema of a table type whose schema is not known. -/
def defaultSchema : String := "dbo"

def placeholder (parameter : Attribute) : Argument :=
  match parameter.type with
  | .scalar _ _ => .null
  | .table name schema => .emptyTable name ((schema.filter (· != "")).getD defaultSchema)

def dryRunBatch (qualifiedName : String) (parameters : List Attribute) : String :=
  Query.describeOnly ("EXEC " ++ qualifiedName ++
    if parameters.isEmpty then "" else " " ++ Attribute.bindList parameters)

/-- Executes a procedure in the mode that only describes its result. -/
def probe (driver : Driver) (qualifiedName : String) (parameters : List Attribute) :
    Run Session (List Datum) :=
  withCursor driver do
    if !parameters.isEmpty then
      let _ ← attempt driver (.setInputSizes (parameters.map fun p => p.type.tag))
    let batch := dryRunBatch qualifiedName parameters
    return (← attempt driver (.execute batch (parameters.map placeholder))).description

def resetMode (driver : Driver) : Run Session Unit :=
  withCursor driver do
    let _ ← attempt driver (.execute Query.describeOnlyOff [])

/-- The result columns of a stored procedure. The failure of a dry run is the one reported, even if
the mode cannot be ended after it. -/
def describe (driver : Driver) (qualifiedName : String) (parameters : List Attribute) :
    Run Session (List ResultColumn) := do
  requireConnection
  match ← (probe driver qualifiedName parameters).outcome with
  | .ok description =>
    resetMode driver
    Run.ofExcept (description.mapM Row.resultColumn)
  | .error failure =>
    if let .error second ← (resetMode driver).outcome then
      log .warning ("Could not reset FMTONLY after dry run of " ++ qualifiedName ++ ": " ++
        second.message)
    throw (.dryRun qualifiedName failure.message)

/-- Closes the connection. That it cannot be closed properly is no failure. -/
def close (driver : Driver) : Run Session Unit := do
  if (← get).state.connected then
    match ← (attempt driver .closeConnection).outcome with
    | .ok _ => log .info "Closed SQL Server connection"
    | .error failure => log .warning ("Error closing connection: " ++ failure.message)
    setConnected false

def source (driver : Driver) : Source Session where
  serverVersion := serverVersion driver
  tableTypes := tableTypes driver
  functions := functions driver
  procedures := procedures driver
  tables := tables driver
  describe := describe driver

end Session

end SqlBindings.Catalog
