import SqlBindings.Datum
import SqlBindings.Text.Utf8
import SqlBindings.Violation
import SqlBindings.Yaml.Fault

/-!
Everything that can go wrong, one constructor per cause, with the wording of each in
`Failure.message`.
-/

namespace SqlBindings

/-- Untyped data that lacks what an operation needs. -/
inductive DataFault where
  | noOperation (kind operation : String)
  | notIndexable (kind : String)
  | notIterable (kind : String)
  | notKey (kind : String)
  | noField (name : String)
  | notName (kind : String)
  | notSearchable (kind : String)
  /-- Bytes cannot be split at a text. -/
  | bytesForText
  | outOfRange
  | tooFew (expected actual : Nat)
  | tooMany (expected : Nat)
deriving DecidableEq, Repr

def DataFault.message : DataFault → String
  | noOperation kind operation => "'" ++ kind ++ "' object has no attribute '" ++ operation ++ "'"
  | notIndexable kind => "'" ++ kind ++ "' object is not subscriptable"
  | notIterable kind => "cannot unpack non-iterable " ++ kind ++ " object"
  | notKey kind => "unhashable type: '" ++ kind ++ "'"
  | notName kind => "Name needs to be a string or an Identifier, got: <class '" ++ kind ++ "'>"
  | notSearchable kind => "expected string or bytes-like object, got '" ++ kind ++ "'"
  | bytesForText => "a bytes-like object is required, not 'str'"
  | noField name => Text.quote name
  | outOfRange => "list index out of range"
  | tooFew expected actual =>
    "not enough values to unpack (expected " ++ toString expected ++ ", got " ++ toString actual ++ ")"
  | tooMany expected => "too many values to unpack (expected " ++ toString expected ++ ")"

/-- An error raised while the database driver answers a call. -/
structure DriverError where
  kind : String
  text : String
deriving DecidableEq, Repr

namespace DriverError

/-- The kinds of errors that a driver defines, all of which are of the first kind as well. -/
def ownKinds : List String :=
  ["Error", "InterfaceError", "DatabaseError", "DataError", "OperationalError", "IntegrityError",
    "InternalError", "ProgrammingError", "NotSupportedError"]

def isOwn (e : DriverError) : Bool := ownKinds.contains e.kind

end DriverError

inductive FileFault where
  | notFound | alreadyExists | notDirectory | isDirectory | nameTooLong
deriving DecidableEq, Repr

def FileFault.message : FileFault → String
  | notFound => "[Errno 2] No such file or directory: "
  | alreadyExists => "[Errno 17] File exists: "
  | notDirectory => "[Errno 20] Not a directory: "
  | isDirectory => "[Errno 21] Is a directory: "
  | nameTooLong => "[Errno 36] File name too long: "

inductive Failure where
  -- names
  | emptyName
  | notIdentifier (name : String)
  | emptyParameterName (raw : String)
  | parameterNotIdentifier (raw : String)
  | keywordClassName (name : String)
  | duplicateAttribute (name : String)
  -- types and shapes
  | unknownSqlType (name : String)
  /-- The value a driver gave for a column type, as a literal. -/
  | unknownValueType (shown : String)
  | functionWithoutReturn (qualifiedName : String)
  | unknownFunctionKind (code qualifiedName : String)
  | rawSqlUnsupported (name : String)
  | rejected (kind : RecordKind) (violations : List Violation)
  -- the catalog connection
  | dryRun (qualifiedName reason : String)
  /-- A catalog without a server refuses to describe a procedure. -/
  | dryRunRefused (text : String)
  | notConnected
  | unsupportedCatalog (name supported : String)
  | driver (error : DriverError)
  | data (fault : DataFault)
  -- settings and files
  | settingsNotFound (path : String)
  | settingsInvalid (path : String)
  | settingsNotMapping (path : String)
  | settingValue (fault : Yaml.ValueFault)
  | connectionStringMissing (catalog path environmentName : String)
  | notUtf8 (fault : Text.Utf8Fault)
  | file (fault : FileFault) (path : String)
  /-- A path with a null character names no file. -/
  | embeddedNull
  -- transactions
  | transactionClosed
  | foreignCursor
  | autocommitEnabled
  | connectionCall (name : String)
deriving DecidableEq, Repr

def Failure.message : Failure → String
  | emptyName => "Empty name"
  | notIdentifier name => "Name " ++ Text.quote name ++ " is not a valid identifier"
  | emptyParameterName raw => "Invalid parameter name: " ++ Text.quote raw
  | parameterNotIdentifier raw =>
    "Parameter name " ++ Text.quote raw ++ " is not a valid identifier"
  | keywordClassName name => Text.quote name ++ " is a Python keyword and cannot name a class"
  | duplicateAttribute name => "Duplicate attribute name " ++ Text.quote name
  | unknownSqlType name => "Unknown SQL type: " ++ name
  | unknownValueType shown => "Unknown Python type: " ++ shown
  | functionWithoutReturn qualifiedName => "Function " ++ qualifiedName ++ " has no return type"
  | unknownFunctionKind code qualifiedName =>
    "Unknown function type " ++ Text.quote code ++ " for " ++ qualifiedName
  | rawSqlUnsupported name =>
    "Cannot derive parameters and result shape of raw SQL command " ++ Text.quote name
  | rejected kind violations => Violation.report kind violations
  | dryRun qualifiedName reason => "Dry run of " ++ qualifiedName ++ " failed: " ++ reason
  | dryRunRefused text => text
  | notConnected => "Not connected to SQL Server. Call connect() first."
  | unsupportedCatalog name supported =>
    "Unsupported catalog: '" ++ name ++ "'. Supported types: " ++ supported
  | driver error => error.text
  | data fault => fault.message
  | settingsNotFound path => "Configuration file not found: " ++ path
  | settingsInvalid path => "Invalid YAML configuration: " ++ path
  | settingsNotMapping path =>
    "Configuration file must contain a YAML dictionary of connection settings: " ++ path
  | settingValue fault => fault.message
  | connectionStringMissing catalog path environmentName =>
    "Missing required connection parameter for " ++ catalog ++ ": connection_string. " ++
      "Provide via --conn-file, " ++ path ++ " or " ++ environmentName
  | notUtf8 fault => fault.message
  | file fault path => fault.message ++ Text.quote path
  | embeddedNull => "embedded null byte"
  | transactionClosed => "Transaction has already been committed or rolled back"
  | foreignCursor => "Cursor does not belong to the transaction's connection"
  | autocommitEnabled => "A transaction requires a connection with autocommit disabled"
  | connectionCall name => name ++ " failed"

end SqlBindings
