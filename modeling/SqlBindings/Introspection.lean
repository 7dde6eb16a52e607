import SqlBindings.Bundle
import SqlBindings.Catalog.Source

/-!
Introspection: from the entries of a catalog to bundles. Objects are handled one at a time, with one
dry run for each stored procedure, and the first failure ends the run.
-/

namespace SqlBindings.Introspection

open Catalog

/-- Temporary, archival and system schemas, which take no part. -/
def excludedSchemas : List String := ["tmp", "old", "sys", "INFORMATION_SCHEMA"]

def excludedTables : List String := ["sysdiagrams"]

def isRelevantSchema (schema : String) : Bool := !excludedSchemas.contains schema

def isRelevantTableType (t : TableTypeEntry) : Bool := isRelevantSchema t.schema

/-- System functions begin with `fn_`. -/
def isRelevantFunction (f : FunctionEntry) : Bool :=
  isRelevantSchema f.schema && !f.name.startsWith "fn_"

/-- System procedures begin with `sp_`. -/
def isRelevantProcedure (p : ProcedureEntry) : Bool :=
  isRelevantSchema p.schema && !p.name.startsWith "sp_"

def isRelevantTable (t : TableEntry) : Bool :=
  isRelevantSchema t.schema && !excludedTables.contains t.name

/-- What a function returns, by its kind. A scalar result is always nullable. -/
def functionReturns (f : FunctionEntry) : Except Failure Returns :=
  if ["FN", "FS"].contains f.kind then do
    return .single (← SqlType.ofNative (f.returnType.getD "")) true
  else if ["IF", "TF", "FT"].contains f.kind then do
    Returns.ofColumns (← f.columns.mapM Attribute.ofColumn)
  else .error (.unknownFunctionKind f.kind (Sql.qualifiedName f.schema f.name))

def functionCommand (f : FunctionEntry) : Except Failure Command := do
  let parameters ← f.parameters.mapM Attribute.ofParameter
  Command.ofFunction f.schema f.name parameters (← functionReturns f)

/-- The attribute of the column `base` under the first number from `suffix` on that makes its name a
new one. After as many tries as names are taken the next one is new. -/
def numbered (taken : List String) (base : String) (type : SqlType) (nullable : Bool)
    (suffix : Nat) : Nat → Except Failure Attribute
  | 0 => Attribute.derive (base ++ toString suffix) type nullable
  | tries + 1 => do
    let a ← Attribute.derive (base ++ toString suffix) type nullable
    if taken.contains a.name then numbered taken base type nullable (suffix + 1) tries
    else return a

def resultAttribute (taken : List String) (c : ResultColumn) (position : Nat) :
    Except Failure Attribute := do
  let a ← Attribute.ofResultColumn c position
  if taken.contains a.name then
    numbered taken ((Attribute.resultName? c).getD "Value") a.type a.nullable position taken.length
  else return a

/-- The attributes of result columns from `position` on. A joined query can report a name twice; a
repeated one gets its position appended, or a later number if that is taken as well. -/
def resultAttributesFrom (taken : List String) (position : Nat) :
    List ResultColumn → Except Failure (List Attribute)
  | [] => return []
  | c :: rest => do
    let a ← resultAttribute taken c position
    return a :: (← resultAttributesFrom (a.name :: taken) (position + 1) rest)

def resultAttributes (columns : List ResultColumn) : Except Failure (List Attribute) :=
  resultAttributesFrom [] 0 columns

def tableGetter (t : TableEntry) : Except Failure Command := do
  Command.ofTable t.schema t.name (← t.columns.mapM Attribute.ofColumn)

/-- The command of a stored procedure whose dry run reports the given columns. -/
def describedCommand (p : ProcedureEntry) (parameters : List Attribute)
    (columns : List ResultColumn) : Except Failure Command := do
  let returns ← Returns.tableOrNothing (← resultAttributes columns)
  Command.ofStoredProcedure p.schema p.name parameters returns

variable {σ : Type}

def procedureCommand (source : Source σ) (p : ProcedureEntry) : Run σ Command := do
  let parameters ← .ofExcept (p.parameters.mapM Attribute.ofParameter)
  let columns ← source.describe (Sql.qualifiedName p.schema p.name) parameters
  .ofExcept (describedCommand p parameters columns)

def info (message : String) : Run σ Unit := Run.log .info .introspection message

/-- The bundles of a catalog, in the order of their schemas. -/
def introspect (source : Source σ) : Run σ (List Bundle) := do
  info ("Server version: " ++ (← source.serverVersion).display)
  let tableTypeEntries ← source.tableTypes
  let tableTypes ← Run.ofExcept <|
    (tableTypeEntries.filter isRelevantTableType).mapM TableType.ofEntry
  let functionEntries ← source.functions
  let functions ← Run.ofExcept <| (functionEntries.filter isRelevantFunction).mapM functionCommand
  let procedureEntries ← source.procedures
  let procedures ← (procedureEntries.filter isRelevantProcedure).mapM (procedureCommand source)
  let tableEntries ← source.tables
  let getters ← Run.ofExcept <| (tableEntries.filter isRelevantTable).mapM tableGetter
  info ("Introspected " ++ toString tableTypes.length ++ " table types, " ++
    toString functions.length ++ " functions, " ++ toString procedures.length ++
    " stored procedures, " ++ toString getters.length ++ " tables")
  return Bundle.group tableTypes procedures functions getters

end SqlBindings.Introspection
