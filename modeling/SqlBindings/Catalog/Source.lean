import SqlBindings.Attribute
import SqlBindings.Log

/-!
A catalog, seen as a source of entries. It lists every object of a kind, unfiltered, and describes
the result of a stored procedure. `Memory` is a catalog whose entries are given.
-/

namespace SqlBindings.Catalog

structure Source (σ : Type) where
  serverVersion : Run σ Datum
  tableTypes : Run σ (List TableTypeEntry)
  functions : Run σ (List FunctionEntry)
  procedures : Run σ (List ProcedureEntry)
  tables : Run σ (List TableEntry)
  /-- The result columns of a procedure, found by a dry run with its parameters. -/
  describe : String → List Attribute → Run σ (List ResultColumn)

/-- A catalog held in memory. A procedure without a recorded result has no result columns. -/
structure Memory where
  tableTypes : List TableTypeEntry
  functions : List FunctionEntry
  procedures : List ProcedureEntry
  tables : List TableEntry
  /-- Result columns by qualified name, or the text of the failure of the dry run. -/
  results : List (String × Except String (List ResultColumn))

/-- A dry run that was asked for: the procedure and its parameters. -/
structure Description where
  qualifiedName : String
  parameters : List Attribute
deriving DecidableEq, Repr

def Description.bindNames (d : Description) : List String := d.parameters.map Attribute.bindName

namespace Memory

def answer (m : Memory) (qualifiedName : String) : Except Failure (List ResultColumn) :=
  match m.results.lookup qualifiedName with
  | none => .ok []
  | some (.ok columns) => .ok columns
  | some (.error text) => .error (.dryRunRefused text)

def describe (m : Memory) (qualifiedName : String) (parameters : List Attribute) :
    Run (List Description) (List ResultColumn) := do
  modify fun t => { t with state := t.state ++ [⟨qualifiedName, parameters⟩] }
  Run.ofExcept (m.answer qualifiedName)

/-- The catalog as a source; its state is the list of the dry runs asked for. -/
def source (m : Memory) : Source (List Description) where
  serverVersion := return .text "memory"
  tableTypes := return m.tableTypes
  functions := return m.functions
  procedures := return m.procedures
  tables := return m.tables
  describe := m.describe

end Memory

end SqlBindings.Catalog
