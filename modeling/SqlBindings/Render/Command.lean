import SqlBindings.Command
import SqlBindings.Render.Attribute

/-! The query text of a command and the class that executes it. -/

namespace SqlBindings.Command

/-- The text sent to the server. A function is called by what it returns, so it must return
something. -/
def text (c : Command) : Except Failure String :=
  match c.kind with
  | .storedProcedure =>
    .ok (if c.parameters.isEmpty then "EXEC " ++ c.qualifiedName
      else "EXEC " ++ c.qualifiedName ++ " " ++ Attribute.bindList c.parameters)
  | .function =>
    let call := c.qualifiedName ++ "(" ++ Attribute.placeholders c.parameters ++ ")"
    match c.returns with
    | .single _ _ => .ok ("SELECT " ++ call)
    | .table _ => .ok ("SELECT * FROM " ++ call)
    | .nothing => .error (.functionWithoutReturn c.qualifiedName)
  | .tableGetter => .ok ("SELECT * FROM " ++ c.qualifiedName)
  | .rawSql sql => .ok sql

def returnHint (c : Command) : String :=
  match c.returns with
  | .nothing => "None"
  | .single type nullable => Render.optional nullable (type.storage (some c.schema))
  | .table _ => "Tuple[" ++ c.name ++ ", ...]"

def readResult (c : Command) : List String :=
  match c.returns with
  | .nothing => []
  | .single type nullable =>
    ["row = await cursor.fetchone()",
      "if row is None:",
      "    raise NoRowReturnedError(" ++ Text.quote (c.qualifiedName ++ " returned no row") ++ ")",
      "return " ++ Render.unlessNone nullable "row[0]" (type.readAccessor "row" 0 (some c.schema))]
  | .table columns =>
    ["rows = await cursor.fetchall()",
      "return tuple(" ++ Attribute.readRow columns "row" (some c.schema) ++ " for row in rows)"]

/-- The class line, with the fields of a row if the command returns a table. -/
def heading (c : Command) : List String :=
  match c.returns with
  | .table columns =>
    ["@dataclass(frozen=True)", "class " ++ c.name ++ ":"] ++
      columns.map (fun column => "    " ++ column.field (some c.schema)) ++ [""]
  | _ => ["class " ++ c.name ++ ":"]

/-- The parameters of `execute`. Those of the command are keyword-only. -/
def signature (c : Command) : String :=
  "cls, db: SqlConn" ++
    if c.parameters.isEmpty then ""
    else ", *" ++ Attribute.afterSeparator (Attribute.typedNames c.parameters (some c.schema))

def bindTypes (c : Command) : List String :=
  if c.parameters.isEmpty then []
  else
    let tags := c.parameters.map fun p => "pyodbc." ++ p.type.tag
    ["await cursor.setinputsizes([" ++ Render.commaSeparated tags ++ "])"]

def sendText (c : Command) (query : String) : String :=
  "await cursor.execute(" ++ Text.quote query ++
    Attribute.afterSeparator (c.parameters.map fun p => p.bindValue (some c.schema)) ++ ")"

/-- A class with one method, `execute`. -/
def render (c : Command) : Except Failure (List String) := do
  let query ← c.text
  return c.heading ++
    ["    @classmethod",
      "    async def execute(" ++ c.signature ++ ") -> " ++ c.returnHint ++ ":",
      "        \"\"\"Execute " ++ (if c.qualifiedName = "" then c.name else c.qualifiedName) ++
        ".\"\"\"",
      "        async with db.connection.cursor() as cursor:"] ++
    Render.indentBy 3
      (["if db.transaction is not None:", "    db.transaction.enlist(cursor)"] ++
        c.bindTypes ++ [c.sendText query] ++ c.readResult)

end SqlBindings.Command
