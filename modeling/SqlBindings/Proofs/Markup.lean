import SqlBindings.Proofs.Result
import SqlBindings.Render.Package

/-!
# Generated source with its references marked

Generated source is text, in which a reference to a table type cannot be told from what stands around
it. Here the same source is made of pieces, and the references are pieces of their own.

* `Piece`, `Line`, `lineText`: pieces, and the text they stand for;
* `aliases`: the schemas that a line reaches through the aliases of their modules;
* `Bundle.lines`, `Bundle.render_eq_lines`: the module of a schema in pieces, and that it is the
  module that is rendered. There is one such pair for everything that is rendered.
-/

namespace SqlBindings

namespace Render

/-- A piece of generated source. -/
inductive Piece where
  | text (s : String)
  /-- The class of a table type, reached through the module of another schema if one is given. -/
  | reference (via : Option String) (name : String)

/-- A line of generated source, in pieces. -/
abbrev Line := List Piece

namespace Piece

def toText : Piece → String
  | text s => s
  | reference none name => name
  | reference (some owner) name => Name.schemaAlias owner ++ "." ++ name

/-- The schema whose alias the piece uses. -/
def via? : Piece → Option String
  | text _ => none
  | reference via _ => via

end Piece

def lineText : Line → String
  | [] => ""
  | piece :: rest => piece.toText ++ lineText rest

/-- The schemas whose aliases a line uses. -/
def aliases (line : Line) : List String := line.filterMap Piece.via?

/-- Lines without references. -/
def plain (lines : List String) : List Line := lines.map fun s => [.text s]

def indentLines (level : Nat) (lines : List Line) : List Line :=
  let margin := String.join (List.replicate level indentStep)
  lines.map fun line => if lineText line = "" then line else .text margin :: line

def commaSeparatedLine : List Line → Line
  | [] => []
  | [item] => item
  | item :: rest => item ++ .text ", " :: commaSeparatedLine rest

def optionalLine (nullable : Bool) (hint : Line) : Line :=
  if nullable then .text "Optional[" :: hint ++ [.text "]"] else hint

def unlessNoneLine (nullable : Bool) (subject : String) (expression : Line) : Line :=
  if nullable then .text ("(None if " ++ subject ++ " is None else ") :: expression ++ [.text ")"]
  else expression

@[simp] theorem lineText_nil : lineText [] = "" := rfl

@[simp] theorem lineText_cons (piece : Piece) (line : Line) :
    lineText (piece :: line) = piece.toText ++ lineText line :=
  rfl

@[simp] theorem toText_text (s : String) : (Piece.text s).toText = s := rfl

@[simp] theorem lineText_append (line rest : Line) :
    lineText (line ++ rest) = lineText line ++ lineText rest := by
  induction line with
  | nil => simp
  | cons piece line ih => simp [ih, String.append_assoc]

@[simp] theorem map_plain (lines : List String) : (plain lines).map lineText = lines := by
  simp [plain, Function.comp_def]

@[simp] theorem map_indentLines (level : Nat) (lines : List Line) :
    (indentLines level lines).map lineText = indentBy level (lines.map lineText) := by
  simp only [indentLines, indentBy, List.map_map]
  congr 1
  funext line
  by_cases empty : lineText line = "" <;> simp [empty]

@[simp] theorem lineText_commaSeparated (items : List Line) :
    lineText (commaSeparatedLine items) = commaSeparated (items.map lineText) := by
  unfold commaSeparated
  fun_induction commaSeparatedLine items with
  | case1 => simp
  | case2 item => simp
  | case3 item rest some ih =>
    obtain ⟨next, rest, rfl⟩ := List.exists_cons_of_ne_nil some
    simp [ih, String.intercalate_cons_cons, String.append_assoc]

@[simp] theorem lineText_optional (nullable : Bool) (hint : Line) :
    lineText (optionalLine nullable hint) = optional nullable (lineText hint) := by
  cases nullable <;> simp [optionalLine, optional, String.append_assoc]

@[simp] theorem lineText_unlessNone (nullable : Bool) (subject : String) (expression : Line) :
    lineText (unlessNoneLine nullable subject expression) =
      unlessNone nullable subject (lineText expression) := by
  cases nullable <;> simp [unlessNoneLine, unlessNone, String.append_assoc]

end Render

open Render

namespace SqlType

/-- The class of a table type, as referred to in the module of a schema. -/
def mark (schema name : String) (owner : Option String) : Piece :=
  .reference (owner.filter (· != schema)) name

def storageLine (schema : String) : SqlType → Line
  | scalar kind _ => [.text kind.storage]
  | table name owner => [.text "Tuple[", mark schema name owner, .text ", ...]"]

def readLine (row : String) (index : Int) (schema : String) : SqlType → Line
  | scalar kind _ => [.text (kind.read (row ++ "[" ++ toString index ++ "]"))]
  | table name owner =>
    [mark schema name owner, .text (".from_rows(" ++ row ++ "[" ++ toString index ++ "]" ++ ")")]

theorem reference?_eq_mark (schema name : String) (owner : Option String) :
    (table name owner).reference? (some schema) = some (mark schema name owner).toText := by
  cases owner with
  | none => rfl
  | some owner =>
    by_cases own : owner = schema <;> simp [reference?, mark, own, Piece.toText, Option.filter]

theorem storage_eq_line (t : SqlType) (schema : String) :
    t.storage (some schema) = lineText (t.storageLine schema) := by
  cases t with
  | scalar kind owner => simp [storage, storageLine]
  | table name owner =>
    simp [storage, storageLine, reference?_eq_mark, String.append_assoc]

theorem readAccessor_eq_line (t : SqlType) (row : String) (index : Int) (schema : String) :
    t.readAccessor row index (some schema) = lineText (t.readLine row index schema) := by
  cases t with
  | scalar kind owner => simp [readAccessor, readLine]
  | table name owner =>
    simp [readAccessor, readLine, reference?_eq_mark, String.append_assoc]

end SqlType

namespace Attribute

def fieldLine (a : Attribute) (schema : String) : Line :=
  .text (a.name ++ ": ") :: optionalLine a.nullable (a.type.storageLine schema)

def typedLine (a : Attribute) (schema : String) : Line :=
  a.fieldLine schema ++ [.text (if a.nullable then " = None" else "")]

def afterSeparatorLine (items : List Line) : Line := items.flatMap (.text ", " :: ·)

def valueLine (a : Attribute) (row : String) (index : Int) (schema : String) : Line :=
  unlessNoneLine a.nullable (row ++ "[" ++ toString index ++ "]") (a.type.readLine row index schema)

def valueLinesFrom (index : Nat) (row schema : String) : List Attribute → List Line
  | [] => []
  | a :: rest => a.valueLine row index schema :: valueLinesFrom (index + 1) row schema rest

def rowLine (columns : List Attribute) (row schema : String) : Line :=
  .text "cls(" :: commaSeparatedLine (valueLinesFrom 0 row schema columns) ++ [.text ")"]

def bindLine (a : Attribute) (schema : String) : Line :=
  match a.type with
  | .scalar _ _ => [.text a.name]
  | .table name owner =>
    unlessNoneLine a.nullable a.name
      [SqlType.mark schema name owner, .text (".to_parameter(" ++ a.name ++ ")")]

theorem field_eq_line (a : Attribute) (schema : String) :
    a.field (some schema) = lineText (a.fieldLine schema) := by
  simp [field, fieldLine, typeHint, SqlType.storage_eq_line]

theorem typed_eq_line (a : Attribute) (schema : String) :
    a.typed (some schema) = lineText (a.typedLine schema) := by
  simp [typed, typedLine, field_eq_line]

theorem afterSeparator_eq_line (items : List Line) :
    afterSeparator (items.map lineText) = lineText (afterSeparatorLine items) := by
  unfold afterSeparator afterSeparatorLine
  induction items with
  | nil => rfl
  | cons item items ih => simp [← ih, String.append_assoc]

theorem readValue_eq_line (a : Attribute) (row : String) (index : Int) (schema : String) :
    a.readValue row index (some schema) = lineText (a.valueLine row index schema) := by
  simp [readValue, valueLine, SqlType.readAccessor_eq_line]

theorem readValuesFrom_eq_lines (index : Nat) (row schema : String) (columns : List Attribute) :
    readValuesFrom index row (some schema) columns =
      (valueLinesFrom index row schema columns).map lineText := by
  induction columns generalizing index with
  | nil => rfl
  | cons a rest ih => simp [readValuesFrom, valueLinesFrom, readValue_eq_line, ih]

theorem readRow_eq_line (columns : List Attribute) (row schema : String) :
    readRow columns row (some schema) = lineText (rowLine columns row schema) := by
  simp [readRow, rowLine, readValuesFrom_eq_lines, String.append_assoc]

theorem bindValue_eq_line (a : Attribute) (schema : String) :
    a.bindValue (some schema) = lineText (a.bindLine schema) := by
  unfold bindValue bindLine
  cases a.type with
  | scalar kind owner => simp [SqlType.reference?]
  | table name owner => simp [SqlType.reference?_eq_mark, String.append_assoc]

end Attribute

namespace TableType

def lines (t : TableType) : List Line :=
  let row := Attribute.rowLine t.columns "row" t.schema
  let tuples := "Tuple[" ++ t.name ++ ", ...]"
  plain ["@dataclass(frozen=True)",
    "class " ++ t.name ++ ":",
    "    TYPE_NAME = " ++ Text.quote t.name,
    "    SCHEMA_NAME = " ++ Text.quote t.schema,
    ""] ++
  t.columns.map (fun column => .text "    " :: column.fieldLine t.schema) ++
  plain ["",
    "    @classmethod",
    "    def from_rows(cls, rows) -> " ++ tuples ++ ":"] ++
  [.text "        return tuple(" :: row ++ [.text " for row in rows)"]] ++
  plain ["",
    "    @classmethod",
    "    async def from_cursor(cls, cursor) -> " ++ tuples ++ ":",
    "        values = []",
    "        while True:",
    "            row = await cursor.fetchone()",
    "            if row is None:",
    "                break"] ++
  [.text "            values.append(" :: row ++ [.text ")"]] ++
  plain ["        return tuple(values)",
    "",
    "    @staticmethod",
    "    def to_rows(values: " ++ tuples ++ ") -> List[tuple]:",
    "        return [" ++ Render.tuple (t.columns.map fun column => "value." ++ column.name) ++
      " for value in values]",
    "",
    "    @classmethod",
    "    def to_parameter(cls, values: " ++ tuples ++ ") -> list:",
    "        return [cls.TYPE_NAME, cls.SCHEMA_NAME, *cls.to_rows(values)]"]

theorem render_eq_lines (t : TableType) : t.render = t.lines.map lineText := by
  simp [render, lines, Attribute.field_eq_line, Attribute.readRow_eq_line, String.append_assoc,
    Function.comp_def]

end TableType

namespace Command

def returnLine (c : Command) : Line :=
  match c.returns with
  | .nothing => [.text "None"]
  | .single type nullable => optionalLine nullable (type.storageLine c.schema)
  | .table _ => [.text ("Tuple[" ++ c.name ++ ", ...]")]

def resultLines (c : Command) : List Line :=
  match c.returns with
  | .nothing => []
  | .single type nullable =>
    plain ["row = await cursor.fetchone()",
      "if row is None:",
      "    raise NoRowReturnedError(" ++ Text.quote (c.qualifiedName ++ " returned no row") ++ ")"] ++
    [.text "return " :: unlessNoneLine nullable "row[0]" (type.readLine "row" 0 c.schema)]
  | .table columns =>
    [[.text "rows = await cursor.fetchall()"],
      .text "return tuple(" :: Attribute.rowLine columns "row" c.schema ++
        [.text " for row in rows)"]]

def headingLines (c : Command) : List Line :=
  match c.returns with
  | .table columns =>
    plain ["@dataclass(frozen=True)", "class " ++ c.name ++ ":"] ++
      columns.map (fun column => .text "    " :: column.fieldLine c.schema) ++ plain [""]
  | _ => plain ["class " ++ c.name ++ ":"]

def signatureLine (c : Command) : Line :=
  .text "cls, db: SqlConn" ::
    if c.parameters.isEmpty then []
    else .text ", *" ::
      Attribute.afterSeparatorLine (c.parameters.map fun p => p.typedLine c.schema)

def sendLine (c : Command) (query : String) : Line :=
  .text ("await cursor.execute(" ++ Text.quote query) ::
    Attribute.afterSeparatorLine (c.parameters.map fun p => p.bindLine c.schema) ++ [.text ")"]

def lines (c : Command) : Except Failure (List Line) := do
  let query ← c.text
  return c.headingLines ++
    [[.text "    @classmethod"],
      .text "    async def execute(" :: c.signatureLine ++ .text ") -> " :: c.returnLine ++
        [.text ":"],
      [.text ("        \"\"\"Execute " ++
        (if c.qualifiedName = "" then c.name else c.qualifiedName) ++ ".\"\"\"")],
      [.text "        async with db.connection.cursor() as cursor:"]] ++
    indentLines 3
      (plain ["if db.transaction is not None:", "    db.transaction.enlist(cursor)"] ++
        plain c.bindTypes ++ [c.sendLine query] ++ c.resultLines)

theorem returnHint_eq_line (c : Command) : c.returnHint = lineText c.returnLine := by
  unfold returnHint returnLine
  cases c.returns <;> simp [SqlType.storage_eq_line]

theorem readResult_eq_lines (c : Command) : c.readResult = c.resultLines.map lineText := by
  unfold readResult resultLines
  cases c.returns <;>
    simp [SqlType.readAccessor_eq_line, Attribute.readRow_eq_line, String.append_assoc]

theorem heading_eq_lines (c : Command) : c.heading = c.headingLines.map lineText := by
  unfold heading headingLines
  cases c.returns <;> simp [Attribute.field_eq_line, Function.comp_def]

theorem signature_eq_line (c : Command) : c.signature = lineText c.signatureLine := by
  unfold signature signatureLine Attribute.typedNames
  split <;> simp [← Attribute.afterSeparator_eq_line, Attribute.typed_eq_line, Function.comp_def]

theorem sendText_eq_line (c : Command) (query : String) :
    c.sendText query = lineText (c.sendLine query) := by
  have arguments : c.parameters.map (·.bindValue (some c.schema)) =
      (c.parameters.map (·.bindLine c.schema)).map lineText := by
    simp [Attribute.bindValue_eq_line]
  unfold sendText sendLine
  rw [arguments, Attribute.afterSeparator_eq_line]
  simp only [lineText_append, lineText_cons, toText_text, lineText_nil, String.append_empty,
    String.append_assoc]

theorem render_eq_lines (c : Command) : c.render = c.lines.map (·.map lineText) := by
  unfold render lines
  cases c.text with
  | error e => rfl
  | ok query =>
    simp [Except.map, heading_eq_lines, signature_eq_line, returnHint_eq_line, sendText_eq_line,
      readResult_eq_lines, String.append_assoc]

end Command

namespace Bundle

def titledLines (heading : String) (blocks : List (List Line)) : List Line :=
  if blocks.isEmpty then []
  else plain (["", ""] ++ Render.title heading) ++
    blocks.flatMap fun block => plain ["", ""] ++ block

def getterLines (blocks : List (List Line)) : List Line :=
  if blocks.isEmpty then []
  else plain (["", ""] ++ Render.title "Table Getters" ++
    ["", "", "class TableGetters:",
      "    \"\"\"Getters returning every row of a base table.\"\"\""]) ++
    blocks.flatMap fun block => plain [""] ++ indentLines 1 block

/-- The module of a schema, in pieces. -/
def lines (b : Bundle) : Except Failure (List Line) := do
  let storedProcedures ← b.storedProcedures.mapM Command.lines
  let functions ← b.functions.mapM Command.lines
  let tableGetters ← b.tableGetters.mapM Command.lines
  return plain ([banner, "\"\"\"Bindings for the " ++ b.schema ++ " schema.\"\"\""] ++ imports ++
    b.schemaImports) ++
    titledLines "User-Defined Table Types" (b.tableTypes.map TableType.lines) ++
    titledLines "Stored Procedures" storedProcedures ++
    titledLines "User Defined Functions" functions ++
    getterLines tableGetters

theorem titled_eq_lines (heading : String) (blocks : List (List Line)) :
    titled heading (blocks.map (·.map lineText)) = (titledLines heading blocks).map lineText := by
  unfold titled titledLines
  cases blocks with
  | nil => rfl
  | cons block rest => simp [List.flatMap_map, List.map_flatMap]

theorem getterSection_eq_lines (blocks : List (List Line)) :
    getterSection (blocks.map (·.map lineText)) = (getterLines blocks).map lineText := by
  unfold getterSection getterLines
  cases blocks with
  | nil => rfl
  | cons block rest => simp [List.flatMap_map, List.map_flatMap]

theorem mapM_render (commands : List Command) :
    commands.mapM Command.render = (commands.mapM Command.lines).map (·.map (·.map lineText)) := by
  induction commands with
  | nil => rfl
  | cons c rest ih =>
    rw [List.mapM_cons, List.mapM_cons, Command.render_eq_lines, ih]
    cases c.lines with
    | error e => rfl
    | ok lines => cases rest.mapM Command.lines <;> rfl

/-- The module in pieces is the module that is rendered. -/
theorem render_eq_lines (b : Bundle) : b.render = b.lines.map (·.map lineText) := by
  unfold render lines
  rw [mapM_render, mapM_render, mapM_render]
  cases b.storedProcedures.mapM Command.lines with
  | error e => rfl
  | ok procedures =>
    cases b.functions.mapM Command.lines with
    | error e => rfl
    | ok functions =>
      cases b.tableGetters.mapM Command.lines with
      | error e => rfl
      | ok getters =>
        have types : b.tableTypes.map TableType.render =
            (b.tableTypes.map TableType.lines).map (·.map lineText) := by
          simp [TableType.render_eq_lines]
        simp only [Except.map, ok_bind, pure_eq_ok, types, titled_eq_lines, getterSection_eq_lines,
          List.map_append, map_plain]

end Bundle

end SqlBindings
