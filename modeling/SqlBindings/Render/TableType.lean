import SqlBindings.Command
import SqlBindings.Render.Attribute

/-! The class of a table type: its fields, and methods that read and write its rows. -/

namespace SqlBindings.TableType

/-- A frozen dataclass with one field for each column. -/
def render (t : TableType) : List String :=
  let schema := some t.schema
  let row := Attribute.readRow t.columns "row" schema
  let tuples := "Tuple[" ++ t.name ++ ", ...]"
  ["@dataclass(frozen=True)",
    "class " ++ t.name ++ ":",
    "    TYPE_NAME = " ++ Text.quote t.name,
    "    SCHEMA_NAME = " ++ Text.quote t.schema,
    ""] ++
  t.columns.map (fun column => "    " ++ column.field schema) ++
  ["",
    "    @classmethod",
    "    def from_rows(cls, rows) -> " ++ tuples ++ ":",
    "        return tuple(" ++ row ++ " for row in rows)",
    "",
    "    @classmethod",
    "    async def from_cursor(cls, cursor) -> " ++ tuples ++ ":",
    "        values = []",
    "        while True:",
    "            row = await cursor.fetchone()",
    "            if row is None:",
    "                break",
    "            values.append(" ++ row ++ ")",
    "        return tuple(values)",
    "",
    "    @staticmethod",
    "    def to_rows(values: " ++ tuples ++ ") -> List[tuple]:",
    "        return [" ++ Render.tuple (t.columns.map fun column => "value." ++ column.name) ++
      " for value in values]",
    "",
    "    @classmethod",
    "    def to_parameter(cls, values: " ++ tuples ++ ") -> list:",
    "        return [cls.TYPE_NAME, cls.SCHEMA_NAME, *cls.to_rows(values)]"]

end SqlBindings.TableType
