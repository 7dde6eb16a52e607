import SqlBindings.Attribute
import SqlBindings.Render.Lines

/-!
Attributes in generated source: as annotated names, as parameters, as arguments and as cells read
from a row. Where a schema is given, the text is meant for the module of that schema.
-/

namespace SqlBindings

open Render (commaSeparated)

def Render.optional (nullable : Bool) (hint : String) : String :=
  if nullable then "Optional[" ++ hint ++ "]" else hint

def Render.unlessNone (nullable : Bool) (subject expression : String) : String :=
  if nullable then "(None if " ++ subject ++ " is None else " ++ expression ++ ")" else expression

namespace Attribute

def typeHint (a : Attribute) (schema : Option String) : String :=
  Render.optional a.nullable (a.type.storage schema)

/-- A field or keyword parameter with its type. -/
def field (a : Attribute) (schema : Option String) : String :=
  a.name ++ ": " ++ a.typeHint schema

/-- A keyword parameter; nullable ones may be left out. -/
def typed (a : Attribute) (schema : Option String) : String :=
  a.field schema ++ if a.nullable then " = None" else ""

/-- Each item after a separator, to follow parameters that are always there. -/
def afterSeparator (items : List String) : String := String.join (items.map (", " ++ ·))

def names (attributes : List Attribute) : List String := attributes.map Attribute.name

def typedNames (attributes : List Attribute) (schema : Option String) : List String :=
  attributes.map fun a => a.typed schema

def bindList (attributes : List Attribute) : String :=
  commaSeparated (attributes.map fun a => a.bindName ++ " = ?")

def placeholders (attributes : List Attribute) : String :=
  commaSeparated (attributes.map fun _ => "?")

def readValue (a : Attribute) (row : String) (index : Int) (schema : Option String) : String :=
  Render.unlessNone a.nullable (row ++ "[" ++ toString index ++ "]")
    (a.type.readAccessor row index schema)

def readValuesFrom (index : Nat) (row : String) (schema : Option String) :
    List Attribute → List String
  | [] => []
  | a :: rest => a.readValue row index schema :: readValuesFrom (index + 1) row schema rest

def readRow (columns : List Attribute) (row : String) (schema : Option String) : String :=
  "cls(" ++ commaSeparated (readValuesFrom 0 row schema columns) ++ ")"

def bindValue (a : Attribute) (schema : Option String) : String :=
  match a.type.reference? schema with
  | some reference =>
    Render.unlessNone a.nullable a.name (reference ++ ".to_parameter(" ++ a.name ++ ")")
  | none => a.name

end Attribute

end SqlBindings
