import SqlBindings.Catalog.Entry

/-!
Attributes: the named, typed columns and parameters that bindings are made of. An attribute has a
name in generated code and the name under which it is bound in SQL.
-/

namespace SqlBindings

structure Attribute where
  name : String
  type : SqlType
  nullable : Bool
  /-- The name in SQL, with a leading `@`. -/
  bindName : String
deriving DecidableEq, Repr

namespace Attribute

open Catalog (Column Parameter ResultColumn)

/-- An attribute with both names derived from its name in SQL. The name that is bound is taken before
escaping, so `@from` stays `@from` while the attribute is called `from_`. -/
def derive (sqlName : String) (type : SqlType) (nullable : Bool) : Except Failure Attribute := do
  return ⟨← Name.attributeName sqlName, type, nullable, Name.bindPrefix ++ sqlName⟩

def ofColumn (c : Column) : Except Failure Attribute := do
  let type ← SqlType.ofNative c.dataType
  derive c.name type c.nullable

def isNullLiteral (text : String) : Bool :=
  Text.lowerChars (Text.trimBlanks text.toList) == "null".toList

def typeOfParameter (p : Parameter) : Except Failure SqlType :=
  if p.isTableType then .ok (.table p.dataType p.typeSchema) else SqlType.ofNative p.dataType

/-- A parameter is nullable exactly if its declared default is NULL. -/
def ofParameter (p : Parameter) : Except Failure Attribute := do
  let type ← typeOfParameter p
  derive (← Name.ofParameter p.name) type (p.default.any isNullLiteral)

/-- What an unnamed result column is called. -/
def placeholderName (position : Nat) : String :=
  if position = 0 then "Value" else "Value" ++ toString position

/-- The name of a result column; an empty name counts as none. -/
def resultName? (c : ResultColumn) : Option String := c.name.filter (· != "")

def ofResultColumn (c : ResultColumn) (position : Nat) : Except Failure Attribute := do
  let type ← SqlType.ofValueType c.valueType c.precision
  derive ((resultName? c).getD (placeholderName position)) type c.nullable

/-- The fields of an attribute record. A record that leaves out the bound name has both names derived
from the one it gives. -/
def withBindName (fields : List (String × Datum)) : Except Failure (List (String × Datum)) :=
  if (fields.lookup "bind_name").isSome then .ok fields
  else
    let name := Datum.get "name" fields
    if !name.isSet then .error .emptyName
    else match name with
      | .text sqlName => do
        let derived := [("name", Datum.text (← Name.attributeName sqlName)),
          ("bind_name", .text (Name.bindPrefix ++ sqlName))]
        return derived ++ fields.filter (·.1 != "name")
      | other => .error (.data (.noOperation other.kind "isidentifier"))

def check : Check Attribute :=
  .record .namedAttribute fun given => do
    let fields ← withBindName given
    let name ← Check.required fields "name" .text
    let type ← Check.required fields "db_type" SqlType.check
    let nullable ← Check.required fields "nullable" .bool
    let bindName ← Check.required fields "bind_name" .text
    return Attribute.mk <$> name <*> type <*> nullable <*> bindName

def toDatum (a : Attribute) : Datum :=
  .record [("name", .text a.name), ("db_type", a.type.toDatum), ("nullable", .bool a.nullable),
    ("bind_name", .text a.bindName)]

def checkDistinct : List Attribute → Except Failure Unit := go []
where
  go (seen : List String) : List Attribute → Except Failure Unit
    | [] => .ok ()
    | a :: rest => if seen.contains a.name then .error (.duplicateAttribute a.name)
      else go (a.name :: seen) rest

end Attribute

end SqlBindings
