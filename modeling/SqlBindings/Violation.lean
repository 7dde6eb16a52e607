/-!
What a record check finds: the place of a value inside the record and the rule it breaks. Each rule
has a short code and a message.
-/

namespace SqlBindings

inductive RecordKind where
  | sqlType | namedAttribute
  | column | parameter | tableType | function | procedure | table | resultColumn
  | noReturn | singleReturn | tableReturn
  | tableTypeDefinition | command | bundle
deriving DecidableEq, Repr

def RecordKind.label : RecordKind → String
  | sqlType => "DbType"
  | namedAttribute => "NamedAttribute"
  | column => "CatalogColumn"
  | parameter => "CatalogParameter"
  | tableType => "CatalogTableType"
  | function => "CatalogFunction"
  | procedure => "CatalogProcedure"
  | table => "CatalogTable"
  | resultColumn => "ResultColumn"
  | noReturn => "NoReturn"
  | singleReturn => "SingleReturn"
  | tableReturn => "TableReturn"
  | tableTypeDefinition => "TableTypeDef"
  | command => "Command"
  | bundle => "SchemaBundle"

inductive PathStep where
  | field (name : String)
  | index (position : Nat)
deriving DecidableEq, Repr

inductive Rule where
  | missing
  | textExpected
  | boolUnreadable
  | boolExpected
  | intUnreadable
  | intFractional
  | intTooLong
  | intNotFinite
  | intExpected
  | oneOf (values : List String)
  | listExpected
  | tupleExpected
  | tooShort
  | recordExpected (kind : RecordKind)
  | shapeSourceExpected
  | shapeMissing
  | shapeUnknown (shown : String)
  | typeExpected
  /-- Every field is in order, but together they break a rule stated in words. -/
  | joint (text : String)
deriving DecidableEq, Repr

/-- Quoted alternatives, the last one after `or`. -/
def alternatives : List String → String
  | [] => ""
  | [a] => "'" ++ a ++ "'"
  | [a, b] => "'" ++ a ++ "' or '" ++ b ++ "'"
  | a :: rest => "'" ++ a ++ "', " ++ alternatives rest

def Rule.code : Rule → String
  | missing => "missing"
  | textExpected => "string_type"
  | boolUnreadable => "bool_parsing"
  | boolExpected => "bool_type"
  | intUnreadable => "int_parsing"
  | intFractional => "int_from_float"
  | intTooLong => "int_parsing_size"
  | intNotFinite => "finite_number"
  | intExpected => "int_type"
  | oneOf _ => "enum"
  | listExpected => "list_type"
  | tupleExpected => "tuple_type"
  | tooShort => "too_short"
  | recordExpected _ => "model_type"
  | shapeSourceExpected => "model_attributes_type"
  | shapeMissing => "union_tag_not_found"
  | shapeUnknown _ => "union_tag_invalid"
  | typeExpected => "is_type"
  | joint _ => "value_error"

def Rule.message : Rule → String
  | missing => "Field required"
  | textExpected => "Input should be a valid string"
  | boolUnreadable => "Input should be a valid boolean, unable to interpret input"
  | boolExpected => "Input should be a valid boolean"
  | intUnreadable =>
    "Input should be a valid integer, unable to parse string as an integer"
  | intFractional => "Input should be a valid integer, got a number with a fractional part"
  | intTooLong => "Unable to parse input string as an integer, exceeded maximum size"
  | intNotFinite => "Input should be a finite number"
  | intExpected => "Input should be a valid integer"
  | oneOf values => "Input should be " ++ alternatives values
  | listExpected => "Input should be a valid list"
  | tupleExpected => "Input should be a valid tuple"
  | tooShort => "Tuple should have at least 1 item after validation, not 0"
  | recordExpected kind =>
    "Input should be a valid dictionary or instance of " ++ kind.label
  | shapeSourceExpected =>
    "Input should be a valid dictionary or object to extract fields from"
  | shapeMissing => "Unable to extract tag using discriminator 'shape'"
  | shapeUnknown shown =>
    "Input tag '" ++ shown ++ "' found using 'shape' does not match any of the expected tags: " ++
      "'none', 'single', 'table'"
  | typeExpected => "Input should be a type"
  | joint text => "Value error, " ++ text

structure Violation where
  path : List PathStep
  rule : Rule
deriving DecidableEq, Repr

def PathStep.display : PathStep → String
  | field name => name
  | index position => toString position

/-- The violations of one record as a text of several lines. -/
def Violation.report (kind : RecordKind) (violations : List Violation) : String :=
  let count := violations.length
  let heading :=
    toString count ++ " validation error" ++ (if count == 1 then "" else "s") ++ " for " ++ kind.label
  "\n".intercalate (heading :: violations.flatMap fun v =>
    (if v.path.isEmpty then [] else [".".intercalate (v.path.map PathStep.display)]) ++
      ["  " ++ v.rule.message ++ " [type=" ++ v.rule.code ++ "]"])

end SqlBindings
