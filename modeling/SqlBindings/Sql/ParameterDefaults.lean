import SqlBindings.Sql.Pattern

/-!
Defaults of routine parameters, found in the text of the routine. A declaration is a name, a type
and, after an equals sign, the literal of the default.
-/

namespace SqlBindings.Sql

open Pattern

def parameterName : Pattern := char '@' >> oneOrMore Text.isWord

def typePart : Pattern := optional (char '[') >> oneOrMore Text.isWord >> optional (char ']')

/-- A type with an optional schema, an optional list of arguments, and optionally `VARYING`. -/
def parameterType : Pattern :=
  optional (typePart >> char '.') >> typePart >>
    optional (blanks >> char '(' >> many (· != ')') >> char ')') >>
    optional (blank >> keyword "varying".toList)

/-- What stands between the name and the literal of the default. -/
def declaredType : Pattern :=
  blank >> optional (keyword "as".toList >> blank) >> parameterType >> blanks >> char '=' >> blanks

/-- The inside of a quoted string, in which a quote is written twice. -/
def quotedBody : Pattern
  | [] => [[]]
  | '\'' :: '\'' :: rest => quotedBody rest ++ ['\'' :: '\'' :: rest]
  | c :: rest => if c = '\'' then [c :: rest] else quotedBody rest ++ [c :: rest]

/-- A quoted string, perhaps with the prefix `N`, or a run of word characters, signs and points. -/
def defaultLiteral : Pattern :=
  (optional (one (Text.equalsLetter 'n')) >> char '\'' >> quotedBody >> char '\'') <|>
    oneOrMore fun c => c == '-' || c == '+' || Text.isWord c || c == '.'

/-- A declaration with a default, as found at the front of a text. -/
structure DefaultDeclaration where
  name : List Char
  literal : List Char
  width : Nat

def declaration? (cs : List Char) : Option DefaultDeclaration :=
  List.head? <|
    (parameterName cs).flatMap fun afterName =>
      (declaredType afterName).flatMap fun atLiteral =>
        (defaultLiteral atLiteral).map fun rest =>
          ⟨consumed cs afterName, consumed atLiteral rest, (consumed cs rest).length⟩

/-- The declarations of a text from left to right. The next `skip` characters belong to the
declaration found last. -/
def declarationsFrom (skip : Nat) : List Char → List DefaultDeclaration
  | [] => []
  | c :: rest =>
    match skip with
    | skip + 1 => declarationsFrom skip rest
    | 0 => match declaration? (c :: rest) with
      | some d => d :: declarationsFrom (d.width - 1) rest
      | none => declarationsFrom 0 rest

def addNew (entries : List (String × String)) (key value : String) : List (String × String) :=
  if (entries.lookup key).isSome then entries else entries ++ [(key, value)]

/-- The defaults declared in the text of a routine, by lower-case parameter name. The first
declaration of a name counts. -/
def parameterDefaults (definition : String) : List (String × String) :=
  (declarationsFrom 0 definition.toList).foldl (fun entries d =>
    addNew entries (String.ofList (Text.lowerChars d.name)) (String.ofList d.literal)) []

end SqlBindings.Sql
