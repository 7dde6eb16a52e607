/-!
Object names in SQL text. Each part stands in brackets, a closing bracket inside it is doubled, and
dots separate the parts. `readParts?` reads such a name back.
-/

namespace SqlBindings.Sql

def doubleBrackets : List Char → List Char
  | [] => []
  | c :: rest => if c = ']' then ']' :: ']' :: doubleBrackets rest else c :: doubleBrackets rest

def bracketed (part : String) : String := "[" ++ String.ofList (doubleBrackets part.toList) ++ "]"

/-- The name of an object in a schema. A part that is empty is left out. -/
def qualifiedName (schema name : String) : String :=
  ".".intercalate (([schema, name].filter (· != "")).map bracketed)

/-- The parts behind an opening bracket; `part` holds what has been read of the first one. -/
def partsFrom? (part : List Char) : List Char → Option (List (List Char))
  | [] => none
  | [']'] => some [part]
  | ']' :: ']' :: rest => partsFrom? (part ++ [']']) rest
  | ']' :: '.' :: '[' :: rest => (partsFrom? [] rest).map (part :: ·)
  | c :: rest => if c = ']' then none else partsFrom? (part ++ [c]) rest

def readParts? : List Char → Option (List (List Char))
  | '[' :: rest => partsFrom? [] rest
  | _ => none

theorem partsFrom?_doubleBrackets (part cs : List Char) :
    partsFrom? part (doubleBrackets cs ++ [']']) = some [part ++ cs] := by
  induction cs generalizing part with
  | nil => simp [doubleBrackets, partsFrom?]
  | cons c rest ih =>
    by_cases hc : c = ']'
    · simp [doubleBrackets, partsFrom?, hc, ih]
    · simp [doubleBrackets, partsFrom?, hc, ih]

theorem partsFrom?_doubleBrackets_dot (part cs rest : List Char) :
    partsFrom? part (doubleBrackets cs ++ ']' :: '.' :: '[' :: rest) =
      (partsFrom? [] rest).map ((part ++ cs) :: ·) := by
  induction cs generalizing part with
  | nil => simp [doubleBrackets, partsFrom?]
  | cons c cs ih =>
    by_cases hc : c = ']'
    · simp [doubleBrackets, partsFrom?, hc, ih]
    · simp [doubleBrackets, partsFrom?, hc, ih]

end SqlBindings.Sql
