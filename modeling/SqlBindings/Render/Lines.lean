namespace SqlBindings.Render

def indentStep : String := "    "

/-- Indents every line that is not empty. -/
def indentBy (level : Nat) (lines : List String) : List String :=
  let margin := String.join (List.replicate level indentStep)
  lines.map fun line => if line = "" then line else margin ++ line

/-- A heading between two rules of its own length. -/
def title (text : String) : List String :=
  let rule := "# " ++ String.ofList (List.replicate text.length '-')
  [rule, "# " ++ text, rule]

def commaSeparated (items : List String) : String := ", ".intercalate items

/-- A tuple display; a single item is followed by a comma. -/
def tuple : List String → String
  | [item] => "(" ++ item ++ ",)"
  | items => "(" ++ commaSeparated items ++ ")"

end SqlBindings.Render
