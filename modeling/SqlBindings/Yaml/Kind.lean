import SqlBindings.Number.Numeral
import SqlBindings.Sql.ConnectionString
import SqlBindings.Yaml.Timestamp

/-!
The kinds of nodes. A node has a tag that names its kind, or else a plain scalar is known by its text
and any other node by its form.
-/

namespace SqlBindings.Yaml

inductive Kind where
  | null | bool | int | float | timestamp | binary | text
  | sequence | mapping | set
  /-- Lists of pairs, which differ in their tag only. -/
  | orderedMapping | pairs
  /-- The key whose mappings are merged into its own. -/
  | merge
  /-- The key of the value that a mapping stands for where a scalar is expected. -/
  | standIn
  | unknown
deriving DecidableEq, Repr

namespace Kind

def standardTags : String := "tag:yaml.org,2002:"

def named : List (String × Kind) :=
  [("null", null), ("bool", bool), ("int", int), ("float", float), ("timestamp", timestamp),
    ("binary", binary), ("str", text), ("seq", sequence), ("map", mapping), ("set", set),
    ("omap", orderedMapping), ("pairs", pairs), ("merge", merge), ("value", standIn)]

def ofTag (tag : String) : Kind :=
  ((named.find? fun (name, _) => standardTags ++ name == tag).map (·.2)).getD unknown

def isCollection : Kind → Bool
  | sequence | mapping | set | orderedMapping | pairs => true
  | _ => false

def casings (word : String) : List String := [word, word.capitalize, word.toUpper]

def nullWords : List String := ["", "~"] ++ casings "null"

def boolWords : List String := ["yes", "no", "true", "false", "on", "off"].flatMap casings

def mergeMark : String := "<<"

def standInMark : String := "="

/-- Marks that begin other tokens and have no meaning of their own. -/
def unusedMarks : List String := ["!", "&", "*"]

def isFiller (c : Char) : Bool := c.isDigit || c == '_'

/-- One or two digits of a number below sixty. -/
def isSixtieth : List Char → Bool
  | [d] => d.isDigit
  | [t, d] => '0' ≤ t && t ≤ '5' && d.isDigit
  | _ => false

def isWhole (cs : List Char) : Bool := cs.head?.any Char.isDigit && cs.all isFiller

/-- Numbers to the base sixty that colons separate, at least two of them. -/
def isSexagesimal (cs : List Char) : Bool :=
  match Sql.splitAtChar ':' cs with
  | first :: part :: parts => isWhole first && (part :: parts).all isSixtieth
  | _ => false

/-- An integer without its sign. A zero in front of more makes it octal. -/
def isNatural : List Char → Bool
  | ['0'] => true
  | '0' :: 'b' :: digits => !digits.isEmpty && digits.all fun c => "01_".toList.contains c
  | '0' :: 'x' :: digits =>
    !digits.isEmpty && digits.all fun c => c == '_' || (Number.hexValue? c).isSome
  | '0' :: digits => !digits.isEmpty && digits.all fun c => "01234567_".toList.contains c
  | cs => isWhole cs || isSexagesimal cs

def isInt (cs : List Char) : Bool := isNatural (Number.splitSign cs).2

/-- An exponent, which always has a sign, or nothing. -/
def isExponent : List Char → Bool
  | [] => true
  | e :: sign :: digits =>
    (e == 'e' || e == 'E') && (sign == '+' || sign == '-') && !digits.isEmpty &&
      digits.all Char.isDigit
  | _ => false

def isFraction (cs : List Char) : Bool := isExponent (cs.dropWhile isFiller)

def infinityWords : List String := casings "inf"

def notANumberWords : List String := ["nan", "NaN", "NAN"]

/-- A number with a point. One that begins with its point has no sign. -/
def isFloat (cs : List Char) : Bool :=
  let body := (Number.splitSign cs).2
  let signed := body.length != cs.length
  match body.takeWhile (· != '.'), body.dropWhile (· != '.') with
  | _, [] => false
  | [], _ :: rest =>
    infinityWords.contains (String.ofList rest) ||
      (!signed && (notANumberWords.contains (String.ofList rest) ||
        (rest.head?.any Char.isDigit && isFraction rest)))
  | whole, _ :: rest =>
    (isWhole whole && isFraction rest) || (isSexagesimal whole && rest.all isFiller)

/-- A text without the line feed at its end, one of which does not count. -/
def withoutLineFeed (cs : List Char) : List Char :=
  if cs.getLast? = some '\n' then cs.dropLast else cs

def ofText (text : String) : Kind :=
  let cs := withoutLineFeed text.toList
  let word := String.ofList cs
  if text = "" then null
  else if word = "" then .text
  else if nullWords.contains word then null
  else if boolWords.contains word then bool
  else if isFloat cs then float
  else if isInt cs then int
  else if Timestamp.isPlain cs then timestamp
  else if word = mergeMark then merge
  else if word = standInMark then standIn
  else if unusedMarks.contains word then unknown
  else .text

end Kind

end SqlBindings.Yaml
