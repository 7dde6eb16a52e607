import SqlBindings.Failure
import SqlBindings.Text.Case

/-!
Checking untyped data. The verdict on a record gathers the violations of all its fields; a cause of
another kind, such as an invalid name, leaves the check at once.
-/

namespace SqlBindings

inductive Verdict (α : Type) where
  | accepted (value : α)
  | refused (violations : List Violation)
deriving Repr

namespace Verdict

variable {α β : Type}

/-- Violations of the two parts are reported together, those of the first part first. -/
instance : Applicative Verdict where
  pure := accepted
  seq f x :=
    match f, x () with
    | accepted f, accepted a => accepted (f a)
    | accepted _, refused vs => refused vs
    | refused vs, accepted _ => refused vs
    | refused vs, refused ws => refused (vs ++ ws)

def breaks (rule : Rule) : Verdict α := refused [⟨[], rule⟩]

def under (step : PathStep) : Verdict α → Verdict α
  | accepted a => accepted a
  | refused vs => refused (vs.map fun v => { v with path := step :: v.path })

/-- A rule that looks at the value once all its parts are in order. -/
def andThen (v : Verdict α) (f : α → Verdict β) : Verdict β :=
  match v with
  | accepted a => f a
  | refused vs => refused vs

def orReject (kind : RecordKind) : Verdict α → Except Failure α
  | accepted a => .ok a
  | refused vs => .error (.rejected kind vs)

end Verdict

abbrev Check (α : Type) := Datum → Except Failure (Verdict α)

namespace Check

variable {α : Type}

def text : Check String
  | .text s => return .accepted s
  | _ => return .breaks .textExpected

def boolOfText? (s : String) : Option Bool :=
  let word := s.map Char.toLower
  if ["0", "off", "f", "false", "n", "no"].contains word then some false
  else if ["1", "on", "t", "true", "y", "yes"].contains word then some true
  else none

/-- Whether an integer has the width in which truth values are read. -/
def fitsWord (n : Int) : Bool := -(Number.powTwo 63 : Int) ≤ n && n < Number.powTwo 63

def boolOfInt (n : Int) : Verdict Bool :=
  if n = 0 then .accepted false
  else if n = 1 then .accepted true
  else .breaks .boolUnreadable

def bool : Check Bool
  | .bool b => return .accepted b
  | .text s => return match boolOfText? s with
    | some b => .accepted b
    | none => .breaks .boolUnreadable
  | .int n => return if fitsWord n then boolOfInt n else .breaks .boolExpected
  | .float x => return match (Datum.float x).toInt? with
    | some n => if fitsWord n then boolOfInt n else .breaks .boolExpected
    | none => .breaks .boolExpected
  | _ => return .breaks .boolExpected

/-- Drops zeros in front of another digit; single underscores among them go as well. -/
def dropLeadingZeros : List Char → Option (List Char)
  | ['0', '_'] => none
  | '0' :: '_' :: c :: rest => if c.isDigit then dropLeadingZeros (c :: rest) else none
  | '0' :: c :: rest =>
    if c.isDigit then dropLeadingZeros (c :: rest)
    else if c = '.' then some ('0' :: c :: rest)
    else none
  | ['0'] => some ['0']
  | c :: rest => if c.isDigit || c == '-' then some (c :: rest) else none
  | [] => none

def dropZeroFraction (cs : List Char) : List Char :=
  if (cs.dropWhile (· != '.')).drop 1 |>.all (· == '0') then cs.takeWhile (· != '.') else cs

def dropSeparators : List Char → Option (List Char)
  | [] => some []
  | ['_'] => none
  | '_' :: '_' :: _ => none
  | '_' :: rest => dropSeparators rest
  | c :: rest => (dropSeparators rest).map (c :: ·)

/-- A numeral without sign, separators or superfluous zeros. -/
def plainNumeral? : List Char → Option Nat
  | ['0'] => some 0
  | c :: rest =>
    if c ≠ '0' ∧ (c :: rest).all Char.isDigit then
      some ((c :: rest).foldl (fun n d => 10 * n + (d.toNat - 48)) 0)
    else none
  | [] => none

def signedNumeral? : List Char → Option Int
  | '-' :: rest => (plainNumeral? rest).map fun n => -(n : Int)
  | cs => (plainNumeral? cs).map Int.ofNat

/-- Reads a numeral. Blanks around it, a plus sign, leading zeros, single underscores between digits
and a fractional part of zeros are allowed. -/
def intOfText? (s : String) : Option Int := do
  let cs := Text.trimBlanks s.toList
  let unsigned ← match cs with
    | '+' :: '-' :: _ => none
    | '+' :: rest => some rest
    | cs => some cs
  if unsigned.head? = some '_' then none
  let digits ← dropSeparators (dropZeroFraction (← dropLeadingZeros unsigned))
  signedNumeral? digits

def longestNumeral : Nat := 4300

def int : Check Int
  | .int n => return .accepted n
  | .bool b => return .accepted (if b then 1 else 0)
  | .text s => return match intOfText? s with
    | some n => if s.length > longestNumeral then .breaks .intTooLong else .accepted n
    | none => .breaks .intUnreadable
  | .float x => return match (Datum.float x).toInt? with
    | some n => if fitsWord n then .accepted n else .breaks .intTooLong
    | none => .breaks (if x.isNaN || x.isInf then .intNotFinite else .intFractional)
  | _ => return .breaks .intExpected

def orNull (check : Check α) : Check (Option α)
  | .null => return .accepted none
  | d => return some <$> (← check d)

/-- The items of a list, counted from `position`. Also says how many items are in order. -/
def itemsFrom (check : Check α) (position : Nat) : List Datum → Except Failure (Verdict (List α) × Nat)
  | [] => return (.accepted [], 0)
  | d :: ds => do
    let item ← check d
    let (rest, sound) ← itemsFrom check (position + 1) ds
    let here := match item with
      | .accepted _ => 1
      | .refused _ => 0
    return (List.cons <$> item.under (.index position) <*> rest, here + sound)

/-- A list; `rule` is broken by anything else. -/
def listOf (rule : Rule) (check : Check α) : Check (List α)
  | .list items => return (← itemsFrom check 0 items).1
  | _ => return .breaks rule

/-- A tuple with at least one item that is in order. -/
def someOf (check : Check α) : Check (List α)
  | .list items => do
    let (verdict, sound) ← itemsFrom check 0 items
    return if sound = 0 then
        match verdict with
        | .accepted _ => .breaks .tooShort
        | .refused vs => .refused (vs ++ [⟨[], .tooShort⟩])
      else verdict
  | _ => return .breaks .tupleExpected

/-- A rule on the value that leaves the whole check when it is broken. -/
def ensuring (check : Check α) (rule : α → Except Failure Unit) : Check α := fun d => do
  match ← check d with
  | .accepted a =>
    rule a
    return .accepted a
  | .refused vs => return .refused vs

def required (fields : List (String × Datum)) (name : String) (check : Check α) :
    Except Failure (Verdict α) :=
  match fields.lookup name with
  | none => return .refused [⟨[.field name], .missing⟩]
  | some d => return (← check d).under (.field name)

def optional (fields : List (String × Datum)) (name : String) (default : α) (check : Check α) :
    Except Failure (Verdict α) :=
  match fields.lookup name with
  | none => return .accepted default
  | some d => return (← check d).under (.field name)

def record (kind : RecordKind) (fields : List (String × Datum) → Except Failure (Verdict α)) :
    Check α
  | .record values => fields values
  | _ => return .breaks (.recordExpected kind)

def oneOf (values : List (String × α)) : Check α
  | .text s => return match values.lookup s with
    | some a => .accepted a
    | none => .breaks (.oneOf (values.map (·.1)))
  | _ => return .breaks (.oneOf (values.map (·.1)))

/-- The typed value of a record that stands on its own. -/
def run (check : Check α) (kind : RecordKind) (d : Datum) : Except Failure α := do
  (← check d).orReject kind

end Check

end SqlBindings
