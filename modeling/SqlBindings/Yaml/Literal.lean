import SqlBindings.Datum
import SqlBindings.Text.Base64
import SqlBindings.Text.Case
import SqlBindings.Yaml.Kind

/-!
The values of scalars of each kind. A scalar is of the kind that its tag says, so its text may be one
that would not have made it a scalar of that kind.
-/

namespace SqlBindings.Yaml.Literal

abbrev Result := Except ValueFault

def ofNumber {α : Type} (result : Except Number.Fault α) : Result α := result.mapError .number

def ofCalendar {α : Type} (result : Except Calendar.Fault α) : Result α :=
  result.mapError .calendar

def truthWords : List (String × Bool) :=
  [("yes", true), ("no", false), ("true", true), ("false", false), ("on", true), ("off", false)]

def bool (text : String) : Result Bool :=
  let word := Text.lower text
  match truthWords.lookup word with
  | some b => .ok b
  | none => .error (.notTruth word)

def colonBase : Nat := 60

/-- Whether a number is negative, and its text without the sign and without underscores, of which at
least one character is left in front of the sign. -/
def signed (text : List Char) : Result (Bool × List Char) :=
  let cs := text.filter (· != '_')
  if cs.isEmpty then .error .emptyNumber else .ok (Number.splitSign cs)

/-- An integer without its sign. A zero in front of more makes it octal. -/
def magnitude : List Char → Result Int
  | [] => .error .emptyNumber
  | ['0'] => .ok 0
  | '0' :: 'b' :: digits => ofNumber (Number.readInteger 2 digits)
  | '0' :: 'x' :: digits => ofNumber (Number.readInteger 16 digits)
  | '0' :: digits => ofNumber (Number.readInteger 8 ('0' :: digits))
  | cs => do
    let parts ← (Sql.splitAtChar ':' cs).mapM fun part => ofNumber (Number.readInteger 10 part)
    return parts.foldl (fun n part => colonBase * n + part) 0

def int (text : String) : Result Int := do
  let (negative, body) ← signed text.toList
  let n ← magnitude body
  return if negative then -n else n

/-- The sum of parts that weigh ever more. `weight` is that of the first. -/
def weighted (weight : Nat) (sum : Float) : List Float → Result Float
  | [] => .ok sum
  | part :: parts => do
    weighted (colonBase * weight) (sum + part * (← ofNumber (Number.ofNat weight))) parts

def float (text : String) : Result Float := do
  let (negative, body) ← signed (Text.lower (String.ofList (text.toList.filter (· != '_')))).toList
  let sign (x : Float) : Float := if negative then -x else x
  if body = ".inf".toList then return sign Number.infinity
  else if body = ".nan".toList then return Number.notANumber
  else if body.contains ':' then
    let parts ← (Sql.splitAtChar ':' body).mapM fun part => ofNumber (Number.readFloat part)
    return sign (← weighted 1 0 parts.reverse)
  else return sign (← ofNumber (Number.readFloat body))

def timestamp (text : String) : Result Datum :=
  match Timestamp.ofChars? (Kind.withoutLineFeed text.toList) with
  | none => .error .notTimestamp
  | some ⟨date, _, none⟩ => do
    return .date (← ofCalendar (Calendar.Date.ofNumbers date.year date.month date.day))
  | some ⟨date, _, some time⟩ => do
    if let some offset := time.offset then ofCalendar offset.check
    let m : Calendar.Moment :=
      ⟨date, time.hour, time.minute, time.second, time.microsecond, time.offset⟩
    ofCalendar m.check
    return .moment m

/-- Bytes, which are written in ASCII. -/
def bytes? (text : String) : Option (List UInt8) :=
  if text.toList.all (·.toNat < 0x80) then Text.Base64.decode? text.toList else none

end SqlBindings.Yaml.Literal
