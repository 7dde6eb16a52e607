/-!
Days of the calendar and moments of a day, each with its text and with the expression that denotes it
in Python source. The rule of the leap years holds for all years.
-/

namespace SqlBindings.Calendar

/-- The distance of a local time from the universal one, in minutes. -/
structure Offset where
  minutes : Int
deriving DecidableEq, Repr

inductive Fault where
  | year (n : Nat)
  | month | day | hour | minute | second
  /-- Less than a day is allowed in either direction. -/
  | offset (offset : Offset)
deriving DecidableEq, Repr

structure Date where
  year : Nat
  month : Nat
  day : Nat
deriving DecidableEq, Repr

/-- A time of a day, as clocks show it where the offset holds. -/
structure Moment where
  date : Date
  hour : Nat
  minute : Nat
  second : Nat
  microsecond : Nat
  offset : Option Offset
deriving DecidableEq, Repr

def isLeap (year : Nat) : Bool := year % 4 == 0 && (year % 100 != 0 || year % 400 == 0)

def daysInMonth (year month : Nat) : Nat :=
  if month = 2 then if isLeap year then 29 else 28
  else if [4, 6, 9, 11].contains month then 30
  else 31

def padded (width n : Nat) : String :=
  let digits := toString n
  String.ofList (List.replicate (width - digits.length) '0') ++ digits

namespace Offset

def universal : Offset := ⟨0⟩

/-- The expression of a span of time, whose seconds are not negative while its days may be. -/
def spanLiteral (o : Offset) : String :=
  let seconds := 60 * o.minutes
  let days := Int.fdiv seconds 86400
  let rest := Int.fmod seconds 86400
  let parts := (if days = 0 then [] else ["days=" ++ toString days]) ++
    (if rest = 0 then [] else ["seconds=" ++ toString rest])
  "datetime.timedelta(" ++ (if parts.isEmpty then "0" else ", ".intercalate parts) ++ ")"

def literal (o : Offset) : String :=
  if o = universal then "datetime.timezone.utc"
  else "datetime.timezone(" ++ o.spanLiteral ++ ")"

def text (o : Offset) : String :=
  let minutes := o.minutes.natAbs
  (if o.minutes < 0 then "-" else "+") ++ padded 2 (minutes / 60) ++ ":" ++ padded 2 (minutes % 60)

def check (o : Offset) : Except Fault Unit :=
  if o.minutes.natAbs < 24 * 60 then .ok () else .error (.offset o)

end Offset

namespace Date

/-- The date of three numbers. The years 1 to 9999 can be told. -/
def ofNumbers (year month day : Nat) : Except Fault Date :=
  if year = 0 ∨ 9999 < year then .error (.year year)
  else if month = 0 ∨ 12 < month then .error .month
  else if day = 0 ∨ daysInMonth year month < day then .error .day
  else .ok ⟨year, month, day⟩

def text (d : Date) : String := padded 4 d.year ++ "-" ++ padded 2 d.month ++ "-" ++ padded 2 d.day

def numbers (d : Date) : List Nat := [d.year, d.month, d.day]

def literal (d : Date) : String :=
  "datetime.date(" ++ ", ".intercalate (d.numbers.map toString) ++ ")"

/-- The number of days before this one, from the first day of the year 1 on. -/
def ordinal (d : Date) : Nat :=
  let before := d.year - 1
  let ofYears := 365 * before + before / 4 - before / 100 + before / 400
  let ofMonths := (List.range (d.month - 1)).foldl (fun n m => n + daysInMonth d.year (m + 1)) 0
  ofYears + ofMonths + (d.day - 1)

end Date

namespace Moment

/-- Checks the numbers of a moment, those of its date first. -/
def check (m : Moment) : Except Fault Unit := do
  let _ ← Date.ofNumbers m.date.year m.date.month m.date.day
  if 24 ≤ m.hour then .error .hour
  else if 60 ≤ m.minute then .error .minute
  else if 60 ≤ m.second then .error .second
  else .ok ()

/-- The fraction of a second is shown only where there is one. -/
def text (m : Moment) : String :=
  m.date.text ++ " " ++ padded 2 m.hour ++ ":" ++ padded 2 m.minute ++ ":" ++ padded 2 m.second ++
    (if m.microsecond = 0 then "" else "." ++ padded 6 m.microsecond) ++
    ((m.offset.map Offset.text).getD "")

/-- Seconds are left out where they and their fraction are zero. -/
def literal (m : Moment) : String :=
  let seconds :=
    if m.microsecond ≠ 0 then [m.second, m.microsecond]
    else if m.second ≠ 0 then [m.second] else []
  let numbers := (m.date.numbers ++ [m.hour, m.minute] ++ seconds).map toString
  let zone := (m.offset.map fun o => "tzinfo=" ++ o.literal).toList
  "datetime.datetime(" ++ ", ".intercalate (numbers ++ zone) ++ ")"

/-- The microseconds since the first day, as clocks show them. -/
def localTime (m : Moment) : Int :=
  (((m.date.ordinal * 24 + m.hour) * 60 + m.minute) * 60 + m.second) * 1000000 + m.microsecond

/-- Whether two moments are the same point in time. One with an offset and one without never are. -/
def isSame (m n : Moment) : Bool :=
  match m.offset, n.offset with
  | some o, some p =>
    m.localTime - o.minutes * 60000000 == n.localTime - p.minutes * 60000000
  | none, none => m == n
  | _, _ => false

end Moment

def Fault.message : Fault → String
  | year n => "year " ++ toString n ++ " is out of range"
  | month => "month must be in 1..12"
  | day => "day is out of range for month"
  | hour => "hour must be in 0..23"
  | minute => "minute must be in 0..59"
  | second => "second must be in 0..59"
  | offset o =>
    "offset must be a timedelta strictly between -timedelta(hours=24) and " ++
      "timedelta(hours=24), not " ++ o.spanLiteral ++ "."

end SqlBindings.Calendar
