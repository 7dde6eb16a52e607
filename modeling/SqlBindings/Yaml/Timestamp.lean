import SqlBindings.Yaml.Fault

/-!
Dates and times as scalars write them: a date, and behind a letter `T` or blanks a time, which may have
a fraction of a second and the offset of its zone.
-/

namespace SqlBindings.Yaml

structure ClockTime where
  hour : Nat
  minute : Nat
  second : Nat
  microsecond : Nat
  offset : Option Calendar.Offset

/-- The numbers of a timestamp, which need not be in range. -/
structure Timestamp where
  date : Calendar.Date
  /-- Whether month and day have two digits each. -/
  full : Bool
  time : Option ClockTime

namespace Timestamp

def isGap (c : Char) : Bool := c == ' ' || c == '\t'

/-- A number of at least `least` digits, of which no more than `most` are taken. -/
def number? (least most : Nat) (cs : List Char) : Option (Nat × List Char) :=
  let digits := (cs.takeWhile Char.isDigit).take most
  if digits.length < least then none
  else some (Number.ofDigits 10 (Number.leadingDigits 10 digits), cs.drop digits.length)

def after? (c : Char) : List Char → Option (List Char)
  | d :: rest => if d = c then some rest else none
  | [] => none

def date? (cs : List Char) : Option (Calendar.Date × Bool × List Char) := do
  let (year, cs) ← number? 4 4 cs
  let (month, afterMonth) ← number? 1 2 (← after? '-' cs)
  let (day, rest) ← number? 1 2 (← after? '-' afterMonth)
  return (⟨year, month, day⟩, cs.length == rest.length + 6, rest)

/-- What follows a point, as millionths: further digits are cut off. -/
def fraction (cs : List Char) : Nat × List Char :=
  match cs with
  | '.' :: rest =>
    let digits := rest.takeWhile Char.isDigit
    let six := (digits ++ List.replicate 6 '0').take 6
    (Number.ofDigits 10 (Number.leadingDigits 10 six), rest.drop digits.length)
  | rest => (0, rest)

def offset? (cs : List Char) : Option Calendar.Offset :=
  match cs with
  | ['Z'] => some .universal
  | sign :: rest =>
    if sign = '+' ∨ sign = '-' then do
      let (hours, rest) ← number? 1 2 rest
      let minutes ← match rest with
        | [] => some 0
        | ':' :: rest => do
          let (minutes, rest) ← number? 2 2 rest
          if rest.isEmpty then some minutes else none
        | _ => none
      let minutes : Int := hours * 60 + minutes
      return ⟨if sign = '-' then -minutes else minutes⟩
    else none
  | [] => none

/-- The time behind a date, which begins with its separator. -/
def time? (cs : List Char) : Option ClockTime := do
  let rest ← match cs with
    | 'T' :: rest | 't' :: rest => some rest
    | c :: rest => if isGap c then some (rest.dropWhile isGap) else none
    | [] => none
  let (hour, rest) ← number? 1 2 rest
  let (minute, rest) ← number? 2 2 (← after? ':' rest)
  let (second, rest) ← number? 2 2 (← after? ':' rest)
  let (microsecond, rest) := fraction rest
  let offset ←
    if rest.isEmpty then some none else (offset? (rest.dropWhile isGap)).map some
  return ⟨hour, minute, second, microsecond, offset⟩

def ofChars? (cs : List Char) : Option Timestamp := do
  let (date, full, rest) ← date? cs
  if rest.isEmpty then return ⟨date, full, none⟩
  else return ⟨date, full, some (← time? rest)⟩

/-- Whether the text of a plain scalar makes it a timestamp: a date alone has to be full. -/
def isPlain (cs : List Char) : Bool := (ofChars? cs).any fun t => t.full || t.time.isSome

end Timestamp

end SqlBindings.Yaml
