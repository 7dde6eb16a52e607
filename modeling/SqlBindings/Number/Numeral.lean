import SqlBindings.Number.Hexadecimal
import SqlBindings.Number.Nearest
import SqlBindings.Text.Quoted

/-!
Numbers read from text. White space around a number is passed over, it may have a sign, and its digits
may be those of any script.
-/

namespace SqlBindings.Number

/-- The most digits that an integer may have where it is read or written to a base that is no power of
two. -/
def mostDigits : Nat := 4300

inductive Fault where
  | notInteger (base : Nat) (text : List Char)
  | notNumber (text : List Char)
  | tooManyDigits (count : Nat)
  | tooLongToWrite
  | tooLargeForFloat
deriving DecidableEq, Repr

def longestQuotation : Nat := 200

def digitLimit : String :=
  "Exceeds the limit (" ++ toString mostDigits ++ " digits) for integer string conversion"

def digitLimitAdvice : String := "; use sys.set_int_max_str_digits() to increase the limit"

def Fault.message : Fault → String
  | notInteger base text =>
    "invalid literal for int() with base " ++ toString base ++ ": " ++
      String.ofList ((Text.quoteChars text).take longestQuotation)
  | notNumber text => "could not convert string to float: " ++ String.ofList (Text.quoteChars text)
  | tooManyDigits count =>
    digitLimit ++ ": value has " ++ toString count ++ " digits" ++ digitLimitAdvice
  | tooLongToWrite => digitLimit ++ digitLimitAdvice
  | tooLargeForFloat => "int too large to convert to float"

/-! ### Signs, digits and white space -/

/-- Whether a number is negative, and its text without the sign. -/
def splitSign : List Char → Bool × List Char
  | '-' :: rest => (true, rest)
  | '+' :: rest => (false, rest)
  | cs => (false, cs)

/-- The blank, and the controls from the tab to the carriage return. -/
def isSpace (c : Char) : Bool := c == ' ' || ('\t' ≤ c && c ≤ '\r')

def trimSpaces (cs : List Char) : List Char :=
  ((cs.dropWhile isSpace).reverse.dropWhile isSpace).reverse

/-- White space and digits beyond ASCII as those of ASCII. -/
def simplify (c : Char) : Char :=
  if c.toNat < 0x80 then c
  else if Text.isBlank c then ' '
  else ((Text.digitValue? c).map hexDigit).getD c

/-- The value of digits, the first of which weighs most. -/
def ofDigits (base : Nat) (digits : List Nat) : Nat := digits.foldl (fun n d => base * n + d) 0

def leadingDigits (base : Nat) : List Char → List Nat
  | [] => []
  | c :: rest => match hexValue? c with
    | some d => if d < base then d :: leadingDigits base rest else []
    | none => []

/-! ### Integers -/

/-- The letter that announces a base behind a zero. -/
def baseLetter? : Nat → Option Char
  | 2 => some 'b'
  | 8 => some 'o'
  | 16 => some 'x'
  | _ => none

def dropBase (base : Nat) : List Char → List Char
  | '0' :: c :: rest => if some c.toLower = baseLetter? base then rest else '0' :: c :: rest
  | cs => cs

/-- The integer to a base of at most sixteen that a text denotes. Underscores are no digits. -/
def readInteger (base : Nat) (text : List Char) : Except Fault Int :=
  let (negative, body) := splitSign ((text.map simplify).dropWhile isSpace)
  let body := dropBase base body
  let digits := leadingDigits base body
  if (baseLetter? base).isNone ∧ mostDigits < digits.length then .error (.tooManyDigits digits.length)
  else if digits.isEmpty ∨ !(body.drop digits.length).all isSpace then .error (.notInteger base text)
  else
    let n : Int := ofDigits base digits
    .ok (if negative then -n else n)

def isWritable (n : Int) : Bool := n.natAbs < Nat.pow 10 mostDigits

/-! ### Numbers with a point -/

/-- Digits with at most one point among them, and an exponent behind. -/
def readDecimal? (cs : List Char) : Option Decimal :=
  let whole := leadingDigits 10 cs
  let rest := cs.drop whole.length
  let (fraction, rest) := match rest with
    | '.' :: rest =>
      let fraction := leadingDigits 10 rest
      (fraction, rest.drop fraction.length)
    | rest => ([], rest)
  let shift : Option Int := match rest with
    | [] => some 0
    | e :: rest =>
      let (negative, power) := splitSign rest
      let digits := leadingDigits 10 power
      if e.toLower = 'e' ∧ !digits.isEmpty ∧ digits.length = power.length then
        let n : Int := ofDigits 10 digits
        some (if negative then -n else n)
      else none
  if whole.isEmpty ∧ fraction.isEmpty then none
  else shift.map fun n => ⟨ofDigits 10 (whole ++ fraction), n - fraction.length⟩

def infinityWords : List String := ["inf", "infinity"]

def notANumberWord : String := "nan"

def readFloat (text : List Char) : Except Fault Float :=
  let (negative, body) := splitSign (trimSpaces (text.map simplify))
  let word := String.ofList (body.map Char.toLower)
  let magnitude :=
    if infinityWords.contains word then some infinity
    else if word = notANumberWord then some notANumber
    else (readDecimal? body).map Decimal.toFloat
  match magnitude with
  | some x => .ok (if negative then -x else x)
  | none => .error (.notNumber text)

def ofNat (n : Nat) : Except Fault Float :=
  let x := if n.log2 < 1024 then Float.ofScientific n false 0 else infinity
  if x.isInf then .error .tooLargeForFloat else .ok x

end SqlBindings.Number
