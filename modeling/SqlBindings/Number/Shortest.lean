/-!
The text of a binary floating-point number: the fewest decimal digits that read back to it, laid out
positionally from 10⁻⁴ up to below 10¹⁶ and with a signed exponent of two digits or more elsewhere.
-/

namespace SqlBindings.Number

/-- A power of two; one where the exponent is negative. -/
def powTwo (e : Int) : Nat := Nat.pow 2 e.toNat

/-- A power of ten; one where the exponent is negative. -/
def powTen (e : Int) : Nat := Nat.pow 10 e.toNat

/-- The magnitude of a finite number, `mantissa * 2 ^ exponent`. -/
structure Binary where
  mantissa : Nat
  exponent : Int
  /-- The gap to the number below is half the gap to the number above. -/
  narrowBelow : Bool

def Binary.ofFloat (x : Float) : Binary :=
  let bits := x.toBits
  let e := ((bits >>> 52) &&& 0x7FF).toNat
  let f := (bits &&& 0xFFFFFFFFFFFFF).toNat
  if e = 0 then ⟨f, -1074, false⟩ else ⟨powTwo 52 + f, e - 1075, f == 0 && e > 1⟩

def Binary.toNat? (b : Binary) : Option Nat :=
  let denominator := powTwo (-b.exponent)
  if b.mantissa % denominator = 0 then some (b.mantissa * powTwo b.exponent / denominator)
  else none

structure Decimal where
  digits : Nat
  exponent : Int

def Decimal.compareBinary (d : Decimal) (n : Nat) (e : Int) : Ordering :=
  compare (d.digits * powTen d.exponent * powTwo (-e))
    (n * powTwo e * powTen (-d.exponent))

/-- Whether a decimal lies among the reals that round to the number. The interval reaches halfway to
each neighbour and holds its ends when the mantissa is even. -/
def Binary.readsBack (b : Binary) (d : Decimal) : Bool :=
  let below := d.compareBinary (4 * b.mantissa - if b.narrowBelow then 1 else 2) (b.exponent - 2)
  let above := d.compareBinary (4 * b.mantissa + 2) (b.exponent - 2)
  let closed := b.mantissa % 2 == 0
  (below == .gt || (closed && below == .eq)) && (above == .lt || (closed && above == .eq))

def digitCount (n : Nat) : Nat := (Nat.toDigits 10 n).length

/-- The least `k` with the number below `10 ^ k`, for a number that is not zero. -/
def Binary.scale (b : Binary) : Int :=
  let n := b.mantissa * powTwo b.exponent
  let d := powTwo (-b.exponent)
  if d ≤ n then digitCount (n / d)
  else
    let gap := digitCount d - digitCount n
    if n * powTen gap < d then -gap else 1 - gap

/-- The better neighbour of the number on the grid of multiples of `10 ^ e`, if one reads back. Of
two that do, the nearer is taken, and on a tie the even one. -/
def Binary.onGrid? (b : Binary) (e : Int) : Option Decimal :=
  let n := b.mantissa * powTwo b.exponent * powTen (-e)
  let d := powTwo (-b.exponent) * powTen e
  let low : Decimal := ⟨n / d, e⟩
  let high : Decimal := ⟨n / d + 1, e⟩
  match b.readsBack low, b.readsBack high with
  | false, false => none
  | true, false => some low
  | false, true => some high
  | true, true =>
    match compare (2 * (n % d)) d with
    | .lt => some low
    | .gt => some high
    | .eq => some (if low.digits % 2 = 0 then low else high)

/-- The first grid, from coarse to fine, with a decimal that reads back. Seventeen digits suffice;
the last grid that is tried stands for them. -/
def Binary.shortest (b : Binary) : Decimal :=
  let k := b.scale
  ((List.range 17).findSome? fun (n : Nat) => b.onGrid? (k - n - 1)).getD
    ⟨b.mantissa * powTwo b.exponent * powTen (17 - k) /
      (powTwo (-b.exponent) * powTen (k - 17)), k - 17⟩

def layout (d : Decimal) : String :=
  let digits := (Nat.toDigits 10 d.digits).reverse.dropWhile (· == '0') |>.reverse
  let lead : Int := d.exponent + digitCount d.digits - 1
  if -4 ≤ lead ∧ lead < 0 then
    "0." ++ String.ofList (List.replicate (-lead - 1).toNat '0' ++ digits)
  else if 0 ≤ lead ∧ lead < 16 then
    let whole := lead.toNat + 1
    let fraction := digits.drop whole
    String.ofList ((digits.take whole) ++ List.replicate (whole - digits.length) '0') ++ "." ++
      (if fraction.isEmpty then "0" else String.ofList fraction)
  else
    let tail := digits.drop 1
    let magnitude := toString lead.natAbs
    String.ofList (digits.take 1) ++ (if tail.isEmpty then "" else "." ++ String.ofList tail) ++
      (if lead < 0 then "e-" else "e+") ++ (if magnitude.length < 2 then "0" else "") ++ magnitude

/-- The text of a number, with `inf` and `nan` for the values that have no digits. -/
def floatText (x : Float) : String :=
  if x.isNaN then "nan"
  else
    let sign := if x.toBits >>> 63 == 1 then "-" else ""
    if x.isInf then sign ++ "inf"
    else
      let b := Binary.ofFloat x
      sign ++ if b.mantissa = 0 then "0.0" else layout b.shortest

end SqlBindings.Number
