import SqlBindings.Number.Shortest

namespace SqlBindings.Number

def infinity : Float := 1.0 / 0.0

def notANumber : Float := 0.0 / 0.0

/-- The nearest number. A decimal beyond 10³¹⁰ is read as infinity and one below 10⁻³³⁰ as zero, which
is what they round to. -/
def Decimal.toFloat (d : Decimal) : Float :=
  let lead := d.exponent + digitCount d.digits
  if d.digits = 0 ∨ lead < -330 then 0.0
  else if 310 < lead then infinity
  else Float.ofScientific d.digits (d.exponent < 0) d.exponent.natAbs

end SqlBindings.Number
