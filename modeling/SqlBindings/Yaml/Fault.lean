import SqlBindings.Calendar
import SqlBindings.Number.Numeral

/-!
Why a YAML text gives no value. Most texts that cannot be read are told apart by nothing else; the ones
whose structure is sound and whose values are not have a cause of their own.
-/

namespace SqlBindings.Yaml

/-- Why a scalar or a node has no value of the kind it is said to be. -/
inductive ValueFault where
  | number (fault : Number.Fault)
  | calendar (fault : Calendar.Fault)
  | noCharacter
  /-- A number of a character that does not even fit thirty-one bits. -/
  | characterOverflow
  | notTruth (word : String)
  | emptyNumber
  | notTimestamp
  /-- A collection in place of the text of a timestamp. -/
  | timestampOfCollection
  | tooDeep
deriving DecidableEq, Repr

def ValueFault.message : ValueFault → String
  | number fault => fault.message
  | calendar fault => fault.message
  | noCharacter => "chr() arg not in range(0x110000)"
  | characterOverflow => "Python int too large to convert to C int"
  | notTruth word => Text.quote word
  | emptyNumber => "string index out of range"
  | notTimestamp => "'NoneType' object has no attribute 'groupdict'"
  | timestampOfCollection => "expected string or bytes-like object, got 'list'"
  | tooDeep => "maximum recursion depth exceeded"

inductive Fault where
  /-- No YAML, or values of kinds that are not known. -/
  | invalid
  | notMapping
  | value (fault : ValueFault)
deriving DecidableEq, Repr

def require {α : Type} : Option α → Except Fault α
  | some a => .ok a
  | none => .error .invalid

end SqlBindings.Yaml
