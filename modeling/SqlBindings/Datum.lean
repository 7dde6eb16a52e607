import SqlBindings.Calendar
import SqlBindings.Number.Numeral
import SqlBindings.Text.Quoted

/-!
Untyped data: configuration values, cells of a result row, and the records that are checked before
they become typed values.
-/

namespace SqlBindings

inductive Datum where
  | null
  | bool (value : Bool)
  | int (value : Int)
  | float (value : Float)
  | text (value : String)
  | bytes (data : List UInt8)
  | date (value : Calendar.Date)
  | moment (value : Calendar.Moment)
  | list (items : List Datum)
  | pair (first second : Datum)
  /-- Items of which no two are equal. -/
  | set (items : List Datum)
  /-- Fields in their order of appearance, each name once. -/
  | record (fields : List (String × Datum))
  /-- Entries in their order of appearance. Their keys need not be texts. -/
  | mapping (entries : List (Datum × Datum))
  /-- A list that this place is inside of. -/
  | enclosingList
  /-- A mapping that this place is inside of. -/
  | enclosingMapping

namespace Datum

/-- Nothing, zero and whatever is empty do not count as set. -/
def isSet : Datum → Bool
  | null => false
  | bool b => b
  | int n => n != 0
  | float x => x != 0
  | text s => s != ""
  | bytes data => !data.isEmpty
  | list items | set items => !items.isEmpty
  | record fields => !fields.isEmpty
  | mapping entries => !entries.isEmpty
  | date _ | moment _ | pair _ _ | enclosingList | enclosingMapping => true

def toInt? : Datum → Option Int
  | bool b => some (if b then 1 else 0)
  | int n => some n
  | float x =>
    if x.isNaN || x.isInf then none
    else (Number.Binary.ofFloat x).toNat?.map fun n => if x < 0 then -n else n
  | _ => none

def kind : Datum → String
  | null => "NoneType"
  | bool _ => "bool"
  | int _ => "int"
  | float _ => "float"
  | text _ => "str"
  | bytes _ => "bytes"
  | date _ => "datetime.date"
  | moment _ => "datetime.datetime"
  | list _ | enclosingList => "list"
  | pair _ _ => "tuple"
  | set _ => "set"
  | record _ | mapping _ | enclosingMapping => "dict"

mutual

/-- The literal that denotes a value in Python source. -/
def literal : Datum → String
  | null => "None"
  | bool true => "True"
  | bool false => "False"
  | int n => toString n
  | float x => Number.floatText x
  | text s => Text.quote s
  | bytes data => Text.quoteBytes data
  | date d => d.literal
  | moment m => m.literal
  | list items => "[" ++ ", ".intercalate (literals items) ++ "]"
  | pair a b => "(" ++ literal a ++ ", " ++ literal b ++ ")"
  | set [] => "set()"
  | set items => "\x7b" ++ ", ".intercalate (literals items) ++ "\x7d"
  | record fields => "\x7b" ++ ", ".intercalate (fieldLiterals fields) ++ "\x7d"
  | mapping entries => "\x7b" ++ ", ".intercalate (entryLiterals entries) ++ "\x7d"
  | enclosingList => "[...]"
  | enclosingMapping => "\x7b...\x7d"

def literals : List Datum → List String
  | [] => []
  | d :: ds => literal d :: literals ds

def fieldLiterals : List (String × Datum) → List String
  | [] => []
  | (name, d) :: fields => (Text.quote name ++ ": " ++ literal d) :: fieldLiterals fields

def entryLiterals : List (Datum × Datum) → List String
  | [] => []
  | (key, d) :: entries => (literal key ++ ": " ++ literal d) :: entryLiterals entries

end

/-- The value as it reads inside a message: a text stands for itself, and so do dates and times. -/
def display : Datum → String
  | text s => s
  | date d => d.text
  | moment m => m.text
  | d => d.literal

mutual

/-- Whether no integer in a value has too many digits to be written. -/
def isWritable : Datum → Bool
  | int n => Number.isWritable n
  | list items | set items => areWritable items
  | pair a b => isWritable a && isWritable b
  | record fields => haveWritable fields
  | mapping entries => entriesWritable entries
  | _ => true

def areWritable : List Datum → Bool
  | [] => true
  | d :: ds => isWritable d && areWritable ds

def haveWritable : List (String × Datum) → Bool
  | [] => true
  | (_, d) :: fields => isWritable d && haveWritable fields

def entriesWritable : List (Datum × Datum) → Bool
  | [] => true
  | (key, d) :: entries => isWritable key && isWritable d && entriesWritable entries

end

def displayed (d : Datum) : Except Number.Fault String :=
  if d.isWritable then .ok d.display else .error .tooLongToWrite

def ofText? : Option String → Datum
  | none => null
  | some s => text s

/-- A field of a record, or nothing if it is absent. -/
def get (name : String) (fields : List (String × Datum)) : Datum :=
  (fields.lookup name).getD null

/-- Puts a field into a record. A field that is there already keeps its place. -/
def put (fields : List (String × Datum)) (name : String) (value : Datum) : List (String × Datum) :=
  if (fields.lookup name).isSome then
    fields.map fun f => if f.1 = name then (name, value) else f
  else fields ++ [(name, value)]

theorem lookup_map_put (fields : List (String × Datum)) (name other : String) (value : Datum) :
    (fields.map fun f => if f.1 = name then (name, value) else f).lookup other =
      if other = name then (fields.lookup name).map fun _ => value else fields.lookup other := by
  induction fields with
  | nil => simp
  | cons f fields ih =>
    obtain ⟨key, d⟩ := f
    by_cases hk : key = name <;> by_cases ho : other = name
    · simp [hk, ho]
    · have hb : (other == name) = false := beq_false_of_ne ho
      simp only [List.map_cons, hk, ↓reduceIte, List.lookup_cons, hb, ih, ho]
    · have hb : (name == key) = false := beq_false_of_ne (Ne.symm hk)
      subst ho
      simp only [List.map_cons, hk, ↓reduceIte, List.lookup_cons, hb, ih]
    · simp only [List.map_cons, hk, ↓reduceIte, List.lookup_cons, ih, ho]

theorem get_put_self (fields : List (String × Datum)) (name : String) (value : Datum) :
    get name (put fields name value) = value := by
  unfold get put
  split
  · rename_i h
    obtain ⟨d, hd⟩ := Option.isSome_iff_exists.mp h
    simp [lookup_map_put, hd]
  · rename_i h
    simp only [Bool.not_eq_true, Option.isSome_eq_false_iff, Option.isNone_iff_eq_none] at h
    simp [List.lookup_append, h]

theorem get_put_of_ne (fields : List (String × Datum)) (name other : String) (value : Datum)
    (h : other ≠ name) : get other (put fields name value) = get other fields := by
  have hb : (other == name) = false := beq_false_of_ne h
  unfold get put
  split <;> simp [lookup_map_put, List.lookup_append, List.lookup_cons, h, hb]

end Datum

end SqlBindings
