import SqlBindings.Text.CaseRanges
import SqlBindings.Text.Character

/-!
Lower and upper case of whole texts. One character may become several, and a capital sigma that
ends a word is lowered to the final form.
-/

namespace SqlBindings.Text

/-- The image of a code point under the first progression that holds it. -/
def shifted? (shifts : List (Nat × Nat × Nat × Int)) (n : Nat) : Option Nat :=
  (shifts.find? fun (first, last, step, _) =>
    first ≤ n && n ≤ last && (n - first) % step == 0).map fun (_, _, _, shift) => (n + shift).toNat

def lowerChar (c : Char) : List Char :=
  if c.toNat < 0x80 then [c.toLower]
  else match lowerExpansions.lookup c.toNat with
    | some image => image.map Char.ofNat
    | none => [((shifted? lowerShifts c.toNat).map Char.ofNat).getD c]

def upperChar (c : Char) : List Char :=
  if c.toNat < 0x80 then [c.toUpper]
  else match upperExpansions.lookup c.toNat with
    | some image => image.map Char.ofNat
    | none => [((shifted? upperShifts c.toNat).map Char.ofNat).getD c]

/-- Whether the nearest character that is not case-ignorable is a cased one. -/
def meetsCased (cs : List Char) : Bool :=
  match cs.dropWhile fun c => inRanges caseIgnorableRanges c.toNat with
  | [] => false
  | c :: _ => inRanges casedRanges c.toNat

/-- Lower case of the rest of a text; `before` holds what came earlier, nearest first. -/
def lowerFrom (before : List Char) : List Char → List Char
  | [] => []
  | c :: rest =>
    -- a capital sigma is final when a letter precedes it and none follows
    let image :=
      if c = 'Σ' then if meetsCased before && !meetsCased rest then ['ς'] else ['σ']
      else lowerChar c
    image ++ lowerFrom (c :: before) rest

def lowerChars (cs : List Char) : List Char := lowerFrom [] cs

def lower (s : String) : String := String.ofList (lowerChars s.toList)

def upper (s : String) : String := String.ofList (s.toList.flatMap upperChar)

/-- Whether a character equals a lower-case ASCII letter when case is ignored. Beyond ASCII the
long s, the dotless and the dotted capital i and the Kelvin sign each equal a letter. -/
def equalsLetter (letter c : Char) : Bool :=
  c.toLower == letter ||
    match letter with
    | 's' => c == 'ſ'
    | 'i' => c == 'ı' || c == 'İ'
    | 'k' => c == '\u212a'
    | _ => false

end SqlBindings.Text
