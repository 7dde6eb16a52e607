import SqlBindings.Number.Hexadecimal

/-!
UTF-8. A byte that cannot stand where it stands is reported with its position and the bytes that
belong to the broken character.
-/

namespace SqlBindings.Text

inductive Utf8Cause where
  | invalidStart | invalidContinuation | unexpectedEnd
deriving DecidableEq, Repr

/-- The bytes of a broken character: where they start, how many they are, and the first of them. -/
structure Utf8Fault where
  position : Nat
  width : Nat
  firstByte : UInt8
  cause : Utf8Cause
deriving DecidableEq, Repr

def Utf8Cause.message : Utf8Cause → String
  | invalidStart => "invalid start byte"
  | invalidContinuation => "invalid continuation byte"
  | unexpectedEnd => "unexpected end of data"

def Utf8Fault.message (f : Utf8Fault) : String :=
  let place := if f.width = 1 then
      "byte 0x" ++ String.ofList (Number.hexDigits 2 f.firstByte.toNat) ++ " in position " ++
        toString f.position
    else "bytes in position " ++ toString f.position ++ "-" ++ toString (f.position + f.width - 1)
  "'utf-8' codec can't decode " ++ place ++ ": " ++ f.cause.message

/-- The number of bytes that follow a first byte, the bounds of the second byte, and the bits that the
first byte contributes. Overlong forms, surrogates and numbers beyond the last character are kept
out by the bounds. -/
def leadByte? (b : UInt8) : Option (Nat × UInt8 × UInt8 × Nat) :=
  if 0xC2 ≤ b && b ≤ 0xDF then some (1, 0x80, 0xBF, b.toNat - 0xC0)
  else if b = 0xE0 then some (2, 0xA0, 0xBF, 0)
  else if b = 0xED then some (2, 0x80, 0x9F, 0xD)
  else if 0xE1 ≤ b && b ≤ 0xEF then some (2, 0x80, 0xBF, b.toNat - 0xE0)
  else if b = 0xF0 then some (3, 0x90, 0xBF, 0)
  else if b = 0xF4 then some (3, 0x80, 0x8F, 4)
  else if 0xF1 ≤ b && b ≤ 0xF3 then some (3, 0x80, 0xBF, b.toNat - 0xF0)
  else none

/-- Reads `count` more bytes of a character whose first `width` bytes are read. -/
def continuation (count : Nat) (low high : UInt8) (width value : Nat) (bytes : List UInt8) :
    Except (Nat × Utf8Cause) Nat :=
  match count with
  | 0 => .ok value
  | count + 1 => match bytes with
    | [] => .error (width, .unexpectedEnd)
    | b :: rest =>
      if low ≤ b && b ≤ high then
        continuation count 0x80 0xBF (width + 1) (0x40 * value + (b.toNat - 0x80)) rest
      else .error (width, .invalidContinuation)

/-- Decodes from `position` on. The next `skip` bytes belong to the character read last. -/
def decodeFrom (position skip : Nat) : List UInt8 → Except Utf8Fault (List Char)
  | [] => .ok []
  | b :: rest =>
    match skip with
    | skip + 1 => decodeFrom (position + 1) skip rest
    | 0 =>
      if b < 0x80 then (decodeFrom (position + 1) 0 rest).map (Char.ofNat b.toNat :: ·)
      else match leadByte? b with
        | none => .error ⟨position, 1, b, .invalidStart⟩
        | some (count, low, high, value) =>
          match continuation count low high 1 value rest with
          | .error (width, cause) => .error ⟨position, width, b, cause⟩
          | .ok value => (decodeFrom (position + 1) count rest).map (Char.ofNat value :: ·)

def decodeUtf8 (bytes : List UInt8) : Except Utf8Fault (List Char) := decodeFrom 0 0 bytes

def encodeUtf8 (text : String) : List UInt8 := text.toUTF8.toList

def normalizeLineEnds : List Char → List Char
  | [] => []
  | '\r' :: '\n' :: rest => '\n' :: normalizeLineEnds rest
  | c :: rest => (if c = '\r' then '\n' else c) :: normalizeLineEnds rest

end SqlBindings.Text
