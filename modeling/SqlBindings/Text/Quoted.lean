import SqlBindings.Text.Character
import SqlBindings.Number.Hexadecimal

/-!
Quoted string literals of Python source. A literal stands on one line: quotes of its own kind,
backslashes and characters without a printed form are escaped, all others stand for themselves.
-/

namespace SqlBindings.Text

open Number (hexDigits)

/-- The escape of a code point: two, four or eight digits, the shortest form that holds it. -/
def codeEscape (n : Nat) : List Char :=
  if n < 0x100 then '\\' :: 'x' :: hexDigits 2 n
  else if n < 0x10000 then '\\' :: 'u' :: hexDigits 4 n
  else '\\' :: 'U' :: hexDigits 8 n

def escapeChar (delimiter c : Char) : List Char :=
  if c = delimiter ∨ c = '\\' then ['\\', c]
  else if c = '\n' then ['\\', 'n']
  else if c = '\r' then ['\\', 'r']
  else if c = '\t' then ['\\', 't']
  else if isPrintable c then [c]
  else codeEscape c.toNat

/-- Single quotes, unless the text holds one of them and no double quote. -/
def delimiterOf (cs : List Char) : Char :=
  if cs.contains '\'' && !cs.contains '"' then '"' else '\''

def quoteChars (cs : List Char) : List Char :=
  let delimiter := delimiterOf cs
  delimiter :: cs.flatMap (escapeChar delimiter) ++ [delimiter]

def quote (s : String) : String := String.ofList (quoteChars s.toList)

/-- One byte inside a literal: ASCII characters stand for themselves, other bytes are escaped. -/
def escapeByte (delimiter : Char) (b : UInt8) : List Char :=
  if b.toNat < 0x80 then escapeChar delimiter (Char.ofNat b.toNat) else codeEscape b.toNat

def quoteBytes (bytes : List UInt8) : String :=
  let delimiter := delimiterOf (bytes.map fun b => Char.ofNat b.toNat)
  String.ofList ('b' :: delimiter :: bytes.flatMap (escapeByte delimiter) ++ [delimiter])

end SqlBindings.Text
