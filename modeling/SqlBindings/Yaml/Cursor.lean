/-!
A place in a YAML text, with its line and column. A line ends in a line feed or in one of three rarer
characters; a carriage return is no line end, so it has to be replaced before.
-/

namespace SqlBindings.Yaml

def isBreak (c : Char) : Bool :=
  c == '\n' || c == '\u0085' || c == '\u2028' || c == '\u2029'

def isSeparator (c : Char) : Bool := c == ' ' || c == '\t' || isBreak c

/-- A byte order mark, which takes up no column. -/
def isMark (c : Char) : Bool := c == '\ufeff'

structure Cursor where
  rest : List Char
  offset : Nat := 0
  line : Nat := 0
  column : Nat := 0

namespace Cursor

def peek (c : Cursor) : Option Char := c.rest.head?

def next (c : Cursor) : Cursor :=
  match c.rest with
  | [] => c
  | ch :: rest =>
    if isBreak ch then ⟨rest, c.offset + 1, c.line + 1, 0⟩
    else ⟨rest, c.offset + 1, c.line, if isMark ch then c.column else c.column + 1⟩

def advance (c : Cursor) : Nat → Cursor
  | 0 => c
  | n + 1 => c.next.advance n

def span (c : Cursor) (p : Char → Bool) : List Char := c.rest.takeWhile p

def skip (c : Cursor) (p : Char → Bool) : Cursor := c.advance (c.span p).length

def skipSpaces (c : Cursor) : Cursor := c.skip (· == ' ')

/-- Moves past a comment up to the end of its line. -/
def skipComment (c : Cursor) : Cursor :=
  if c.peek = some '#' then c.skip fun ch => !isBreak ch else c

/-- Whether the text ends here or goes on with a separator. -/
def atSeparator (c : Cursor) : Bool := c.peek.all isSeparator

def atLineEnd (c : Cursor) : Bool := c.peek.all isBreak

/-- The end of a line as it counts in a value, and what follows it. -/
def lineEnd? (c : Cursor) : Option (Char × Cursor) :=
  match c.peek with
  | some ch =>
    if ch == '\n' || ch == '\u0085' then some ('\n', c.next)
    else if isBreak ch then some (ch, c.next)
    else none
  | none => none

/-- Whether three characters of one kind stand here by themselves. -/
def atTriple (c : Cursor) (ch : Char) : Bool :=
  c.rest.take 3 == [ch, ch, ch] && (c.advance 3).atSeparator

/-- Whether a marker between documents stands here. -/
def atMarker (c : Cursor) : Bool := c.atTriple '-' || c.atTriple '.'

end Cursor

end SqlBindings.Yaml
