import SqlBindings.Yaml.Cursor
import SqlBindings.Yaml.Fault

/-!
The text of scalars: plain ones, quoted ones, and blocks in which line ends are kept or folded. A
single line end inside a plain or quoted scalar counts as a space, several in a row as all but the
first of them.
-/

namespace SqlBindings.Yaml

/-- What a run of line ends inside a scalar stands for. -/
def foldLines (first : Char) (more : List Char) : List Char :=
  (if first ≠ '\n' then [first] else if more.isEmpty then [' '] else []) ++ more

/-! ### Plain scalars -/

/-- Whether a plain scalar ends in front of `c`. Inside brackets it ends at more characters. -/
def endsPlain (inBrackets : Bool) (c : Char) (following : Option Char) : Bool :=
  isSeparator c ||
    (c == ':' && following.all fun d =>
      isSeparator d || inBrackets && ",[]\x7b\x7d".toList.contains d) ||
    (inBrackets && ",?[]\x7b\x7d".toList.contains c)

def plainRun (inBrackets : Bool) : List Char → List Char
  | [] => []
  | c :: rest => if endsPlain inBrackets c rest.head? then [] else c :: plainRun inBrackets rest

/-- Moves past blank lines. Gives the line ends passed, or nothing if a marker between documents
follows one of them. -/
def blankLines (fuel : Nat) (ends : List Char) (c : Cursor) : Option (List Char) × Cursor :=
  match fuel with
  | 0 => (some ends, c)
  | fuel + 1 =>
    let c := c.skipSpaces
    match c.lineEnd? with
    | none => (some ends, c)
    | some (ch, after) =>
      if after.atMarker then (none, after) else blankLines fuel (ends ++ [ch]) after

structure Gap where
  text : List Char
  cursor : Cursor
  newLine : Bool

/-- The separation at a place. It is empty where the scalar cannot go on. -/
def gap (c : Cursor) : Gap :=
  let spaces := c.span (· == ' ')
  let c := c.skipSpaces
  match c.lineEnd? with
  | none => ⟨spaces, c, false⟩
  | some (first, after) =>
    if after.atMarker then ⟨[], after, true⟩
    else match blankLines (after.rest.length + 1) [] after with
      | (none, stop) => ⟨[], stop, true⟩
      | (some more, stop) => ⟨foldLines first more, stop, true⟩

structure Plain where
  text : List Char
  cursor : Cursor
  newLine : Bool

/-- Reads a plain scalar whose further lines have to be indented to `indent`. `text` holds what has been
read, the last character first. -/
def readPlain (fuel : Nat) (inBrackets : Bool) (indent : Int) (text separation : List Char)
    (newLine : Bool) (c : Cursor) : Plain :=
  match fuel with
  | 0 => ⟨text.reverse, c, newLine⟩
  | fuel + 1 =>
    let run := if c.peek = some '#' then [] else plainRun inBrackets c.rest
    if run.isEmpty then ⟨text.reverse, c, newLine⟩
    else
      let g := gap (c.advance run.length)
      let text := run.reverse ++ separation.reverse ++ text
      if g.text.isEmpty || g.cursor.peek = some '#' ||
          (!inBrackets && (g.cursor.column : Int) < indent) then
        ⟨text.reverse, g.cursor, g.newLine⟩
      else readPlain fuel inBrackets indent text g.text g.newLine g.cursor

/-! ### Quoted scalars -/

def escapes : List (Char × Char) :=
  [('0', '\x00'), ('a', '\x07'), ('b', '\x08'), ('t', '\t'), ('\t', '\t'), ('n', '\n'),
    ('v', '\x0b'), ('f', '\x0c'), ('r', '\r'), ('e', '\x1b'), (' ', ' '), ('"', '"'),
    ('\\', '\\'), ('/', '/'), ('N', '\u0085'), ('_', '\u00a0'), ('L', '\u2028'), ('P', '\u2029')]

/-- The escapes that are followed by the number of a character, with its count of digits. -/
def numericEscapes : List (Char × Nat) := [('x', 2), ('u', 4), ('U', 8)]

/-- Line ends and blanks that go on from the end of a line in a quoted scalar. A marker between
documents must not come up. -/
def quotedBreaks (fuel : Nat) (ends : List Char) (c : Cursor) :
    Except Fault (List Char × Cursor) :=
  match fuel with
  | 0 => .error .invalid
  | fuel + 1 =>
    if c.atMarker then .error .invalid
    else
      let c := c.skip fun ch => ch == ' ' || ch == '\t'
      match c.lineEnd? with
      | some (ch, after) => quotedBreaks fuel (ends ++ [ch]) after
      | none => .ok (ends, c)

def character (n : Nat) : Except Fault Char :=
  if n < 0x110000 then .ok (Char.ofNat n)
  else if n < 0x80000000 then .error (.value .noCharacter)
  else .error (.value .characterOverflow)

/-- What an escape stands for; the cursor is behind the backslash. -/
def escape (c : Cursor) : Except Fault (List Char × Cursor) := do
  let ch ← require c.peek
  match escapes.lookup ch with
  | some meant => return ([meant], c.next)
  | none => match numericEscapes.lookup ch with
    | some digits =>
      let (n, _) ← require (Number.readHex? digits 0 c.next.rest)
      return ([← character n], c.next.advance digits)
    | none =>
      let (_, after) ← require c.lineEnd?
      quotedBreaks (after.rest.length + 1) [] after

def quotedBlanks (c : Cursor) : Except Fault (List Char × Cursor) :=
  let blanks := c.span fun ch => ch == ' ' || ch == '\t'
  let c := c.advance blanks.length
  match c.lineEnd? with
  | some (first, after) => do
    let (more, stop) ← quotedBreaks (after.rest.length + 1) [] after
    return (foldLines first more, stop)
  | none => if c.peek.isNone then .error .invalid else .ok (blanks, c)

/-- Reads a quoted scalar up to and including its closing quote. `text` holds what has been read, the
last character first. -/
def readQuoted (fuel : Nat) (quote : Char) (text : List Char) (c : Cursor) :
    Except Fault (List Char × Cursor) :=
  match fuel with
  | 0 => .error .invalid
  | fuel + 1 => do
    let ch ← require c.peek
    if ch = quote then
      if quote = '\'' ∧ c.next.peek = some '\'' then
        readQuoted fuel quote ('\'' :: text) (c.advance 2)
      else return (text.reverse, c.next)
    else if quote = '"' ∧ ch = '\\' then
      let (meant, after) ← escape c.next
      readQuoted fuel quote (meant.reverse ++ text) after
    else if isSeparator ch then
      let (meant, after) ← quotedBlanks c
      readQuoted fuel quote (meant.reverse ++ text) after
    else readQuoted fuel quote (ch :: text) c.next

/-! ### Block scalars -/

/-- What becomes of the line ends at the end of a block. -/
inductive Chomping where
  | strip | clip | keep
deriving DecidableEq, Repr

def chomping? : Char → Option Chomping
  | '+' => some .keep
  | '-' => some .strip
  | _ => none

def digit? (c : Char) : Option Nat := if c.isDigit then some (c.toNat - 48) else none

/-- The header of a block: chomping and indentation, in either order. -/
def blockHeader? (c : Cursor) : Option (Chomping × Option Nat × Cursor) := do
  let (chomping, indentation, c) := match c.peek.bind chomping? with
    | some k => match c.next.peek.bind digit? with
      | some n => (k, some n, c.advance 2)
      | none => (k, none, c.next)
    | none => match c.peek.bind digit? with
      | some n => match c.next.peek.bind chomping? with
        | some k => (k, some n, c.advance 2)
        | none => (.clip, some n, c.next)
      | none => (.clip, none, c)
  if indentation = some 0 then none
  else if !(c.atLineEnd || c.peek = some ' ') then none
  else
    let c := c.skipSpaces.skipComment
    if !c.atLineEnd then none
    else some (chomping, indentation, (c.lineEnd?.map (·.2)).getD c)

/-- Blank lines in front of a block, and the widest indentation among them and its first line. -/
def blockIndentation (fuel : Nat) (ends : List Char) (widest : Nat) (c : Cursor) :
    List Char × Nat × Cursor :=
  match fuel with
  | 0 => (ends, widest, c)
  | fuel + 1 =>
    let c := c.skipSpaces
    let widest := max widest c.column
    match c.lineEnd? with
    | some (ch, after) => blockIndentation fuel (ends ++ [ch]) widest after
    | none => (ends, widest, c)

def skipIndentation (indent : Nat) (c : Cursor) : Cursor :=
  c.advance (min (indent - c.column) (c.span (· == ' ')).length)

def blockBreaks (fuel indent : Nat) (ends : List Char) (c : Cursor) : List Char × Cursor :=
  match fuel with
  | 0 => (ends, c)
  | fuel + 1 =>
    let c := skipIndentation indent c
    match c.lineEnd? with
    | some (ch, after) => blockBreaks fuel indent (ends ++ [ch]) after
    | none => (ends, c)

def inBlock (indent : Nat) (c : Cursor) : Bool := c.column == indent && c.peek.isSome

def atBlank (c : Cursor) : Bool := c.peek = some ' ' || c.peek = some '\t'

/-- The lines of a block. `text` holds what has been read, the last character first, `ends` the blank
lines in front of the next line, `lastEnd` the end of the line before. -/
def blockLines (fuel : Nat) (folded : Bool) (indent : Nat) (text ends lastEnd : List Char)
    (c : Cursor) : List Char × List Char × List Char × Cursor :=
  match fuel with
  | 0 => (text.reverse, ends, lastEnd, c)
  | fuel + 1 =>
    if !inBlock indent c then (text.reverse, ends, lastEnd, c)
    else
      let flush := !atBlank c
      let line := c.span fun ch => !isBreak ch
      let c := c.advance line.length
      let text := line.reverse ++ ends.reverse ++ text
      let (lastEnd, c) := match c.lineEnd? with
        | some (ch, after) => ([ch], after)
        | none => ([], c)
      let (ends, c) := blockBreaks (c.rest.length + 1) indent [] c
      if inBlock indent c then
        let joint :=
          if folded && lastEnd == ['\n'] && flush && !atBlank c then
            if ends.isEmpty then [' '] else []
          else lastEnd
        blockLines fuel folded indent (joint.reverse ++ text) ends lastEnd c
      else (text.reverse, ends, lastEnd, c)

/-- Reads a block behind its `|` or `>`. Its lines are indented deeper than `indent`. -/
def readBlock? (folded : Bool) (indent : Int) (c : Cursor) : Option (List Char × Cursor) := do
  let (chomping, indentation, c) ← blockHeader? c
  let least := max (indent + 1).toNat 1
  let fuel := c.rest.length + 1
  let (ends, width, c) := match indentation with
    | none =>
      let (ends, widest, c) := blockIndentation fuel [] 0 c
      (ends, max least widest, c)
    | some n =>
      let width := least + n - 1
      let (ends, c) := blockBreaks fuel width [] c
      (ends, width, c)
  let (text, ends, lastEnd, c) := blockLines fuel folded width [] ends [] c
  some (match chomping with
    | .strip => text
    | .clip => text ++ lastEnd
    | .keep => text ++ lastEnd ++ ends, c)

end SqlBindings.Yaml
