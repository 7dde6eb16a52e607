import SqlBindings.Text.Utf8
import SqlBindings.Yaml.Scalar

/-!
Tokens of a YAML text. Indentation becomes explicit: a block collection has a start and an end. A key
is found only when its colon is reached, so its token is inserted where it began.
-/

namespace SqlBindings.Yaml

inductive Token where
  /-- The version of the language, by its first number. -/
  | version (major : Nat)
  /-- A handle of tags and what it stands for. -/
  | handle (name expansion : String)
  /-- A directive without a meaning. -/
  | directive
  | documentStart | documentEnd | textEnd
  | blockSequenceStart | blockMappingStart | blockEnd
  | flowSequenceStart | flowSequenceEnd | flowMappingStart | flowMappingEnd
  | blockEntry | flowEntry | key | value
  | anchor (name : String)
  | reference (name : String)
  | tag (handle : Option String) (suffix : String)
  | scalar (text : String) (plain : Bool)
deriving DecidableEq, Repr

/-- The tokens that can be read of a text, and the fault that comes up where they end. -/
structure TokenStream where
  tokens : List Token
  fault : Fault

structure KeyCandidate where
  tokenNumber : Nat
  /-- Whether nothing but a key can stand there. -/
  required : Bool
  offset : Nat
  line : Nat
  column : Nat

structure Lexer where
  cursor : Cursor
  tokens : Array Token := #[]
  /-- The column of the innermost block collection; -1 outside of any. -/
  indent : Int := -1
  /-- The columns of the collections around it, the innermost first. -/
  outer : List Int := []
  /-- The number of brackets that are open. -/
  depth : Nat := 0
  keyAllowed : Bool := true
  /-- The last candidate at each depth. -/
  candidates : List (Nat × KeyCandidate) := []

namespace Lexer

/-- The longest distance between the beginning of a key and its colon. -/
def longestKey : Nat := 1024

def push (s : Lexer) (t : Token) : Lexer := { s with tokens := s.tokens.push t }

def inBrackets (s : Lexer) : Bool := s.depth != 0

def skipToToken (fuel : Nat) (s : Lexer) : Lexer :=
  match fuel with
  | 0 => s
  | fuel + 1 =>
    let c := s.cursor.skipSpaces.skipComment
    match c.lineEnd? with
    | some (_, after) =>
      skipToToken fuel { s with cursor := after, keyAllowed := s.keyAllowed || !s.inBrackets }
    | none => { s with cursor := c }

def isStale (c : Cursor) (k : KeyCandidate) : Bool :=
  k.line != c.line || c.offset - k.offset > longestKey

/-- Forgets candidates that are too far behind. Where a key was required that is an error. -/
def dropStale (s : Lexer) : Except Fault Lexer :=
  if s.candidates.any fun (_, k) => isStale s.cursor k && k.required then .error .invalid
  else .ok { s with candidates := s.candidates.filter fun (_, k) => !isStale s.cursor k }

/-- The tokens that no key can be inserted in front of any more. -/
def settled (s : Lexer) : List Token :=
  let live := s.candidates.filter fun (_, k) => !isStale s.cursor k
  s.tokens.toList.take (live.foldl (fun n (_, k) => min n k.tokenNumber) s.tokens.size)

def dropCandidate (s : Lexer) : Except Fault Lexer :=
  match s.candidates.lookup s.depth with
  | none => .ok s
  | some k =>
    if k.required then .error .invalid
    else .ok { s with candidates := s.candidates.filter (·.1 != s.depth) }

def saveCandidate (s : Lexer) : Except Fault Lexer :=
  if s.keyAllowed then do
    let c := s.cursor
    let required := !s.inBrackets && s.indent == c.column
    let s ← s.dropCandidate
    return { s with
      candidates := (s.depth, ⟨s.tokens.size, required, c.offset, c.line, c.column⟩) :: s.candidates }
  else .ok s

def unwindFrom (column : Int) (tokens : Array Token) (indent : Int) :
    List Int → Array Token × Int × List Int
  | [] => (tokens, indent, [])
  | around :: outer =>
    if column < indent then unwindFrom column (tokens.push .blockEnd) around outer
    else (tokens, indent, around :: outer)

def unwind (s : Lexer) (column : Int) : Lexer :=
  if s.inBrackets then s
  else
    let (tokens, indent, outer) := unwindFrom column s.tokens s.indent s.outer
    { s with tokens, indent, outer }

def beginsAt (s : Lexer) (column : Nat) : Bool := s.indent < column

def beginBlock (s : Lexer) (column : Nat) : Lexer :=
  { s with indent := column, outer := s.indent :: s.outer }

/-- Begins a block collection unless the innermost one is indented as deep already. -/
def openBlock (s : Lexer) (start : Token) : Lexer :=
  if s.beginsAt s.cursor.column then (s.beginBlock s.cursor.column).push start else s

def take (s : Lexer) (t : Token) (width : Nat) : Lexer :=
  let s := { s with cursor := s.cursor.advance width }
  s.push t

def takeRead (s : Lexer) (read : Token × Cursor) : Lexer :=
  let s := { s with cursor := read.2 }
  s.push read.1

/-! ### Names and addresses -/

def isNameChar (c : Char) : Bool := c.isAlphanum || c == '-' || c == '_'

def name? (c : Cursor) : Option (String × Cursor) :=
  let name := c.span isNameChar
  if name.isEmpty then none else some (String.ofList name, c.advance name.length)

def isAddressChar (c : Char) : Bool := c.isAlphanum || "-;/?:@&=+$,_.!~*'()[]%".toList.contains c

/-- The bytes of escapes that follow each other, each a percent sign and two digits. -/
def escapedBytes? (fuel : Nat) (c : Cursor) : Option (List UInt8 × Cursor) :=
  match fuel with
  | 0 => none
  | fuel + 1 =>
    if c.peek = some '%' then do
      let (n, _) ← Number.readHex? 2 0 c.next.rest
      let (bytes, stop) ← escapedBytes? fuel (c.advance 3)
      return (UInt8.ofNat n :: bytes, stop)
    else some ([], c)

def addressFrom? (fuel : Nat) (text : List Char) (c : Cursor) : Option (List Char × Cursor) :=
  match fuel with
  | 0 => none
  | fuel + 1 =>
    if c.peek = some '%' then do
      let (bytes, stop) ← escapedBytes? (c.rest.length + 1) c
      addressFrom? fuel (text ++ (← (Text.decodeUtf8 bytes).toOption)) stop
    else
      let run := c.span fun ch => isAddressChar ch && ch != '%'
      if run.isEmpty then some (text, c)
      else addressFrom? fuel (text ++ run) (c.advance run.length)

def address? (c : Cursor) : Option (String × Cursor) := do
  let (text, stop) ← addressFrom? (c.rest.length + 1) [] c
  if text.isEmpty then none else some (String.ofList text, stop)

/-- The handle of a tag: a name between exclamation marks, or nothing between them. -/
def handle? (c : Cursor) : Option (String × Cursor) :=
  if c.peek = some '!' then
    let name := c.next.span isNameChar
    let stop := c.next.advance name.length
    if stop.peek = some '!' then some ("!" ++ String.ofList name ++ "!", stop.next) else none
  else none

def atBlankOrEnd (c : Cursor) : Bool := c.atLineEnd || c.peek = some ' '

/-! ### Documents -/

/-- A token that ends all block collections. -/
def between (s : Lexer) : Except Fault Lexer := do
  let s ← (s.unwind (-1)).dropCandidate
  return { s with keyAllowed := false }

def marker (s : Lexer) (t : Token) : Except Fault Lexer := do
  return (← s.between).take t 3

def versionNumber (c : Cursor) : Except Fault (Nat × Cursor) :=
  let digits := c.span Char.isDigit
  if digits.isEmpty then .error .invalid
  else match Number.readInteger 10 digits with
    | .ok n => .ok (n.toNat, c.advance digits.length)
    | .error fault => .error (.value (.number fault))

def version (c : Cursor) : Except Fault (Token × Cursor) := do
  let (major, c) ← versionNumber c
  if c.peek ≠ some '.' then throw .invalid
  let (_, c) ← versionNumber c.next
  if !atBlankOrEnd c then throw .invalid
  return (.version major, c)

/-- A handle and its expansion. The handle may be a single exclamation mark. -/
def handleExpansion? (c : Cursor) : Option (Token × Cursor) := do
  let (name, c) ←
    if c.peek = some '!' ∧ c.next.peek = some ' ' then some ("!", c.next) else handle? c
  guard (c.peek = some ' ')
  let (expansion, c) ← address? c.skipSpaces
  guard (atBlankOrEnd c)
  return (.handle name expansion, c)

def directiveToken (c : Cursor) : Except Fault (Token × Cursor) := do
  let (name, c) ← require (name? c.next)
  if !atBlankOrEnd c then throw .invalid
  let (t, c) ←
    if name = "YAML" then version c.skipSpaces
    else if name = "TAG" then require (handleExpansion? c.skipSpaces)
    else .ok (.directive, c.skip fun ch => !isBreak ch)
  let c := c.skipSpaces.skipComment
  if !c.atLineEnd then throw .invalid
  return (t, (c.lineEnd?.map (·.2)).getD c)

def directive (s : Lexer) : Except Fault Lexer := do
  let s ← s.between
  return s.takeRead (← directiveToken s.cursor)

/-! ### Collections -/

def openBracket (s : Lexer) (t : Token) : Except Fault Lexer := do
  let s ← s.saveCandidate
  let s := { s with depth := s.depth + 1, keyAllowed := true }
  return s.take t 1

def closeBracket (s : Lexer) (t : Token) : Except Fault Lexer := do
  if !s.inBrackets then throw .invalid
  let s ← s.dropCandidate
  let s := { s with depth := s.depth - 1, keyAllowed := false }
  return s.take t 1

def flowEntry (s : Lexer) : Except Fault Lexer := do
  let s ← s.dropCandidate
  let s := { s with keyAllowed := true }
  return s.take .flowEntry 1

/-- An entry of a block sequence. Inside brackets nothing can be made of it. -/
def blockEntry (s : Lexer) : Except Fault Lexer := do
  if !s.inBrackets && !s.keyAllowed then throw .invalid
  let s ← (if s.inBrackets then s else s.openBlock .blockSequenceStart).dropCandidate
  let s := { s with keyAllowed := true }
  return s.take .blockEntry 1

def explicitKey (s : Lexer) : Except Fault Lexer := do
  if !s.inBrackets && !s.keyAllowed then throw .invalid
  let s ← (if s.inBrackets then s else s.openBlock .blockMappingStart).dropCandidate
  let s := { s with keyAllowed := !s.inBrackets }
  return s.take .key 1

/-- Inserts the key that a colon belongs to, and the start of a mapping if it is its first key. -/
def insertKey (s : Lexer) (k : KeyCandidate) : Lexer :=
  let s := { s with candidates := s.candidates.filter (·.1 != s.depth), keyAllowed := false }
  let s := { s with tokens := s.tokens.insertIdxIfInBounds k.tokenNumber .key }
  if !s.inBrackets && s.beginsAt k.column then
    let s := s.beginBlock k.column
    { s with tokens := s.tokens.insertIdxIfInBounds k.tokenNumber .blockMappingStart }
  else s

/-- A colon for which no candidate is left. -/
def loneColon (s : Lexer) : Except Fault Lexer :=
  if s.inBrackets then .ok { s with keyAllowed := false }
  else if !s.keyAllowed then .error .invalid
  else .ok { s.openBlock .blockMappingStart with keyAllowed := true }

def colon (s : Lexer) : Except Fault Lexer := do
  let s ← match s.candidates.lookup s.depth with
    | some k => .ok (s.insertKey k)
    | none => s.loneColon
  return s.take .value 1

/-! ### Properties and scalars -/

/-- What may begin a key and leaves no room for another one. -/
def property (s : Lexer) (read : Cursor → Except Fault (Token × Cursor)) : Except Fault Lexer := do
  let s ← s.saveCandidate
  let read ← read s.cursor
  return { s with keyAllowed := false }.takeRead read

def readAnchor? (make : String → Token) (c : Cursor) : Option (Token × Cursor) := do
  let (name, c) ← name? c.next
  guard (c.atSeparator || c.peek.any fun ch => "?:,]\x7d%@\x60".toList.contains ch)
  return (make name, c)

/-- Whether a tag names a handle: there is another exclamation mark before its end. -/
def namesHandle (c : Cursor) : Bool := (c.span fun ch => ch != ' ' && !isBreak ch).contains '!'

/-- A tag, which is spelt out between angle brackets, left open, or behind a handle. -/
def readTag? (c : Cursor) : Option (Token × Cursor) := do
  let (t, c) ←
    if c.next.peek = some '<' then do
      let (suffix, after) ← address? (c.advance 2)
      guard (after.peek = some '>')
      pure (Token.tag none suffix, after.next)
    else if c.next.atSeparator then pure (Token.tag none "!", c.next)
    else do
      let (handle, after) ← if namesHandle c.next then handle? c else some ("!", c.next)
      let (suffix, after) ← address? after
      pure (Token.tag (some handle) suffix, after)
  guard (atBlankOrEnd c)
  return (t, c)

def readQuotedToken (quote : Char) (c : Cursor) : Except Fault (Token × Cursor) := do
  let (text, c) ← readQuoted (c.rest.length + 1) quote [] c.next
  return (.scalar (String.ofList text) false, c)

def block (s : Lexer) (folded : Bool) : Except Fault Lexer := do
  let s ← s.dropCandidate
  let s := { s with keyAllowed := true }
  let (text, c) ← require (readBlock? folded s.indent s.cursor.next)
  return s.takeRead (.scalar (String.ofList text) false, c)

def plain (s : Lexer) : Except Fault Lexer := do
  let s ← s.saveCandidate
  let p := readPlain (s.cursor.rest.length + 1) s.inBrackets (s.indent + 1) [] [] false s.cursor
  let s := { s with keyAllowed := p.newLine }
  return s.takeRead (.scalar (String.ofList p.text) true, p.cursor)

/-! ### All tokens -/

def beginsPlain (s : Lexer) (ch : Char) : Bool :=
  !(isSeparator ch || "-?:,[]\x7b\x7d#&*!|>'\"%@\x60".toList.contains ch) ||
    (!s.cursor.next.atSeparator && (ch == '-' || (!s.inBrackets && (ch == '?' || ch == ':'))))

def token (s : Lexer) (ch : Char) : Except Fault Lexer :=
  let atStart := s.cursor.column == 0
  let isolated := s.cursor.next.atSeparator
  if ch = '%' ∧ atStart then s.directive
  else if atStart ∧ s.cursor.atTriple '-' then s.marker .documentStart
  else if atStart ∧ s.cursor.atTriple '.' then s.marker .documentEnd
  else if ch = '[' then s.openBracket .flowSequenceStart
  else if ch = '\x7b' then s.openBracket .flowMappingStart
  else if ch = ']' then s.closeBracket .flowSequenceEnd
  else if ch = '\x7d' then s.closeBracket .flowMappingEnd
  else if ch = ',' then s.flowEntry
  else if ch = '-' ∧ isolated then s.blockEntry
  else if ch = '?' ∧ (s.inBrackets ∨ isolated) then s.explicitKey
  else if ch = ':' ∧ (s.inBrackets ∨ isolated) then s.colon
  else if ch = '*' then s.property fun c => require (readAnchor? .reference c)
  else if ch = '&' then s.property fun c => require (readAnchor? .anchor c)
  else if ch = '!' then s.property fun c => require (readTag? c)
  else if (ch = '|' ∨ ch = '>') ∧ !s.inBrackets then s.block (ch == '>')
  else if ch = '\'' ∨ ch = '"' then s.property (readQuotedToken ch)
  else if s.beginsPlain ch then s.plain
  else .error .invalid

def finish (s : Lexer) : Except Fault Lexer := do
  return (← (s.unwind (-1)).dropCandidate).push .textEnd

/-- Moves to the next token and ends the blocks in front of it. -/
def approach (fuel : Nat) (s : Lexer) : Except Fault Lexer := do
  let s ← (s.skipToToken fuel).dropStale
  return s.unwind s.cursor.column

/-- All tokens of the rest of the text. Each takes up at least one character. If there is a fault, the
tokens end where a reader that goes from one to the next comes upon it. -/
def run (fuel : Nat) (s : Lexer) : TokenStream :=
  match fuel with
  | 0 => ⟨s.settled, .invalid⟩
  | fuel + 1 =>
    match s.approach (fuel + 1) with
    | .error fault => ⟨s.settled, fault⟩
    | .ok reached => match reached.cursor.peek with
      | none => match reached.finish with
        | .error fault => ⟨s.settled, fault⟩
        | .ok last => ⟨last.tokens.toList, .invalid⟩
      | some ch => match reached.token ch with
        | .error fault => ⟨s.settled, fault⟩
        | .ok more => run fuel more

end Lexer

def isAllowed (c : Char) : Bool :=
  c == '\t' || c == '\n' || c == '\r' || c == '\u0085' ||
    (0x20 ≤ c.toNat && c.toNat ≤ 0x7e) || (0xa0 ≤ c.toNat && c.toNat ≤ 0xfffd) || 0x10000 ≤ c.toNat

/-- The tokens of a text. A byte order mark at its beginning is passed over. -/
def TokenStream.ofText (text : List Char) : TokenStream :=
  if text.all isAllowed then
    let c : Cursor := ⟨text, 0, 0, 0⟩
    let c := if c.peek.any isMark then c.next else c
    Lexer.run (text.length + 2) { cursor := c }
  else ⟨[], .invalid⟩

end SqlBindings.Yaml
