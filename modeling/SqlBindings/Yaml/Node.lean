import SqlBindings.Yaml.Kind
import SqlBindings.Yaml.Token

/-!
Nodes of a YAML document: scalars, sequences and mappings. A node that is referred to is one node that
stands at several places, and it may contain itself, so a document is a graph: the parts of a node are
known by their numbers.
-/

namespace SqlBindings.Yaml

inductive Body where
  | scalar (text : String)
  | sequence (items : List Nat)
  | mapping (entries : List (Nat × Nat))
deriving DecidableEq, Repr

structure Node where
  kind : Kind
  body : Body
deriving DecidableEq, Repr

/-- The nodes of a document by their numbers, and the one that holds the others. -/
structure Graph where
  nodes : Array Node
  root : Nat

/-- Collections nested deeper than this cannot be followed. -/
def deepestNesting : Nat := 488

namespace Graph

def knownHandles : List (String × String) := [("!", "!"), ("!!", Kind.standardTags)]

/-- A tag that says no more than that a node is known by its text or form. -/
def openTag : String := "!"

structure Properties where
  anchor : Option String := none
  tag : Option String := none

namespace Properties

def kind? (p : Properties) : Option Kind :=
  (p.tag.filter (· != openTag)).map Kind.ofTag

def collectionKind (p : Properties) (form : Kind) : Kind := p.kind?.getD form

/-- A plain scalar is known by its text, and with an open tag so is any other. -/
def scalarKind (p : Properties) (plain : Bool) (text : String) : Kind :=
  p.kind?.getD (if plain || p.tag.isSome then Kind.ofText text else .text)

end Properties

structure Reader where
  stream : TokenStream
  handles : List (String × String) := knownHandles
  anchors : List (String × Nat) := []
  nodes : Array Node := #[]

abbrev Read := StateT Reader (Except Fault)

namespace Read

def refuse {α : Type} : Read α := throw .invalid

/-- The next token. Where there is none, it is time for the fault that ended them. -/
def peek : Read Token := do
  let stream := (← get).stream
  match stream.tokens with
  | t :: _ => return t
  | [] => throw stream.fault

def drop : Read Unit :=
  modify fun r => { r with stream := { r.stream with tokens := r.stream.tokens.drop 1 } }

def accept (t : Token) : Read Bool := do
  if (← peek) = t then
    drop
    return true
  else return false

def expect (t : Token) : Read Unit := do
  if !(← accept t) then refuse

def isAnyOf (ts : List Token) : Read Bool := return ts.contains (← peek)

def anchor? : Read (Option String) := do
  match ← peek with
  | .anchor name =>
    drop
    return some name
  | _ => return none

/-- A tag as it is written: a handle if there is one, and what follows it. -/
def tag? : Read (Option (Option String × String)) := do
  match ← peek with
  | .tag handle suffix =>
    drop
    return some (handle, suffix)
  | _ => return none

def expand : Option String × String → Read String
  | (none, suffix) => return suffix
  | (some handle, suffix) => do
    match (← get).handles.lookup handle with
    | some expansion => return expansion ++ suffix
    | none => refuse

def properties : Read Properties := do
  match ← anchor? with
  | some anchor => return ⟨some anchor, ← (← tag?).mapM expand⟩
  | none => match ← tag? with
    | some tag =>
      let anchor ← anchor?
      return ⟨anchor, some (← expand tag)⟩
    | none => return ⟨none, none⟩

/-- Takes in a node and gives it the next number. Each anchor stands for one node. -/
def add (p : Properties) (node : Node) : Read Nat := do
  let r ← get
  let number := r.nodes.size
  let anchors ← match p.anchor with
    | none => pure r.anchors
    | some name =>
      if (r.anchors.lookup name).isSome then refuse else pure ((name, number) :: r.anchors)
  set { r with anchors, nodes := r.nodes.push node }
  return number

def addScalar (p : Properties) (plain : Bool) (text : String) : Read Nat :=
  add p ⟨p.scalarKind plain text, .scalar text⟩

def addEmpty : Read Nat := addScalar {} true ""

/-- Takes in a collection before its parts are read, so that they can refer to it. `room` counts how
many collections may still be inside each other. -/
def addCollection (p : Properties) (form : Kind) (room : Nat) (body : Read Body) : Read Nat := do
  if room = 0 then throw (.value .tooDeep)
  let kind := p.collectionKind form
  let number ← add p ⟨kind, .sequence []⟩
  let body ← body
  modify fun r => { r with nodes := r.nodes.setIfInBounds number ⟨kind, body⟩ }
  return number

def addSequence (p : Properties) (room : Nat) (items : Read (List Nat)) : Read Nat :=
  addCollection p .sequence room (return .sequence (← items))

def addMapping (p : Properties) (room : Nat) (entries : Read (List (Nat × Nat))) : Read Nat :=
  addCollection p .mapping room (return .mapping (← entries))

end Read

open Read

mutual

/-- A node. `block` admits block collections, `indentless` a sequence that is not indented. -/
def read (fuel room : Nat) (block indentless : Bool) : Read Nat :=
  match fuel with
  | 0 => refuse
  | fuel + 1 => do
    match ← peek with
    | .reference name =>
      drop
      match (← get).anchors.lookup name with
      | some number => return number
      | none => refuse
    | _ =>
      let p ← properties
      match ← peek with
      | .scalar text plain =>
        drop
        addScalar p plain text
      | .flowSequenceStart => addSequence p room (readFlowItems fuel (room - 1) true)
      | .flowMappingStart => addMapping p room (readFlowEntries fuel (room - 1) true)
      | .blockEntry =>
        if indentless then addSequence p room (readIndentless fuel (room - 1)) else readEmpty p
      | .blockSequenceStart =>
        if block then addSequence p room (do drop; readBlockItems fuel (room - 1)) else readEmpty p
      | .blockMappingStart =>
        if block then addMapping p room (do drop; readBlockEntries fuel (room - 1)) else readEmpty p
      | _ => readEmpty p

/-- A node without content, which needs an anchor or a tag. -/
def readEmpty (p : Properties) : Read Nat :=
  if p.anchor.isSome || p.tag.isSome then addScalar p true "" else refuse

def readUnless (fuel room : Nat) (ends : List Token) (block indentless : Bool) : Read Nat :=
  match fuel with
  | 0 => refuse
  | fuel + 1 => do
    if ← isAnyOf ends then addEmpty else read fuel room block indentless

def readBlockItems (fuel room : Nat) : Read (List Nat) :=
  match fuel with
  | 0 => refuse
  | fuel + 1 => do
    if ← accept .blockEntry then
      let item ← readUnless fuel room [.blockEntry, .blockEnd] true false
      return item :: (← readBlockItems fuel room)
    else
      expect .blockEnd
      return []

def readIndentless (fuel room : Nat) : Read (List Nat) :=
  match fuel with
  | 0 => refuse
  | fuel + 1 => do
    if ← accept .blockEntry then
      let item ← readUnless fuel room [.blockEntry, .key, .value, .blockEnd] true false
      return item :: (← readIndentless fuel room)
    else return []

/-- Entries, each of which begins with its key. The value may be absent. -/
def readBlockEntries (fuel room : Nat) : Read (List (Nat × Nat)) :=
  match fuel with
  | 0 => refuse
  | fuel + 1 => do
    if ← accept .key then
      let ends := [Token.key, .value, .blockEnd]
      let key ← readUnless fuel room ends true true
      let value ← if ← accept .value then readUnless fuel room ends true true else addEmpty
      return (key, value) :: (← readBlockEntries fuel room)
    else
      expect .blockEnd
      return []

def readFlowValue (fuel room : Nat) (closing : Token) : Read Nat :=
  match fuel with
  | 0 => refuse
  | fuel + 1 => do
    if ← accept .value then readUnless fuel room [.flowEntry, closing] false false else addEmpty

/-- Items in brackets. The first one has no comma in front. A key among them begins a mapping of one
entry. -/
def readFlowItems (fuel room : Nat) (first : Bool) : Read (List Nat) :=
  match fuel with
  | 0 => refuse
  | fuel + 1 => do
    if first then drop
    if ← accept .flowSequenceEnd then return []
    if !first then expect .flowEntry
    match ← peek with
    | .flowSequenceEnd =>
      drop
      return []
    | .key =>
      let item ← addMapping {} room do
        drop
        let key ← readUnless fuel (room - 1) [.value, .flowEntry, .flowSequenceEnd] false false
        return [(key, ← readFlowValue fuel (room - 1) .flowSequenceEnd)]
      return item :: (← readFlowItems fuel room false)
    | _ =>
      let item ← read fuel room false false
      return item :: (← readFlowItems fuel room false)

def readFlowEntries (fuel room : Nat) (first : Bool) : Read (List (Nat × Nat)) :=
  match fuel with
  | 0 => refuse
  | fuel + 1 => do
    if first then drop
    if ← accept .flowMappingEnd then return []
    if !first then expect .flowEntry
    match ← peek with
    | .flowMappingEnd =>
      drop
      return []
    | .key =>
      drop
      let key ← readUnless fuel room [.value, .flowEntry, .flowMappingEnd] false false
      let value ← readFlowValue fuel room .flowMappingEnd
      return (key, value) :: (← readFlowEntries fuel room false)
    | _ =>
      let key ← read fuel room false false
      let value ← addEmpty
      return (key, value) :: (← readFlowEntries fuel room false)

end

def skipDocumentEnds (fuel : Nat) : Read Unit :=
  match fuel with
  | 0 => return ()
  | fuel + 1 => do
    if ← accept .documentEnd then skipDocumentEnds fuel

/-- Directives in front of a document: the version at most once, and each handle at most once. -/
def readDirectives (fuel : Nat) (versioned : Bool) (handles : List (String × String)) : Read Unit :=
  match fuel with
  | 0 => refuse
  | fuel + 1 => do
    match ← peek with
    | .version major =>
      drop
      if versioned || major != 1 then refuse else readDirectives fuel true handles
    | .handle name expansion =>
      drop
      if (handles.lookup name).isSome then refuse
      else readDirectives fuel versioned (handles ++ [(name, expansion)])
    | .directive =>
      drop
      readDirectives fuel versioned handles
    | _ => modify fun r => { r with handles := handles ++ knownHandles }

def endsDocument : Token → Bool
  | .version _ | .handle _ _ | .directive | .documentStart | .documentEnd | .textEnd => true
  | _ => false

/-- The first document of a text; nothing if there is none. -/
def readDocument (fuel : Nat) : Read (Option Nat) := do
  match ← peek with
  | .textEnd => return none
  | .version _ | .handle _ _ | .directive | .documentStart =>
    readDirectives fuel false []
    expect .documentStart
    if endsDocument (← peek) then return some (← addEmpty)
    else return some (← read fuel deepestNesting true false)
  | _ => return some (← read fuel deepestNesting true false)

/-- What follows the only document. It is read up to where another one would begin. -/
def readEnd (fuel : Nat) : Read Unit := do
  skipDocumentEnds fuel
  if (← peek) ≠ .textEnd then
    readDirectives fuel false []
    refuse

def ofTokens (stream : TokenStream) : Except Fault (Option Graph) := do
  let fuel := 4 * stream.tokens.length + 4
  let read : Read (Option Nat) := do
    let root ← readDocument fuel
    readEnd fuel
    return root
  let (root, r) ← read.run { stream }
  return root.map fun number => ⟨r.nodes, number⟩

end Graph

end SqlBindings.Yaml
