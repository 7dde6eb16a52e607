import SqlBindings.Yaml.Literal
import SqlBindings.Yaml.Node

/-!
What the nodes of a document are made into. Scalars are made at once; collections are filled one after
another, in the order in which they have been come upon, so that they may contain themselves. That order
decides which of several faults is the one that is found.
-/

namespace SqlBindings.Yaml

abbrev Entries (α : Type) := List (Datum × α)

/-- Whether two keys are the same. Truth values and numbers are compared as numbers. -/
def sameKey (a b : Datum) : Bool :=
  match a.toInt?, b.toInt? with
  | some m, some n => m == n
  | none, none =>
    match a, b with
    | .null, .null => true
    | .text s, .text t => s == t
    | .float x, .float y => x == y || (x.isNaN && y.isNaN)
    | .bytes s, .bytes t => s == t
    | .date d, .date e => d == e
    | .moment m, .moment n => m.isSame n
    | _, _ => false
  | _, _ => false

/-- Puts an entry into a mapping. A key that is there already keeps its place and its spelling. -/
def putEntry {α : Type} (entries : Entries α) (key : Datum) (value : α) : Entries α :=
  if entries.any fun e => sameKey e.1 key then
    entries.map fun e => if sameKey e.1 key then (e.1, value) else e
  else entries ++ [(key, value)]

/-- What has been made of a node. The parts of a collection are known by their nodes. -/
inductive Content where
  | single (value : Datum)
  | list (items : List Nat)
  | pairs (items : List (Nat × Nat))
  | mapping (entries : Entries Nat)
  | set (items : Entries Nat)

structure Builder where
  nodes : Array Node
  contents : Array (Option Content)
  /-- The collections that have not been filled, the last one first. -/
  waiting : List Nat := []

abbrev Build := StateT Builder (Except Fault)

namespace Build

def refuse {α : Type} : Build α := throw .invalid

def node (number : Nat) : Build Node := do
  match (← get).nodes[number]? with
  | some node => return node
  | none => refuse

def body (number : Nat) : Build Body := return (← node number).body

def setNode (number : Nat) (node : Node) : Build Unit :=
  modify fun b => { b with nodes := b.nodes.setIfInBounds number node }

def setContent (number : Nat) (content : Content) : Build Unit :=
  modify fun b => { b with contents := b.contents.setIfInBounds number (some content) }

def content? (number : Nat) : Build (Option Content) := return ((← get).contents[number]?).join

def value {α : Type} (result : Literal.Result α) : Build α :=
  match result with
  | .ok a => return a
  | .error fault => throw (.value fault)

/-! ### Scalars -/

/-- The text of a node: of a mapping, that of the value that stands in for it. A mapping may stand in
for itself, which has no end. -/
def text (fuel number : Nat) : Build String :=
  match fuel with
  | 0 => throw (.value .tooDeep)
  | fuel + 1 => do
    match ← body number with
    | .scalar text => return text
    | .sequence _ => refuse
    | .mapping entries =>
      let marked ← entries.filterM fun (key, _) => return (← node key).kind == .standIn
      match marked with
      | (_, inner) :: _ => text fuel inner
      | [] => refuse

def single (kind : Kind) (number : Nat) : Build Datum := do
  let s ← text ((← get).nodes.size + 1) number
  match kind with
  | .null => return .null
  | .bool => return .bool (← value (Literal.bool s))
  | .int => return .int (← value (Literal.int s))
  | .float => return .float (← value (Literal.float s))
  | .binary => match Literal.bytes? s with
    | some data => return .bytes data
    | none => refuse
  | .timestamp => match ← body number with
    | .scalar s => value (Literal.timestamp s)
    | _ => throw (.value .timestampOfCollection)
  | _ => return .text s

/-- Makes a node: a scalar entirely, a collection empty for now. -/
def make (number : Nat) : Build Unit := do
  if (← content? number).isSome then return
  let kind := (← node number).kind
  if kind.isCollection then
    setContent number (.list [])
    modify fun b => { b with waiting := number :: b.waiting }
  else if kind = .merge ∨ kind = .standIn ∨ kind = .unknown then refuse
  else setContent number (.single (← single kind number))

def makeKey (number : Nat) : Build Datum := do
  make number
  match ← content? number with
  | some (.single key) => return key
  | _ => refuse

/-! ### Merged mappings -/

def entriesOf (number : Nat) : Build (List (Nat × Nat)) := do
  match ← body number with
  | .mapping entries => return entries
  | _ => refuse

def setEntries (number : Nat) (entries : List (Nat × Nat)) : Build Unit := do
  setNode number ⟨(← node number).kind, .mapping entries⟩

/-- The keys of a mapping up to the first one that merges. Those that mark a value become texts on the
way. -/
def passKeys (index : Nat) : List (Nat × Nat) → Build (Option (Nat × Nat))
  | [] => return none
  | (key, value) :: entries => do
    match (← node key).kind with
    | .merge => return some (index, value)
    | .standIn =>
      setNode key ⟨.text, (← node key).body⟩
      passKeys (index + 1) entries
    | _ => passKeys (index + 1) entries

/-- Merges mappings into one, from an entry on. `merged` holds the entries that come in front of its
own. Each step takes away an entry that merges, so there are at most as many as there are entries. -/
def mergeFrom (fuel number index : Nat) (merged : List (Nat × Nat)) : Build Unit :=
  match fuel with
  | 0 => refuse
  | fuel + 1 => do
    let entries ← entriesOf number
    match ← passKeys index (entries.drop index) with
    | none => if !merged.isEmpty then setEntries number (merged ++ entries)
    | some (place, source) =>
      setEntries number (entries.eraseIdx place)
      let more ← match ← body source with
        | .mapping _ =>
          mergeFrom fuel source 0 []
          entriesOf source
        | .sequence items =>
          let lists ← items.mapM fun item => do
            let _ ← entriesOf item
            mergeFrom fuel item 0 []
            entriesOf item
          pure lists.reverse.flatten
        | .scalar _ => refuse
      mergeFrom fuel number place (merged ++ more)

def allEntries (number : Nat) : Build (List (Nat × Nat)) := do
  let _ ← entriesOf number
  let total := (← get).nodes.foldl (fun n node => match node.body with
    | .mapping entries => n + entries.length
    | _ => n) 0
  mergeFrom (total + 1) number 0 []
  entriesOf number

/-! ### Collections -/

def makeEntries (number : Nat) : Build (Entries Nat) := do
  (← allEntries number).foldlM (fun made (keyNumber, valueNumber) => do
    let key ← makeKey keyNumber
    make valueNumber
    return putEntry made key valueNumber) []

def makeItems (number : Nat) : Build (List Nat) := do
  match ← body number with
  | .sequence items =>
    items.forM make
    return items
  | _ => refuse

/-- Mappings of one entry each. -/
def makePairs (number : Nat) : Build (List (Nat × Nat)) := do
  match ← body number with
  | .sequence items => items.mapM fun item => do
    match ← entriesOf item with
    | [(key, value)] =>
      make key
      make value
      return (key, value)
    | _ => refuse
  | _ => refuse

def fill (number : Nat) : Build Unit := do
  let content ← match (← node number).kind with
    | .mapping => pure (Content.mapping (← makeEntries number))
    | .set => pure (Content.set (← makeEntries number))
    | .orderedMapping | .pairs => pure (Content.pairs (← makePairs number))
    | _ => pure (Content.list (← makeItems number))
  setContent number content

/-- Fills the collections that wait, and those that come up meanwhile after them. -/
def fillAll (fuel : Nat) : Build Unit :=
  match fuel with
  | 0 => return ()
  | fuel + 1 => do
    let waiting := (← get).waiting.reverse
    if waiting.isEmpty then return
    modify fun b => { b with waiting := [] }
    waiting.forM fill
    fillAll fuel

end Build

def Graph.contents (g : Graph) : Except Fault (Array (Option Content)) := do
  let build : Build Unit := do
    Build.make g.root
    Build.fillAll (g.nodes.size + 1)
  let (_, b) ← build.run ⟨g.nodes, .replicate g.nodes.size none, []⟩
  return b.contents

end SqlBindings.Yaml
