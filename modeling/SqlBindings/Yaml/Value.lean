import SqlBindings.Yaml.Content

/-!
The values of the nodes of a document, and the entries of a text. The order of the entries of a mapping
is kept.
-/

namespace SqlBindings.Yaml

/-- A mapping as a value: a record if all of its keys are texts. -/
def mappingDatum (entries : Entries Datum) : Datum :=
  let fields := entries.filterMap fun (key, value) =>
    match key with
    | .text name => some (name, value)
    | _ => none
  if fields.length = entries.length then .record fields else .mapping entries

/-- A value, and whether it is the same at all places where its node stands. It is not if it shows that
a collection is inside of another one that contains it. -/
structure Placed where
  value : Datum
  everywhere : Bool

/-- The values that nodes have everywhere, as far as they are known. -/
abbrev Known := Array (Option Datum)

def assemble (number : Nat) (parts : List Placed) (make : List Datum → Datum) :
    StateM Known Placed := do
  let value := make (parts.map Placed.value)
  let everywhere := parts.all Placed.everywhere
  if everywhere then modify fun known => known.setIfInBounds number (some value)
  return ⟨value, everywhere⟩

/-- The value of a node. `around` holds the collections that it is inside of. A node that is referred
to at many places has its value made once. -/
def placed (contents : Array (Option Content)) (fuel : Nat) (around : List Nat) (number : Nat) :
    StateM Known Placed :=
  match fuel with
  | 0 => return ⟨.null, true⟩
  | fuel + 1 => do
    if let some value := ((← get)[number]?).join then return ⟨value, true⟩
    let inside := placed contents fuel (number :: around)
    let again := around.contains number
    match (contents[number]?).join with
    | none => return ⟨.null, true⟩
    | some (.single value) => return ⟨value, true⟩
    | some (.set items) => return ⟨.set (items.map (·.1)), true⟩
    | some (.list items) =>
      if again then return ⟨.enclosingList, false⟩
      assemble number (← items.mapM inside) .list
    | some (.pairs items) =>
      if again then return ⟨.enclosingList, false⟩
      let firsts ← items.mapM fun (first, _) => inside first
      let seconds ← items.mapM fun (_, second) => inside second
      assemble number (firsts ++ seconds) fun values =>
        .list ((values.take items.length).zipWith .pair (values.drop items.length))
    | some (.mapping entries) =>
      if again then return ⟨.enclosingMapping, false⟩
      let values ← entries.mapM fun (_, value) => inside value
      assemble number values fun values => mappingDatum ((entries.map (·.1)).zip values)

def entries (text : List Char) : Except Fault (Entries Datum) := do
  match ← Graph.ofTokens (.ofText text) with
  | none => throw .notMapping
  | some g =>
    let contents ← g.contents
    match (contents[g.root]?).join with
    | some (.mapping entries) =>
      let values := entries.mapM fun (_, value) => placed contents (g.nodes.size + 1) [] value
      let (values, _) := values.run (.replicate g.nodes.size none)
      return (entries.map (·.1)).zip (values.map Placed.value)
    | _ => throw .notMapping

end SqlBindings.Yaml
