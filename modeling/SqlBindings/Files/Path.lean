import SqlBindings.Sql.ConnectionString

/-!
File paths. A path is a root and the segments below it; empty segments and single dots are dropped
when a path is read, double dots stay.
-/

namespace SqlBindings.Files

/-- What a path starts from. Two slashes are a root of their own, three or more count as one. -/
inductive Root where
  | working | slash | twoSlashes
deriving DecidableEq, Repr

def Root.display : Root → String
  | working => ""
  | slash => "/"
  | twoSlashes => "//"

structure Path where
  root : Root
  segments : List String
deriving DecidableEq, Repr

namespace Path

def rootOf (text : List Char) : Root :=
  match (text.takeWhile (· == '/')).length with
  | 0 => .working
  | 2 => .twoSlashes
  | _ => .slash

def ofText (text : String) : Path :=
  ⟨rootOf text.toList,
    ((Sql.splitAtChar '/' text.toList).map String.ofList).filter fun s => s != "" && s != "."⟩

/-- The path as text; a dot stands for no segments at all. -/
def display (p : Path) : String :=
  if p.root = .working ∧ p.segments = [] then "."
  else p.root.display ++ "/".intercalate p.segments

/-- A path read from another one. An absolute path stands for itself. -/
def join (p q : Path) : Path :=
  if q.root = .working then ⟨p.root, p.segments ++ q.segments⟩ else q

def parent (p : Path) : Path := ⟨p.root, p.segments.dropLast⟩

end Path

end SqlBindings.Files
