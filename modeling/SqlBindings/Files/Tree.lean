import SqlBindings.Failure
import SqlBindings.Files.Path

/-!
A file system as a tree of directories. A place in the tree is the list of the names that lead to it;
what lies above the working directory, or on another root, begins with `..` or `/`.
-/

namespace SqlBindings.Files

inductive Entry where
  | directory
  | file (bytes : List UInt8)
deriving DecidableEq, Repr

/-- The entries by their places. The working directory itself is not listed. -/
structure Tree where
  entries : List (List String × Entry) := []
deriving Repr

namespace Tree

/-- The longest name of an entry, in bytes. -/
def longestName : Nat := 255

/-- The longest path, in bytes. -/
def longestPath : Nat := 4095

/-- Whether a place is the working directory, one above it, or a root. These always exist. -/
def isGiven (place : List String) : Bool := place.all (· == "..") || place == ["/"]

def find? (tree : Tree) (place : List String) : Option Entry :=
  if isGiven place then some .directory else tree.entries.lookup place

def above (place : List String) : List String :=
  if place == ["/"] then place
  else if place.all (· == "..") then place ++ [".."]
  else place.dropLast

/-- Follows segments from a place. All but the last one must lead to directories. -/
def follow (tree : Tree) (place : List String) : List String → Except FileFault (List String)
  | [] => .ok place
  | segment :: rest =>
    match tree.find? place with
    | none => .error .notFound
    | some (.file _) => .error .notDirectory
    | some .directory =>
      if segment = ".." then follow tree (above place) rest
      else if segment.utf8ByteSize > longestName then .error .nameTooLong
      else follow tree (place ++ [segment]) rest

/-- The place a path leads to; there need not be an entry. -/
def place (tree : Tree) (path : Path) : Except FileFault (List String) :=
  if path.display.utf8ByteSize > longestPath then .error .nameTooLong
  else tree.follow (if path.root = .working then [] else ["/"]) path.segments

def entry (tree : Tree) (path : Path) : Except FileFault (Option Entry) := do
  return tree.find? (← tree.place path)

def hasNull (path : Path) : Bool := path.segments.any fun s => s.contains '\x00'

/-- The entry a path leads to. A path that leads nowhere has none, but one that cannot be followed at
all is a failure. -/
def look (tree : Tree) (path : Path) : Except Failure (Option Entry) :=
  if hasNull path then .ok none
  else match tree.entry path with
    | .ok e => .ok e
    | .error .nameTooLong => .error (.file .nameTooLong path.display)
    | .error _ => .ok none

def set (tree : Tree) (place : List String) (e : Entry) : Tree :=
  ⟨tree.entries.filter (·.1 != place) ++ [(place, e)]⟩

theorem lookup_filter_ne (entries : List (List String × Entry)) (p q : List String) :
    (entries.filter (·.1 != p)).lookup q = if q = p then none else entries.lookup q := by
  induction entries with
  | nil => simp
  | cons e entries ih =>
    obtain ⟨place, e⟩ := e
    by_cases h : place = p
    · subst h
      rw [List.filter_cons_of_neg (by simp), ih]
      by_cases hq : q = place
      · simp [hq]
      · have hb : (q == place) = false := beq_false_of_ne hq
        simp [hq, List.lookup_cons, hb]
    · rw [List.filter_cons_of_pos (by simpa using h)]
      by_cases hq : q = place
      · have hp : ¬ q = p := hq ▸ h
        simp [hq, h]
      · have hb : (q == place) = false := beq_false_of_ne hq
        simp only [List.lookup_cons, hb, ih]

theorem find?_set_self (tree : Tree) (place : List String) (e : Entry)
    (h : isGiven place = false) : (tree.set place e).find? place = some e := by
  simp [find?, set, h, List.lookup_append, lookup_filter_ne]

theorem find?_set_of_ne (tree : Tree) (p q : List String) (e : Entry) (h : q ≠ p) :
    (tree.set p e).find? q = tree.find? q := by
  have hb : (q == p) = false := beq_false_of_ne h
  simp [find?, set, List.lookup_append, lookup_filter_ne, h, List.lookup_cons, hb]

/-- Puts an entry at a place, with directories above it where there is nothing. -/
def insert (tree : Tree) (place : List String) (e : Entry) : Tree :=
  let parents := (List.range place.length).map fun n => place.take n
  let missing := parents.filter fun p => (tree.find? p).isNone
  (missing.foldl (fun t p => t.set p .directory) tree).set place e

def makeDirectory (tree : Tree) (path : Path) : Except FileFault Tree := do
  let place ← tree.place path
  if (tree.find? place).isSome then throw .alreadyExists
  return tree.set place .directory

/-- Makes a directory and whatever is missing above it, of which there are at most `height`. -/
def makeMissing (tree : Tree) (height : Nat) (path : Path) : Except Failure Tree :=
  match tree.makeDirectory path with
  | .ok t => .ok t
  | .error .notFound =>
    match height with
    | 0 => .error (.file .notFound path.display)
    | height + 1 => do
      let t ← makeMissing tree height path.parent
      match t.makeDirectory path with
      | .ok u => .ok u
      | .error fault => existing t fault
  | .error fault => existing tree fault
where
  /-- That a directory exists already is no failure. -/
  existing (t : Tree) (fault : FileFault) : Except Failure Tree :=
    match t.entry path with
    | .ok (some .directory) => .ok t
    | _ => .error (.file fault path.display)

def makeDirectories (tree : Tree) (path : Path) : Except Failure Tree :=
  if hasNull path then .error .embeddedNull else tree.makeMissing path.segments.length path

def write (tree : Tree) (path : Path) (bytes : List UInt8) : Except Failure Tree :=
  if hasNull path then .error .embeddedNull
  else match tree.place path with
    | .error fault => .error (.file fault path.display)
    | .ok place => match tree.find? place with
      | some .directory => .error (.file .isDirectory path.display)
      | _ => .ok (tree.set place (.file bytes))

end Tree

end SqlBindings.Files
