import SqlBindings.Text.Character
import SqlBindings.Text.Quoted

/-!
Options on a command line. An option is written by one of its names, by an unambiguous beginning of a
long name, or as one letter among several behind a single dash. Its value is the next argument or
stands behind an equals sign.
-/

namespace SqlBindings.CommandLine

/-- What an option asks for. -/
inductive Demand where
  /-- To be told how to use the program. It takes effect at once. -/
  | help
  | mark
  /-- A value; one of the choices if there are any. -/
  | value (choices : List String)
deriving DecidableEq, Repr

structure Switches (α : Type) where
  all : List α
  names : α → List String
  demand : α → Demand
  /-- The options that must not stand beside an option. -/
  rivals : α → List α := fun _ => []

inductive Misuse where
  | ambiguous (argument : String) (matching : List String)
  | needlessValue (label value : String)
  | missingValue (label : String)
  | invalidChoice (label value : String) (choices : List String)
  | notBeside (label other : String)
  | unrecognized (arguments : List String)
deriving DecidableEq, Repr

namespace Misuse

def ofArgument (label text : String) : String := "argument " ++ label ++ ": " ++ text

def message : Misuse → String
  | ambiguous argument matching =>
    "ambiguous option: " ++ argument ++ " could match " ++ ", ".intercalate matching
  | needlessValue label value =>
    ofArgument label ("ignored explicit argument " ++ Text.quote value)
  | missingValue label => ofArgument label "expected one argument"
  | invalidChoice label value choices =>
    ofArgument label ("invalid choice: " ++ Text.quote value ++ " (choose from " ++
      ", ".intercalate (choices.map Text.quote) ++ ")")
  | notBeside label other => ofArgument label ("not allowed with argument " ++ other)
  | unrecognized arguments => "unrecognized arguments: " ++ " ".intercalate arguments

end Misuse

/-- A value in one argument with its option. -/
structure Attached where
  text : List Char
  /-- Whether an equals sign stands in front of it. -/
  byEquals : Bool
deriving DecidableEq, Repr

/-- How an argument reads by itself. -/
inductive Reading (α : Type) where
  /-- No option: a value or a command. -/
  | word
  /-- Two dashes, behind which there are no options. -/
  | separator
  | unknown
  | option (which : α) (isShort : Bool) (attached : Option Attached)
deriving DecidableEq, Repr

/-- Whether a text is a negative number, a line end behind it allowed. -/
def isNegativeNumber (text : List Char) : Bool :=
  match text with
  | '-' :: rest =>
    let digits := if rest.getLast? = some '\n' then rest.dropLast else rest
    match digits.dropWhile Text.isDigit with
    | [] => !digits.isEmpty
    | '.' :: fraction => !fraction.isEmpty && fraction.all Text.isDigit
    | _ => false
  | _ => false

namespace Switches

variable {α : Type} (switches : Switches α)

def byName : List (String × α) :=
  switches.all.flatMap fun a => (switches.names a).map fun name => (name, a)

def find? (name : List Char) : Option α := switches.byName.lookup (String.ofList name)

def label (a : α) : String := "/".intercalate (switches.names a)

/-- The options an argument may stand for that begins with two dashes. -/
def abbreviated (text : List Char) : List (String × Reading α) :=
  let stem := text.takeWhile (· != '=')
  let attached := match text.drop stem.length with
    | [] => none
    | _ :: value => some ⟨value, true⟩
  (switches.byName.filter fun (name, _) => stem.isPrefixOf name.toList).map fun (name, a) =>
    (name, .option a false attached)

/-- The option that the first letter behind a single dash names. -/
def abutted (text : List Char) : List (String × Reading α) :=
  match switches.find? (text.take 2) with
  | some a => [(String.ofList (text.take 2), .option a true (some ⟨text.drop 2, false⟩))]
  | none => []

def readOther (text : List Char) : Except Misuse (Reading α) :=
  let found := if text.take 2 = ['-', '-'] then switches.abbreviated text else switches.abutted text
  match found with
  | [] =>
    if isNegativeNumber text || text.contains ' ' then .ok .word else .ok .unknown
  | [(_, reading)] => .ok reading
  | several => .error (.ambiguous (String.ofList text) (several.map (·.1)))

def isShort (name : List Char) : Bool := name[1]? != some '-'

def read (text : List Char) : Except Misuse (Reading α) :=
  if text.head? ≠ some '-' then .ok .word
  else match switches.find? text with
    | some a => .ok (.option a (isShort text) none)
    | none =>
      if text.length = 1 then .ok .word
      else
        let name := text.takeWhile (· != '=')
        match switches.find? name, text.drop name.length with
        | some a, _ :: value => .ok (.option a (isShort name) (some ⟨value, true⟩))
        | _, _ => switches.readOther text

/-- Every argument with its reading. All are read before any takes effect. -/
def readAll : List String → Except Misuse (List (String × Reading α))
  | [] => .ok []
  | argument :: rest =>
    if argument = "--" then .ok ((argument, .separator) :: rest.map fun a => (a, .word))
    else do
      let reading ← switches.read argument.toList
      return (argument, reading) :: (← readAll rest)

/-! ### Options in one argument -/

/-- The options that one argument holds, the last of them with a value if one is attached, and an
argument made of the letters that name none. -/
structure Cluster (α : Type) where
  options : List (α × Option String)
  extra : Option String := none

def cluster (a : α) (isShort byEquals : Bool) : List Char → Except Misuse (Cluster α)
  | [] =>
    match switches.demand a with
    | .value _ => .ok ⟨[(a, some "")], none⟩
    | _ => .error (.needlessValue (switches.label a) "")
  | c :: rest =>
    match switches.demand a with
    | .value _ => .ok ⟨[(a, some (String.ofList (c :: rest)))], none⟩
    | _ =>
      if !isShort || byEquals || c = '-' then
        .error (.needlessValue (switches.label a) (String.ofList (c :: rest)))
      else match switches.find? ['-', c] with
        | none => .ok ⟨[(a, none)], some (String.ofList ('-' :: c :: rest))⟩
        | some b => do
          let inner ← match rest with
            | [] => .ok ⟨[(b, none)], none⟩
            | '=' :: value => cluster b true true value
            | d :: more => cluster b true false (d :: more)
          return { inner with options := (a, none) :: inner.options }

def clusterOf (a : α) (isShort : Bool) : Option Attached → Except Misuse (Cluster α)
  | none => .ok ⟨[(a, none)], none⟩
  | some attached => switches.cluster a isShort attached.byEquals attached.text

/-- Whether the last option of a cluster takes its value from the next argument. -/
def lacksValue (options : List (α × Option String)) : Option α :=
  match options.getLast? with
  | some (a, none) => match switches.demand a with
    | .value _ => some a
    | _ => none
  | _ => none

def withValue (options : List (α × Option String)) (value : String) : List (α × Option String) :=
  match options.getLast? with
  | some (a, _) => options.dropLast ++ [(a, some value)]
  | none => []

/-! ### All options -/

/-- The options that have taken effect, the last one first, and the arguments left over. -/
structure Selection (α : Type) where
  taken : List (α × Option String) := []
  leftovers : List String := []

inductive Stop where
  | help
  | misuse (fault : Misuse)
deriving DecidableEq, Repr

variable [DecidableEq α]

def take (selection : Selection α) (a : α) (value : Option String) :
    Except Stop (Selection α) :=
  match switches.demand a, value with
  | .value choices, some text =>
    if !choices.isEmpty && !choices.contains text then
      .error (.misuse (.invalidChoice (switches.label a) text choices))
    else accept
  | .help, _ => .error .help
  | _, _ => accept
where
  accept : Except Stop (Selection α) :=
    match (switches.rivals a).find? fun b => selection.taken.any (·.1 == b) with
    | some b => .error (.misuse (.notBeside (switches.label a) (switches.label b)))
    | none => .ok { selection with taken := (a, value) :: selection.taken }

def takeAll (selection : Selection α) (options : List (α × Option String)) :
    Except Stop (Selection α) :=
  options.foldlM (fun s (a, value) => switches.take s a value) selection

def leave (selection : Selection α) (arguments : List String) : Selection α :=
  { selection with leftovers := selection.leftovers ++ arguments }

def select (selection : Selection α) : List (String × Reading α) → Except Stop (Selection α)
  | [] => .ok selection
  | (_, .option a isShort attached) :: rest => do
    let c ← (switches.clusterOf a isShort attached).mapError .misuse
    let selection := leave selection c.extra.toList
    match switches.lacksValue c.options, rest with
    | none, rest => select (← switches.takeAll selection c.options) rest
    | some _, (value, .word) :: rest =>
      select (← switches.takeAll selection (withValue c.options value)) rest
    | some b, _ => .error (.misuse (.missingValue (switches.label b)))
  | (argument, _) :: rest => select (leave selection [argument]) rest

end Switches

namespace Switches.Selection

variable {α : Type} [DecidableEq α]

def has (selection : Selection α) (a : α) : Bool := selection.taken.any (·.1 == a)

/-- The value of an option, the last one if it is repeated. -/
def value? (selection : Selection α) (a : α) : Option String :=
  (selection.taken.find? (·.1 == a)).bind (·.2)

end Switches.Selection

end SqlBindings.CommandLine
