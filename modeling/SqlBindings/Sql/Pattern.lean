import SqlBindings.Text.Case

/-!
Patterns over text with ordered choice. A pattern maps a text to what may remain after it, the
preferred reading first, so that a later pattern can fall back on a shorter reading of an earlier one.
-/

namespace SqlBindings.Sql

/-- What may remain of a text after the pattern, the preferred reading first. -/
abbrev Pattern := List Char → List (List Char)

namespace Pattern

def one (p : Char → Bool) : Pattern
  | [] => []
  | c :: rest => if p c then [rest] else []

def char (c : Char) : Pattern := one (· == c)

def followedBy (p q : Pattern) : Pattern := fun cs => (p cs).flatMap q

instance : AndThen Pattern := ⟨fun p q => p.followedBy (q ())⟩

/-- Either pattern, the first one preferred. -/
def either (p q : Pattern) : Pattern := fun cs => p cs ++ q cs

instance : OrElse Pattern := ⟨fun p q => p.either (q ())⟩

def optional (p : Pattern) : Pattern := fun cs => p cs ++ [cs]

/-- As many characters of a class as possible, perhaps none. -/
def many (p : Char → Bool) : Pattern
  | [] => [[]]
  | c :: rest => if p c then many p rest ++ [c :: rest] else [c :: rest]

def oneOrMore (p : Char → Bool) : Pattern := one p >> many p

def blanks : Pattern := many Text.isBlank

def blank : Pattern := oneOrMore Text.isBlank

/-- A word in any case, given in lower case. -/
def keyword : List Char → Pattern
  | [] => fun cs => [cs]
  | letter :: rest => one (Text.equalsLetter letter) >> keyword rest

end Pattern

/-- The part of a text that comes before what remains of it. -/
def consumed (text rest : List Char) : List Char := text.take (text.length - rest.length)

end SqlBindings.Sql
