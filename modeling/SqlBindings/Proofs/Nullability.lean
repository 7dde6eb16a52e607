import SqlBindings.Catalog.Row
import SqlBindings.Proofs.Attributes
import SqlBindings.Proofs.DeclarationSearch
import SqlBindings.Proofs.Verdicts

namespace SqlBindings

namespace Sql

theorem lookup_addNew (entries : List (String × String)) (key value looked : String) :
    (addNew entries key value).lookup looked =
      (entries.lookup looked).or (if looked == key then some value else none) := by
  unfold addNew
  by_cases there : (entries.lookup key).isSome = true
  · rw [if_pos there]
    split
    case isTrue same =>
      obtain rfl := beq_iff_eq.mp same
      obtain ⟨old, found⟩ := Option.isSome_iff_exists.mp there
      simp [found]
    case isFalse => simp
  · rw [if_neg there, List.lookup_append]
    cases same : looked == key <;> simp [List.lookup_cons, same]

/-- The declaration of a name that a search finds first, names told apart without regard to case. -/
def firstNamed (name : List Char) (found : List DefaultDeclaration) : Option DefaultDeclaration :=
  found.find? fun d => Text.lowerChars d.name == Text.lowerChars name

theorem lookup_foldl_addNew (found : List DefaultDeclaration) (entries : List (String × String))
    (name : List Char) :
    (found.foldl (fun entries d =>
      addNew entries (String.ofList (Text.lowerChars d.name)) (String.ofList d.literal)) entries).lookup
        (String.ofList (Text.lowerChars name)) =
      (entries.lookup (String.ofList (Text.lowerChars name))).or
        ((firstNamed name found).map fun d => String.ofList d.literal) := by
  induction found generalizing entries with
  | nil => simp [firstNamed]
  | cons d found ih =>
    rw [List.foldl_cons, ih, lookup_addNew, Option.or_assoc]
    congr 1
    have same : (String.ofList (Text.lowerChars name) == String.ofList (Text.lowerChars d.name)) =
        (Text.lowerChars d.name == Text.lowerChars name) := by
      rw [Bool.eq_iff_iff, beq_iff_eq, beq_iff_eq, String.ofList_inj]
      exact eq_comm
    rw [same]
    unfold firstNamed
    cases here : Text.lowerChars d.name == Text.lowerChars name <;> simp [here]

/-- A lookup in the table of defaults gives the literal of the first declaration of the name. -/
theorem lookup_parameterDefaults (definition name : List Char) :
    (parameterDefaults (String.ofList definition)).lookup (String.ofList (Text.lowerChars name)) =
      (firstNamed name (declarationsFrom 0 definition)).map fun d => String.ofList d.literal := by
  unfold parameterDefaults
  rw [lookup_foldl_addNew, String.toList_ofList]
  rfl

end Sql

namespace Catalog.Row

variable {defaults : List (String × String)}

theorem addParameter_default {s s' : Signature} {row : Datum}
    (known : ∀ p ∈ s.parameters, p.default = defaults.lookup (Text.lower p.name))
    (added : addParameter defaults s row = .ok s') :
    ∀ p ∈ s'.parameters, p.default = defaults.lookup (Text.lower p.name) := by
  obtain ⟨values, -, added⟩ := bind_eq_ok.mp added
  split at added
  case h_2 => cases added
  case h_1 name dataType isTableType typeSchema position =>
    split at added
    · obtain rfl := Except.ok.inj added
      exact known
    · split at added
      case h_2 => cases added
      case h_1 text =>
        obtain ⟨parameter, checked, added⟩ := bind_eq_ok.mp added
        obtain rfl := Except.ok.inj added
        obtain ⟨rfl, default⟩ := Parameter.of_check rfl rfl checked
        intro p mem
        rcases List.mem_append.mp mem with mem | mem
        · exact known p mem
        · obtain rfl := List.mem_singleton.mp mem
          exact default

/-- Each parameter of a routine has the default found under its name in lower case. -/
theorem signature_default {rows : List Datum} {s : Signature}
    (read : signature defaults rows = .ok s) :
    ∀ p ∈ s.parameters, p.default = defaults.lookup (Text.lower p.name) := by
  have steps (rows : List Datum) (start : Signature)
      (known : ∀ p ∈ start.parameters, p.default = defaults.lookup (Text.lower p.name))
      (read : rows.foldlM (addParameter defaults) start = .ok s) :
      ∀ p ∈ s.parameters, p.default = defaults.lookup (Text.lower p.name) := by
    induction rows generalizing start with
    | nil =>
      obtain rfl := Except.ok.inj read
      exact known
    | cons row rows ih =>
      rw [List.foldlM_cons] at read
      obtain ⟨next, added, read⟩ := bind_eq_ok.mp read
      exact ih next (addParameter_default known added) read
  exact steps rows ⟨[], .null⟩ (by simp) read

end Catalog.Row

namespace Sql

/-- A search for the name finds a declaration with the default NULL first. -/
def FindsNull (name cs : List Char) : Prop :=
  ∃ found ∈ firstNamed name (declarationsFrom 0 cs),
    Attribute.isNullLiteral (String.ofList found.literal) = true

/-- The first reading of a name, where an earlier mention of it is not read. -/
theorem firstNamed_declaration {before : Preamble} {d : Declaration} {after : List Char}
    (first : ∀ m ∈ before.mentions, ∀ name, m.Reads name →
      Text.lowerChars name ≠ Text.lowerChars d.parameterName) :
    firstNamed d.parameterName (declarationsFrom 0 (before.text ++ (d.text ++ after))) =
      firstNamed d.parameterName (declarationsFrom 0 (d.text ++ after)) := by
  have next : MentionNext (d.text ++ after) :=
    .inr (by simp [Declaration.text, Declaration.parameterName])
  obtain ⟨found, search, reads⟩ := before.search_append next
  rw [search, firstNamed, List.find?_append]
  have none : found.find? (fun e =>
      Text.lowerChars e.name == Text.lowerChars d.parameterName) = none :=
    List.find?_eq_none.mpr fun e mem => by
      obtain ⟨m, memM, read⟩ := reads e mem
      simpa using first m memM e.name read
  rw [none, Option.none_or]
  rfl

/-- What is found first from a declaration on is the declaration, if it is read. -/
theorem findsNull_declaration {d : Declaration} {after : List Char} (follows : d.FollowedBy after) :
    FindsNull d.parameterName (d.text ++ after) ↔
      d.ReadsNull after ∨ ¬ d.IsRead ∧ FindsNull d.parameterName (d.text ++ after).tail := by
  rcases d.read_or_unread follows with ⟨read, v, given, rest, found, reading⟩ | ⟨unread, none⟩
  · obtain ⟨later, search⟩ := declarationsFrom_cons reading
    have named : firstNamed d.parameterName (declarationsFrom 0 (d.text ++ after)) =
        some (d.reading v after rest) := by
      simp [search, firstNamed, Declaration.reading]
    have null := Declaration.isNullLiteral_reading follows read given found
    simp [FindsNull, named, null, read]
  · have unnamed : ¬ d.ReadsNull after := fun null => unread null.isRead
    simp [FindsNull, declarationsFrom_none none, unnamed, unread]

end Sql

namespace Attribute

open Catalog Sql

theorem nullable_ofParameter {p : Parameter} {a : Attribute} (derived : ofParameter p = .ok a) :
    a.nullable = p.default.any isNullLiteral := by
  obtain ⟨_, -, derived⟩ := bind_eq_ok.mp derived
  obtain ⟨_, -, derived⟩ := bind_eq_ok.mp derived
  obtain ⟨-, rfl⟩ := derive_eq_ok.mp derived
  rfl

section
variable {before : Preamble} {d : Declaration} {after : List Char} {rows : List Datum}
  {s : Row.Signature} {p : Parameter} {a : Attribute}

/-- The attribute of a parameter may be NULL exactly if the declaration of the parameter says so and is
read, or, where no default can be read at the declaration, if a later place in the text says so.

A declaration that says so is read unless a comment comes between its name and the NULL, or dashes
right after it. A declaration in a comment counts like any other, so that `d` is the first one of the
name at which a default is read, if there is one. -/
theorem ofParameter_nullable_iff (follows : d.FollowedBy after)
    (read : Row.signature
      (parameterDefaults (String.ofList (before.text ++ (d.text ++ after)))) rows = .ok s)
    (mem : p ∈ s.parameters) (named : p.name = String.ofList d.parameterName)
    (first : ∀ m ∈ before.mentions, ∀ name, m.Reads name →
      Text.lowerChars name ≠ Text.lowerChars d.parameterName)
    (derived : ofParameter p = .ok a) :
    a.nullable = true ↔
      d.ReadsNull after ∨ ¬ d.IsRead ∧ FindsNull d.parameterName (d.text ++ after).tail := by
  have default := Row.signature_default read p mem
  rw [named, Text.lower, String.toList_ofList, lookup_parameterDefaults,
    firstNamed_declaration first] at default
  rw [nullable_ofParameter derived, default, ← findsNull_declaration follows]
  unfold FindsNull
  cases firstNamed d.parameterName (declarationsFrom 0 (d.text ++ after)) <;> simp

end

/-- `CREATE PROCEDURE dbo.P`, with a comment that mentions a parameter. -/
def procedureHead : Preamble :=
  ⟨"CREATE PROCEDURE dbo.P -- rows after ".toList, by decide,
    [.other "since\n  ".toList (by decide) (by decide) (by decide)]⟩

/-- `@since datetime = Null`. -/
def sinceNull : Declaration where
  name := .ofString "since" (by decide)
  gap := .space
  apart := by decide
  as? := none
  schema? := none
  type := ⟨.ofString "datetime" (by decide), false⟩
  notAs := by decide
  notVarying := by decide
  arguments? := none
  varying? := none
  default? := some
    ⟨.space, .space, .run "Null".toList (by decide) (List.all_eq_true.mp (by decide))⟩

def sinceRow : Datum := .list [.text "@since", .text "datetime", .bool false, .null, .int 1]

example : String.ofList (procedureHead.text ++ sinceNull.text) =
    "CREATE PROCEDURE dbo.P -- rows after @since\n  @since datetime = Null" := by decide

def sinceParameter : Parameter := ⟨"@since", "datetime", false, none, some "Null", 1⟩

def sinceAttribute : Attribute := ⟨"since", .plain .dateTime, true, "@since"⟩

theorem ofParameter_nullable_iff_since :
    ofParameter sinceParameter = .ok sinceAttribute ∧
      (sinceAttribute.nullable = true ↔ sinceNull.ReadsNull ")\nAS".toList ∨ ¬ sinceNull.IsRead ∧
        FindsNull sinceNull.parameterName (sinceNull.text ++ ")\nAS".toList).tail) := by
  have derived : ofParameter sinceParameter = .ok sinceAttribute := by rfl
  have read : Row.signature (parameterDefaults (String.ofList
      (procedureHead.text ++ (sinceNull.text ++ ")\nAS".toList)))) [sinceRow] =
        .ok ⟨[sinceParameter], .null⟩ := by
    have found : parameterDefaults (String.ofList
        (procedureHead.text ++ (sinceNull.text ++ ")\nAS".toList))) = [("@since", "Null")] := by
      decide +kernel
    rw [found]
    rfl
  refine ⟨derived, ofParameter_nullable_iff ⟨by decide, nofun⟩ read (List.mem_singleton_self _)
    (by decide) ?_ derived⟩
  intro m mem name reads
  obtain rfl := List.mem_singleton.mp mem
  exact reads.elim

/-- Dashes right after a NULL hide it: the parameter does not become one that may be NULL. -/
theorem ofParameter_misses_null :
    sinceNull.DeclaresNull ∧ sinceNull.FollowedBy "-- any\nAS".toList ∧
      Row.signature (parameterDefaults (String.ofList
        (procedureHead.text ++ (sinceNull.text ++ "-- any\nAS".toList)))) [sinceRow] =
          .ok ⟨[{ sinceParameter with default := some "Null--" }], .null⟩ ∧
      sinceParameter.name = String.ofList sinceNull.parameterName ∧
      ofParameter { sinceParameter with default := some "Null--" } =
        .ok { sinceAttribute with nullable := false } := by
  have found : parameterDefaults (String.ofList
      (procedureHead.text ++ (sinceNull.text ++ "-- any\nAS".toList))) = [("@since", "Null--")] := by
    decide +kernel
  refine ⟨⟨_, rfl, by decide⟩, ⟨by decide, nofun⟩, ?_, by decide, by rfl⟩
  rw [found]
  rfl

end Attribute

end SqlBindings
