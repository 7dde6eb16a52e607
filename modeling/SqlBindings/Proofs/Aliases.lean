import SqlBindings.Proofs.Markup
import SqlBindings.Proofs.ReturnedTypes

namespace SqlBindings

open Render

/-- The schema through whose module a type is reached from the module of another one. -/
def SqlType.foreignOwner? (schema : String) : SqlType → Option String
  | scalar _ _ => none
  | table _ owner => owner.filter (· != schema)

/-- The schemas whose aliases some lines use. -/
def Render.usedAliases (lines : List Line) : List String := lines.flatMap aliases

namespace Render

@[simp] theorem aliases_nil : aliases [] = [] := rfl

@[simp] theorem aliases_text (s : String) (line : Line) : aliases (.text s :: line) = aliases line :=
  rfl

@[simp] theorem aliases_mark (schema name : String) (owner : Option String) (line : Line) :
    aliases (SqlType.mark schema name owner :: line) =
      ((SqlType.table name owner).foreignOwner? schema).toList ++ aliases line := by
  change List.filterMap Piece.via? (.reference (owner.filter (· != schema)) name :: line) =
    (owner.filter (· != schema)).toList ++ line.filterMap Piece.via?
  cases owner.filter (· != schema) <;> rfl

@[simp] theorem aliases_append (line rest : Line) :
    aliases (line ++ rest) = aliases line ++ aliases rest :=
  List.filterMap_append

@[simp] theorem aliases_optional (nullable : Bool) (hint : Line) :
    aliases (optionalLine nullable hint) = aliases hint := by
  cases nullable <;> simp [optionalLine]

@[simp] theorem aliases_unlessNone (nullable : Bool) (subject : String) (expression : Line) :
    aliases (unlessNoneLine nullable subject expression) = aliases expression := by
  cases nullable <;> simp [unlessNoneLine]

@[simp] theorem aliases_commaSeparated (items : List Line) :
    aliases (commaSeparatedLine items) = items.flatMap aliases := by
  fun_induction commaSeparatedLine items with
  | case1 => rfl
  | case2 item => simp
  | case3 item rest _ ih => simp [ih]

@[simp] theorem usedAliases_nil : usedAliases [] = [] := rfl

@[simp] theorem usedAliases_cons (line : Line) (lines : List Line) :
    usedAliases (line :: lines) = aliases line ++ usedAliases lines :=
  rfl

@[simp] theorem usedAliases_append (lines rest : List Line) :
    usedAliases (lines ++ rest) = usedAliases lines ++ usedAliases rest :=
  List.flatMap_append

@[simp] theorem usedAliases_plain (lines : List String) : usedAliases (plain lines) = [] := by
  simp [usedAliases, plain]

@[simp] theorem usedAliases_indent (level : Nat) (lines : List Line) :
    usedAliases (indentLines level lines) = usedAliases lines := by
  simp only [usedAliases, indentLines, List.flatMap_map]
  congr 1
  funext line
  split <;> simp

theorem usedAliases_flatMap {α : Type} (f : α → List Line) (xs : List α) :
    usedAliases (xs.flatMap f) = xs.flatMap fun x => usedAliases (f x) :=
  List.flatMap_assoc

end Render

@[simp] theorem SqlType.aliases_storage (t : SqlType) (schema : String) :
    aliases (t.storageLine schema) = (t.foreignOwner? schema).toList := by
  cases t <;> simp [storageLine, foreignOwner?]

@[simp] theorem SqlType.aliases_read (t : SqlType) (row : String) (index : Int) (schema : String) :
    aliases (t.readLine row index schema) = (t.foreignOwner? schema).toList := by
  cases t <;> simp [readLine, foreignOwner?]

namespace Attribute

/-- The schemas through which the types of attributes are reached. -/
def foreignOwners (attributes : List Attribute) (schema : String) : List String :=
  attributes.filterMap fun a => a.type.foreignOwner? schema

theorem mem_foreignOwners {attributes : List Attribute} {schema s : String} :
    s ∈ foreignOwners attributes schema ↔
      ∃ a ∈ attributes, a.type.foreignOwner? schema = some s :=
  List.mem_filterMap

@[simp] theorem aliases_field (a : Attribute) (schema : String) :
    aliases (a.fieldLine schema) = (a.type.foreignOwner? schema).toList := by
  simp [fieldLine]

@[simp] theorem aliases_typed (a : Attribute) (schema : String) :
    aliases (a.typedLine schema) = (a.type.foreignOwner? schema).toList := by
  simp [typedLine]

@[simp] theorem aliases_value (a : Attribute) (row : String) (index : Int) (schema : String) :
    aliases (a.valueLine row index schema) = (a.type.foreignOwner? schema).toList := by
  simp [valueLine]

@[simp] theorem aliases_bind (a : Attribute) (schema : String) :
    aliases (a.bindLine schema) = (a.type.foreignOwner? schema).toList := by
  unfold bindLine
  cases a.type <;> simp [SqlType.foreignOwner?]

@[simp] theorem aliases_afterSeparator (items : List Line) :
    aliases (afterSeparatorLine items) = items.flatMap aliases := by
  induction items with
  | nil => rfl
  | cons item items ih => simpa [afterSeparatorLine] using ih

theorem flatMap_aliases {line : Attribute → Line} {schema : String} (attributes : List Attribute)
    (each : ∀ a, aliases (line a) = (a.type.foreignOwner? schema).toList) :
    (attributes.map line).flatMap aliases = foreignOwners attributes schema := by
  simp [List.flatMap_map, each, foreignOwners, List.filterMap_eq_flatMap_toList]

theorem flatMap_aliases_valuesFrom (index : Nat) (row schema : String) (columns : List Attribute) :
    (valueLinesFrom index row schema columns).flatMap aliases = foreignOwners columns schema := by
  induction columns generalizing index with
  | nil => rfl
  | cons a rest ih =>
    simp [valueLinesFrom, ih, foreignOwners, List.filterMap_eq_flatMap_toList]

@[simp] theorem aliases_row (columns : List Attribute) (row schema : String) :
    aliases (rowLine columns row schema) = foreignOwners columns schema := by
  simp [rowLine, flatMap_aliases_valuesFrom]

end Attribute

theorem Attribute.usedAliases_fields (columns : List Attribute) (schema : String) :
    usedAliases (columns.map fun column => .text "    " :: column.fieldLine schema) =
      foreignOwners columns schema :=
  flatMap_aliases columns fun a => by simp

theorem TableType.mem_usedAliases {t : TableType} {s : String} :
    s ∈ usedAliases t.lines ↔ s ∈ Attribute.foreignOwners t.columns t.schema := by
  simp [lines, Attribute.usedAliases_fields]

namespace Command

/-- The schemas through which types are reached in the class of a command. -/
def foreignOwners (c : Command) : List String :=
  Attribute.foreignOwners c.parameters c.schema ++
    c.returns.types.filterMap (SqlType.foreignOwner? c.schema)

theorem mem_aliases_returned {c : Command} {s : String} :
    (s ∈ usedAliases c.headingLines ∨ s ∈ aliases c.returnLine ∨ s ∈ usedAliases c.resultLines) ↔
      s ∈ c.returns.types.filterMap (SqlType.foreignOwner? c.schema) := by
  unfold returnLine headingLines resultLines
  cases c.returns with
  | nothing => simp [Returns.types]
  | single type nullable => simp [Returns.types]
  | table columns =>
    simp [Returns.types, Attribute.usedAliases_fields, Attribute.mem_foreignOwners]

theorem aliases_signature (c : Command) :
    aliases c.signatureLine = Attribute.foreignOwners c.parameters c.schema := by
  have typed := Attribute.flatMap_aliases c.parameters (Attribute.aliases_typed · c.schema)
  unfold signatureLine
  split
  · simp_all [Attribute.foreignOwners]
  · simp [typed]

theorem aliases_send (c : Command) (query : String) :
    aliases (c.sendLine query) = Attribute.foreignOwners c.parameters c.schema := by
  have bound := Attribute.flatMap_aliases c.parameters (Attribute.aliases_bind · c.schema)
  simp [sendLine, bound]

theorem mem_usedAliases {c : Command} {lines : List Line} (h : c.lines = .ok lines) {s : String} :
    s ∈ usedAliases lines ↔ s ∈ c.foreignOwners := by
  obtain ⟨query, _, made⟩ := bind_eq_ok.mp h
  cases made
  rw [foreignOwners, List.mem_append, ← mem_aliases_returned]
  simp only [usedAliases_append, usedAliases_cons, usedAliases_nil, usedAliases_plain,
    usedAliases_indent, aliases_append, aliases_text, aliases_nil, aliases_signature, aliases_send,
    List.mem_append, List.not_mem_nil, false_or, or_false]
  tauto

theorem mem_usedAliases_blocks {commands : List Command} {blocks : List (List Line)}
    (h : commands.mapM lines = .ok blocks) {s : String} :
    (∃ block ∈ blocks, s ∈ usedAliases block) ↔ ∃ c ∈ commands, s ∈ c.foreignOwners := by
  have steps := mapM_eq_ok.mp h
  clear h
  induction steps with
  | nil => simp
  | cons made _ ih => simp only [List.mem_cons, exists_eq_or_imp, mem_usedAliases made, ih]

end Command

namespace Bundle

theorem mem_usedAliases_titled {heading s : String} {blocks : List (List Line)} :
    s ∈ usedAliases (titledLines heading blocks) ↔ ∃ block ∈ blocks, s ∈ usedAliases block := by
  unfold titledLines
  cases blocks with
  | nil => simp
  | cons block rest => simp [usedAliases_flatMap]

theorem mem_usedAliases_getters {s : String} {blocks : List (List Line)} :
    s ∈ usedAliases (getterLines blocks) ↔ ∃ block ∈ blocks, s ∈ usedAliases block := by
  unfold getterLines
  cases blocks with
  | nil => simp
  | cons block rest => simp [usedAliases_flatMap]

/-- The aliases that a module uses are those of the types in it, wherever they stand. -/
theorem mem_usedAliases {b : Bundle} {lines : List Line} (h : b.lines = .ok lines) {s : String} :
    s ∈ usedAliases lines ↔
      (∃ t ∈ b.tableTypes, s ∈ Attribute.foreignOwners t.columns t.schema) ∨
        ∃ c ∈ b.commands, s ∈ c.foreignOwners := by
  obtain ⟨procedures, hp, h⟩ := bind_eq_ok.mp h
  obtain ⟨functions, hf, h⟩ := bind_eq_ok.mp h
  obtain ⟨getters, hg, h⟩ := bind_eq_ok.mp h
  cases h
  simp only [usedAliases_append, usedAliases_plain, List.nil_append, List.mem_append,
    mem_usedAliases_titled, mem_usedAliases_getters, Command.mem_usedAliases_blocks hp,
    Command.mem_usedAliases_blocks hf, Command.mem_usedAliases_blocks hg, List.mem_map,
    exists_exists_and_eq_and, TableType.mem_usedAliases, commands, or_and_right, exists_or, or_assoc]

end Bundle

end SqlBindings
