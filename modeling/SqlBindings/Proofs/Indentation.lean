import Mathlib.Data.List.TakeWhile
import SqlBindings.Proofs.Attributes
import SqlBindings.Proofs.LineStarts
import SqlBindings.Proofs.StringLiterals

/-!
# Indentation

Python reads the structure of a program from how far its lines are indented.

* `WellIndented`: a line that ends in a colon is followed by a deeper one, and no other line is;
* `Suite`: statements at one depth, some of which open a block, as a grammar of lines;
* `Suite.indentBy`: lines of that grammar stay so if they are indented further;
* `Suite.wellIndented`: they are indented well;
* `render_wellIndented`: table types and commands are rendered as such lines.
-/

namespace SqlBindings

namespace Render

/-- The blanks a line begins with. -/
def margin (line : String) : Nat := (line.toList.takeWhile (· == ' ')).length

/-- The line ends in a colon, as the head of a block does. -/
def Opens (line : String) : Prop := line.toList.getLast? = some ':'

/-- The first line that is not empty. -/
def nextLine? (lines : List String) : Option String := lines.find? (· != "")

/-- What Python's rule says of a line and the lines after it. -/
structure Follows (line : String) (after : List String) : Prop where
  /-- Lines are indented in steps of four blanks. -/
  step : 4 ∣ margin line
  /-- The head of a block is followed by a line one step deeper. -/
  deeper : Opens line → ∃ next, nextLine? after = some next ∧ margin next = margin line + 4
  /-- No line stands deeper than the one before it otherwise. -/
  level : ¬ Opens line → ∀ next, nextLine? after = some next → margin next ≤ margin line

/-- Lines are indented as Python wants them. Empty lines do not count. -/
def WellIndented (lines : List String) : Prop :=
  ∀ before line after, lines = before ++ line :: after → line ≠ "" → Follows line after

section

variable {line : String} {xs ys lines : List String}

theorem nextLine?_append : nextLine? (xs ++ ys) = (nextLine? xs).or (nextLine? ys) :=
  List.find?_append

theorem nextLine?_cons (nonempty : line ≠ "") : nextLine? (line :: xs) = some line := by
  simp [nextLine?, nonempty]

theorem nextLine?_blank : nextLine? ("" :: xs) = nextLine? xs := by
  simp [nextLine?]

theorem mem_of_nextLine? {next : String} (h : nextLine? lines = some next) :
    next ∈ lines ∧ next ≠ "" :=
  ⟨List.mem_of_find?_eq_some h, by simpa using List.find?_some h⟩

theorem wellIndented_nil : WellIndented [] := by
  intro before line after none
  simp at none

theorem wellIndented_cons :
    WellIndented (line :: lines) ↔ (line ≠ "" → Follows line lines) ∧ WellIndented lines := by
  constructor
  · intro h
    exact ⟨h [] line lines rfl, fun before other after split => h (line :: before) other after (by
      rw [split, List.cons_append])⟩
  · rintro ⟨first, others⟩ before other after split
    cases before with
    | nil =>
      obtain ⟨rfl, rfl⟩ := List.cons.inj split
      exact first
    | cons head before =>
      obtain ⟨rfl, rest⟩ := List.cons.inj split
      exact others before other after rest

/-- Lines may follow others if they do not begin deeper than any of them. -/
theorem WellIndented.append (hx : WellIndented xs) (hy : WellIndented ys)
    (back : ∀ next, nextLine? ys = some next → ∀ line ∈ xs, line ≠ "" → margin next ≤ margin line) :
    WellIndented (xs ++ ys) := by
  induction xs with
  | nil => exact hy
  | cons line xs ih =>
    obtain ⟨first, others⟩ := wellIndented_cons.mp hx
    have rest : WellIndented (xs ++ ys) :=
      ih others fun next h other mem => back next h other (List.mem_cons_of_mem _ mem)
    refine wellIndented_cons.mpr ⟨fun nonempty => ?_, rest⟩
    obtain ⟨step, deeper, level⟩ := first nonempty
    have following : nextLine? (xs ++ ys) = (nextLine? xs).or (nextLine? ys) := nextLine?_append
    refine ⟨step, fun opens => ?_, fun plain next h => ?_⟩
    · obtain ⟨next, h, deep⟩ := deeper opens
      exact ⟨next, following.trans (by rw [h, Option.some_or]), deep⟩
    · replace h := following.symm.trans h
      cases here : nextLine? xs with
      | some inside =>
        rw [here, Option.some_or] at h
        exact level plain next (here.trans h)
      | none =>
        rw [here, Option.none_or] at h
        exact back next h line List.mem_cons_self nonempty

end

/-! ### Suites -/

/-- The line stands at a depth, and it is not made of blanks only. -/
structure StandsAt (depth : Nat) (line : String) : Prop where
  margin_eq : margin line = 4 * depth
  visible : ∃ c ∈ line.toList, c ≠ ' '

/-- The line opens no block. -/
structure IsStatement (depth : Nat) (line : String) : Prop where
  stands : StandsAt depth line
  plain : ¬ Opens line

/-- The line opens a block. -/
structure IsHead (depth : Nat) (line : String) : Prop where
  stands : StandsAt depth line
  opens : Opens line

/-- Statements at one depth. -/
inductive Suite : Nat → List String → Prop
  | nil {depth : Nat} : Suite depth []
  | blank {depth : Nat} {lines : List String} (rest : Suite depth lines) : Suite depth ("" :: lines)
  | statement {depth : Nat} {line : String} {lines : List String} (here : IsStatement depth line)
      (rest : Suite depth lines) : Suite depth (line :: lines)
  /-- A block has a head and at least one statement. -/
  | block {depth : Nat} {line : String} {body lines : List String} (head : IsHead depth line)
      (inner : Suite (depth + 1) body) (nonempty : nextLine? body ≠ none)
      (rest : Suite depth lines) : Suite depth (line :: (body ++ lines))

section

variable {depth : Nat} {line : String} {xs ys lines : List String}

theorem StandsAt.ne_empty (h : StandsAt depth line) : line ≠ "" := by
  rintro rfl
  obtain ⟨c, mem, _⟩ := h.visible
  cases mem

theorem Suite.append (hx : Suite depth xs) (hy : Suite depth ys) : Suite depth (xs ++ ys) := by
  induction hx with
  | nil => exact hy
  | blank _ ih => exact .blank (ih hy)
  | statement here _ ih => exact .statement here (ih hy)
  | block head inner nonempty _ _ ih =>
    rw [List.cons_append, List.append_assoc]
    exact .block head inner nonempty (ih hy)

theorem suite_map {α : Type} {f : α → String} {items : List α}
    (each : ∀ a ∈ items, IsStatement depth (f a)) : Suite depth (items.map f) := by
  induction items with
  | nil => exact .nil
  | cons a items ih =>
    obtain ⟨here, others⟩ := List.forall_mem_cons.mp each
    exact .statement here (ih others)

theorem suite_flatMap {α : Type} {f : α → List String} {items : List α}
    (each : ∀ a ∈ items, Suite depth (f a)) : Suite depth (items.flatMap f) := by
  induction items with
  | nil => exact .nil
  | cons a items ih =>
    obtain ⟨here, others⟩ := List.forall_mem_cons.mp each
    exact here.append (ih others)

theorem nextLine?_ne_none (nonempty : line ≠ "") (mem : line ∈ lines) : nextLine? lines ≠ none := by
  rw [ne_eq, nextLine?, List.find?_eq_none]
  intro none
  have empty := none line mem
  simp [nonempty] at empty

/-- A block of a single statement. -/
theorem Suite.over {head : String} (isHead : IsHead depth head) (only : IsStatement (depth + 1) line)
    (rest : Suite depth lines) : Suite depth (head :: line :: lines) :=
  have body : Suite (depth + 1) [line] := .statement only .nil
  .block isHead body (nextLine?_ne_none only.stands.ne_empty List.mem_cons_self) rest

/-- A block that ends with the lines. -/
theorem Suite.last (head : IsHead depth line) (inner : Suite (depth + 1) lines)
    (nonempty : nextLine? lines ≠ none) : Suite depth (line :: lines) := by
  rw [← List.append_nil lines]
  exact .block head inner nonempty .nil

/-- A block that begins with a statement and ends with the lines. -/
theorem Suite.under {head : String} (isHead : IsHead depth head)
    (first : IsStatement (depth + 1) line) (inner : Suite (depth + 1) lines) :
    Suite depth (head :: line :: lines) :=
  .last isHead (.statement first inner)
    (nextLine?_ne_none first.stands.ne_empty List.mem_cons_self)

theorem Suite.margin_le (h : Suite depth lines) :
    ∀ line ∈ lines, line ≠ "" → 4 * depth ≤ margin line := by
  induction h with
  | nil => exact fun _ mem => absurd mem List.not_mem_nil
  | blank _ ih => exact List.forall_mem_cons.mpr ⟨fun nonempty => absurd rfl nonempty, ih⟩
  | statement here _ ih =>
    exact List.forall_mem_cons.mpr ⟨fun _ => Nat.le_of_eq here.stands.margin_eq.symm, ih⟩
  | block head _ _ _ inside ih =>
    refine List.forall_mem_cons.mpr ⟨fun _ => Nat.le_of_eq head.stands.margin_eq.symm, ?_⟩
    refine List.forall_mem_append.mpr ⟨fun line mem nonempty => ?_, ih⟩
    have deep := inside line mem nonempty
    omega

theorem Suite.margin_nextLine? (h : Suite depth lines) {next : String}
    (first : nextLine? lines = some next) : margin next = 4 * depth := by
  induction h with
  | nil => cases first
  | blank _ ih => exact ih (nextLine?_blank ▸ first)
  | statement here _ _ =>
    rw [nextLine?_cons here.stands.ne_empty] at first
    cases first
    exact here.stands.margin_eq
  | block head _ _ _ _ _ =>
    rw [nextLine?_cons head.stands.ne_empty] at first
    cases first
    exact head.stands.margin_eq

/-- Lines that are made of statements and blocks are indented well. -/
theorem Suite.wellIndented (h : Suite depth lines) : WellIndented lines := by
  induction h with
  | nil => exact wellIndented_nil
  | blank _ ih => exact wellIndented_cons.mpr ⟨fun nonempty => absurd rfl nonempty, ih⟩
  | statement here rest ih =>
    refine wellIndented_cons.mpr ⟨fun _ => ?_, ih⟩
    refine ⟨⟨_, here.stands.margin_eq⟩, fun opens => absurd opens here.plain, fun _ next first => ?_⟩
    exact Nat.le_of_eq ((rest.margin_nextLine? first).trans here.stands.margin_eq.symm)
  | block head inner nonempty rest inside ih =>
    have whole := inside.append ih fun next first line mem visible => by
      have deep := inner.margin_le line mem visible
      rw [rest.margin_nextLine? first]
      omega
    refine wellIndented_cons.mpr ⟨fun _ => ?_, whole⟩
    refine ⟨⟨_, head.stands.margin_eq⟩, fun _ => ?_, fun plain => absurd head.opens plain⟩
    obtain ⟨next, first⟩ := Option.ne_none_iff_exists'.mp nonempty
    refine ⟨next, by rw [nextLine?_append, first, Option.some_or], ?_⟩
    rw [inner.margin_nextLine? first, head.stands.margin_eq]
    omega

/-! ### Indenting a suite -/

theorem StandsAt.indent (h : StandsAt depth line) : StandsAt (depth + 1) (indentStep ++ line) := by
  have blanks : indentStep.toList = [' ', ' ', ' ', ' '] := by decide
  obtain ⟨c, mem, visible⟩ := h.visible
  have before := h.margin_eq
  refine ⟨?_, c, by rw [String.toList_append]; exact List.mem_append_right _ mem, visible⟩
  rw [margin] at before ⊢
  rw [String.toList_append, blanks]
  simp only [List.cons_append, List.nil_append, beq_self_eq_true, List.takeWhile_cons_of_pos,
    List.length_cons, before]
  omega

theorem opens_append {start : String} (nonempty : line ≠ "") :
    Opens (start ++ line) ↔ Opens line := by
  rw [Opens, Opens, String.toList_append, List.getLast?_append_of_ne_nil]
  exact fun empty => nonempty (String.toList_eq_nil_iff.mp empty)

theorem IsStatement.indent (h : IsStatement depth line) :
    IsStatement (depth + 1) (indentStep ++ line) :=
  ⟨h.stands.indent, mt (opens_append h.stands.ne_empty).mp h.plain⟩

theorem IsHead.indent (h : IsHead depth line) : IsHead (depth + 1) (indentStep ++ line) :=
  ⟨h.stands.indent, (opens_append h.stands.ne_empty).mpr h.opens⟩

theorem indentBy_zero (lines : List String) : indentBy 0 lines = lines := by
  simp [indentBy]

theorem indentBy_succ (level : Nat) (lines : List String) :
    indentBy (level + 1) lines = indentBy 1 (indentBy level lines) := by
  simp only [indentBy, List.map_map]
  refine List.map_congr_left fun line _ => ?_
  by_cases empty : line = ""
  · simp [empty]
  · simp [empty, List.replicate_succ, String.append_assoc]

theorem indentBy_cons (nonempty : line ≠ "") (lines : List String) :
    indentBy 1 (line :: lines) = (indentStep ++ line) :: indentBy 1 lines := by
  simp [indentBy, nonempty]

theorem indentBy_append (level : Nat) (xs ys : List String) :
    indentBy level (xs ++ ys) = indentBy level xs ++ indentBy level ys :=
  List.map_append

theorem nextLine?_indentBy (level : Nat) (h : nextLine? lines ≠ none) :
    nextLine? (indentBy level lines) ≠ none := by
  obtain ⟨next, first⟩ := Option.ne_none_iff_exists'.mp h
  obtain ⟨mem, nonempty⟩ := mem_of_nextLine? first
  have here : String.join (List.replicate level indentStep) ++ next ∈ indentBy level lines :=
    List.mem_map.mpr ⟨next, mem, by simp [nonempty]⟩
  exact nextLine?_ne_none (by simp [nonempty]) here

theorem Suite.indent (h : Suite depth lines) : Suite (depth + 1) (indentBy 1 lines) := by
  induction h with
  | nil => exact .nil
  | blank _ ih => exact .blank ih
  | statement here _ ih =>
    rw [indentBy_cons here.stands.ne_empty]
    exact .statement here.indent ih
  | block head _ nonempty _ inside ih =>
    rw [indentBy_cons head.stands.ne_empty, indentBy_append]
    exact .block head.indent inside (nextLine?_indentBy 1 nonempty) ih

/-- A suite that is indented further is a suite at a greater depth. -/
theorem Suite.indentBy (level : Nat) (h : Suite depth lines) :
    Suite (depth + level) (indentBy level lines) := by
  induction level with
  | zero => rwa [indentBy_zero]
  | succ level ih =>
    rw [indentBy_succ]
    exact ih.indent

/-! ### How lines begin and end -/

/-- The characters begin like a line at a depth. -/
abbrev BeginsAt (depth : Nat) (cs : List Char) : Prop :=
  (cs.takeWhile (· == ' ')).length = 4 * depth ∧ cs.any (· != ' ') = true

theorem standsAt_ofList {cs : List Char} (h : BeginsAt depth cs) :
    StandsAt depth (String.ofList cs) := by
  constructor
  · rw [margin, String.toList_ofList]
    exact h.1
  · obtain ⟨c, mem, visible⟩ := List.any_eq_true.mp h.2
    exact ⟨c, by rwa [String.toList_ofList], by simpa using visible⟩

/-- The first character that is not a blank says at which depth a line stands. -/
theorem StandsAt.append {start : String} (h : StandsAt depth start) (rest : String) :
    StandsAt depth (start ++ rest) := by
  obtain ⟨c, mem, visible⟩ := h.visible
  have some : ¬ ∀ c ∈ start.toList, (c == ' ') = true := fun all =>
    visible (eq_of_beq (all c mem))
  refine ⟨?_, c, by rw [String.toList_append]; exact List.mem_append_left _ mem, visible⟩
  rw [margin, String.toList_append, List.takeWhile_append, if_neg]
  · exact h.margin_eq
  · intro whole
    exact some (List.takeWhile_eq_self_iff.mp ((List.takeWhile_prefix _).eq_of_length whole))

/-- The text ends in a character that is not a colon. -/
def EndsPlain (text : String) : Prop := text.toList.getLast?.any (· != ':') = true

theorem endsPlain_ofList {cs : List Char} (h : cs.getLast?.any (· != ':') = true) :
    EndsPlain (String.ofList cs) := by
  rwa [EndsPlain, String.toList_ofList]

theorem EndsPlain.append {text : String} (h : EndsPlain text) (start : String) :
    EndsPlain (start ++ text) := by
  rw [EndsPlain, String.toList_append, List.getLast?_append]
  rw [EndsPlain] at h
  cases last : text.toList.getLast? with
  | none =>
    rw [last] at h
    cases h
  | some c => rwa [last] at h

theorem EndsPlain.not_opens {text : String} (h : EndsPlain text) : ¬ Opens text := by
  intro opens
  rw [EndsPlain, opens] at h
  cases h

/-! Lines that are put together, from how they begin and how they end -/

theorem isStatement_append {start text : String} (stands : StandsAt depth start)
    (h : EndsPlain text) : IsStatement depth (start ++ text) :=
  ⟨stands.append text, (h.append start).not_opens⟩

theorem isStatement_ofList {cs : List Char}
    (h : BeginsAt depth cs ∧ cs.getLast?.any (· != ':') = true) :
    IsStatement depth (String.ofList cs) :=
  ⟨standsAt_ofList h.1, (endsPlain_ofList h.2).not_opens⟩

theorem isHead_ofList {cs : List Char}
    (h : BeginsAt depth cs ∧ cs.getLast? = some ':') : IsHead depth (String.ofList cs) := by
  refine ⟨standsAt_ofList h.1, ?_⟩
  rw [Opens, String.toList_ofList]
  exact h.2

theorem isHead_append {start : String} {cs : List Char} (stands : StandsAt depth start)
    (h : cs.getLast? = some ':') : IsHead depth (start ++ String.ofList cs) := by
  refine ⟨stands.append _, ?_⟩
  rw [Opens, String.toList_append, String.toList_ofList, List.getLast?_append, h, Option.some_or]

/-- Whatever stands between them, the first and the last part of a line say what it is. -/
theorem isStatement_filled {cs ds : List Char}
    (h : BeginsAt depth cs ∧ ds.getLast?.any (· != ':') = true) (filling : String) :
    IsStatement depth (String.ofList cs ++ filling ++ String.ofList ds) :=
  isStatement_append ((standsAt_ofList h.1).append filling) (endsPlain_ofList h.2)

theorem isHead_filled {cs ds : List Char}
    (h : BeginsAt depth cs ∧ ds.getLast? = some ':') (filling : String) :
    IsHead depth (String.ofList cs ++ filling ++ String.ofList ds) :=
  isHead_append ((standsAt_ofList h.1).append filling) h.2

end

end Render

open Render

/-! ### What stands at the end of a line -/

theorem Text.endsPlain_quote (s : String) : EndsPlain (Text.quote s) := by
  rw [quote, EndsPlain, String.toList_ofList, quoteChars, List.getLast?_concat]
  rcases delimiterOf_eq s.toList with single | double
  · rw [single]
    rfl
  · rw [double]
    rfl

theorem Scalar.endsPlain_storage (kind : Scalar) : EndsPlain kind.storage := by
  cases kind <;> rw [storage] <;> with_reducible exact endsPlain_ofList (by decide)

theorem SqlType.endsPlain_storage (type : SqlType) (schema : Option String) :
    EndsPlain (type.storage schema) := by
  cases type with
  | scalar kind _ => exact kind.endsPlain_storage
  | table name owner =>
    rw [storage]
    with_reducible exact (endsPlain_ofList (by decide)).append _

theorem Render.endsPlain_optional {hint : String} (nullable : Bool) (h : EndsPlain hint) :
    EndsPlain (optional nullable hint) := by
  unfold optional
  split
  · with_reducible exact (endsPlain_ofList (by decide)).append _
  · exact h

theorem Render.endsPlain_unlessNone {subject expression : String} (nullable : Bool)
    (h : EndsPlain expression) : EndsPlain (unlessNone nullable subject expression) := by
  unfold unlessNone
  split
  · with_reducible exact (endsPlain_ofList (by decide)).append _
  · exact h

/-- What is read is put in parentheses, or it is the cell itself. -/
theorem SqlType.endsPlain_readAccessor (type : SqlType) (row : String) (index : Int)
    (schema : Option String) : EndsPlain (type.readAccessor row index schema) := by
  have cell : EndsPlain (row ++ "[" ++ toString index ++ "]") := by
    with_reducible exact (endsPlain_ofList (by decide)).append _
  have one : EndsPlain ")" := by with_reducible exact endsPlain_ofList (by decide)
  have two : EndsPlain "))" := by with_reducible exact endsPlain_ofList (by decide)
  cases type with
  | scalar kind _ =>
    rw [readAccessor]
    cases kind with
    | dateTime => exact cell
    | guid => exact two.append _
    | _ => exact one.append _
  | table name owner => exact one.append _

theorem Render.standsAt_of_isIdentifier {name : String} (h : Text.isIdentifier name = true) :
    StandsAt 0 name := by
  have noBlank : ' ' ∉ name.toList := not_mem_of_isIdentifier h (by decide) (by decide)
  rw [Text.isIdentifier] at h
  cases chars : name.toList with
  | nil =>
    rw [chars] at h
    cases h
  | cons c cs =>
    have visible : c ≠ ' ' := fun same => noBlank (by rw [chars, same]; exact List.mem_cons_self)
    refine ⟨?_, c, by rw [chars]; exact List.mem_cons_self, visible⟩
    rw [margin, chars, List.takeWhile_cons_of_neg (by simpa using visible)]
    rfl

/-- A field of a class. Its name begins the line and its type ends it. -/
theorem Attribute.suite_fields {columns : List Attribute} (derived : ∀ a ∈ columns, a.IsDerived)
    (schema : Option String) :
    Suite 1 (columns.map fun column => "    " ++ column.field schema) := by
  refine suite_map fun a mem => ?_
  obtain ⟨sqlName, identifier, name, -⟩ := derived a mem
  have stands : StandsAt 0 a.name :=
    standsAt_of_isIdentifier (name ▸ Name.isIdentifier_escape identifier)
  have ends : EndsPlain (a.typeHint schema) :=
    Render.endsPlain_optional _ (a.type.endsPlain_storage _)
  exact (isStatement_append (stands.append _) ends).indent

/-! ### Table types -/

namespace TableType

variable (tuples row items : String)

theorem suite_fromRows : Suite 1
    ["    @classmethod",
      "    def from_rows(cls, rows) -> " ++ tuples ++ ":",
      "        return tuple(" ++ row ++ " for row in rows)"] := by
  with_reducible
    refine .statement (isStatement_ofList (by decide)) (.over ?_ ?_ .nil)
    · exact isHead_filled (by decide) _
    · exact isStatement_filled (by decide) _

theorem suite_fromCursor : Suite 1
    ["    @classmethod",
      "    async def from_cursor(cls, cursor) -> " ++ tuples ++ ":",
      "        values = []",
      "        while True:",
      "            row = await cursor.fetchone()",
      "            if row is None:",
      "                break",
      "            values.append(" ++ row ++ ")",
      "        return tuple(values)"] := by
  have head : IsHead 1 ("    async def from_cursor(cls, cursor) -> " ++ tuples ++ ":") := by
    with_reducible exact isHead_filled (by decide) _
  have add : IsStatement 3 ("            values.append(" ++ row ++ ")") := by
    with_reducible exact isStatement_filled (by decide) _
  have loop : Suite 2 ["        while True:", "            row = await cursor.fetchone()",
      "            if row is None:", "                break",
      "            values.append(" ++ row ++ ")"] := by
    with_reducible
      refine .under (isHead_ofList (by decide)) (isStatement_ofList (by decide)) ?_
      exact .over (isHead_ofList (by decide)) (isStatement_ofList (by decide)) (.statement add .nil)
  have last : Suite 2 ["        return tuple(values)"] := by
    with_reducible exact .statement (isStatement_ofList (by decide)) .nil
  have first : IsStatement 1 "    @classmethod" := by
    with_reducible exact isStatement_ofList (by decide)
  have second : IsStatement 2 "        values = []" := by
    with_reducible exact isStatement_ofList (by decide)
  exact .statement first (.under head second (loop.append last))

theorem suite_toRows : Suite 1
    ["    @staticmethod",
      "    def to_rows(values: " ++ tuples ++ ") -> List[tuple]:",
      "        return [" ++ items ++ " for value in values]"] := by
  with_reducible
    refine .statement (isStatement_ofList (by decide)) (.over ?_ ?_ .nil)
    · exact isHead_filled (by decide) _
    · exact isStatement_filled (by decide) _

theorem suite_toParameter : Suite 1
    ["    @classmethod",
      "    def to_parameter(cls, values: " ++ tuples ++ ") -> list:",
      "        return [cls.TYPE_NAME, cls.SCHEMA_NAME, *cls.to_rows(values)]"] := by
  with_reducible
    refine .statement (isStatement_ofList (by decide)) (.over ?_ ?_ .nil)
    · exact isHead_filled (by decide) _
    · exact isStatement_ofList (by decide)

theorem suite_render {t : TableType} (derived : ∀ a ∈ t.columns, a.IsDerived) :
    Suite 0 t.render := by
  let tuples := "Tuple[" ++ t.name ++ ", ...]"
  let row := Attribute.readRow t.columns "row" (some t.schema)
  let items := Render.tuple (t.columns.map fun column => "value." ++ column.name)
  have schemaName : Suite 1 ["    SCHEMA_NAME = " ++ Text.quote t.schema, ""] := by
    with_reducible
      exact .statement (isStatement_append (standsAt_ofList (by decide)) (Text.endsPlain_quote _))
        (.blank .nil)
  have fields := Attribute.suite_fields derived (some t.schema)
  have methods := (suite_fromRows tuples row).append (.blank ((suite_fromCursor tuples row).append
    (.blank ((suite_toRows tuples items).append (.blank (suite_toParameter tuples))))))
  have body := (schemaName.append fields).append (.blank methods)
  have decorator : IsStatement 0 "@dataclass(frozen=True)" := by
    with_reducible exact isStatement_ofList (by decide)
  have head : IsHead 0 ("class " ++ t.name ++ ":") := by
    with_reducible exact isHead_filled (by decide) _
  have typeName : IsStatement 1 ("    TYPE_NAME = " ++ Text.quote t.name) := by
    with_reducible exact isStatement_append (standsAt_ofList (by decide)) (Text.endsPlain_quote _)
  exact .statement decorator (.under head typeName body)

end TableType

/-! ### Commands -/

namespace Command

variable (c : Command)

theorem suite_bindTypes : Suite 0 c.bindTypes := by
  unfold bindTypes
  split
  · exact .nil
  · with_reducible exact .statement (isStatement_filled (by decide) _) .nil

theorem suite_readResult : Suite 0 c.readResult := by
  unfold readResult
  cases c.returns with
  | nothing => exact .nil
  | single type nullable =>
    have fetch : IsStatement 0 "row = await cursor.fetchone()" := by
      with_reducible exact isStatement_ofList (by decide)
    have test : IsHead 0 "if row is None:" := by
      with_reducible exact isHead_ofList (by decide)
    have complain : IsStatement 1 ("    raise NoRowReturnedError(" ++
        Text.quote (c.qualifiedName ++ " returned no row") ++ ")") := by
      with_reducible exact isStatement_filled (by decide) _
    have value : IsStatement 0 ("return " ++ unlessNone nullable "row[0]"
        (type.readAccessor "row" 0 (some c.schema))) := by
      refine isStatement_append ?_ (endsPlain_unlessNone _ (type.endsPlain_readAccessor _ _ _))
      with_reducible exact standsAt_ofList (by decide)
    exact .statement fetch (.over test complain (.statement value .nil))
  | table columns =>
    with_reducible
      exact .statement (isStatement_ofList (by decide))
        (.statement (isStatement_filled (by decide) _) .nil)

theorem suite_executeBody (query : String) : Suite 0 (c.executeBody query) := by
  have enlist : Suite 0 ["if db.transaction is not None:", "    db.transaction.enlist(cursor)"] := by
    with_reducible
      exact .over (isHead_ofList (by decide)) (isStatement_ofList (by decide)) .nil
  have send : IsStatement 0 (c.sendText query) := by
    unfold sendText
    with_reducible
      refine isStatement_append ?_ (endsPlain_ofList (by decide))
      exact ((standsAt_ofList (by decide)).append _).append _
  exact ((enlist.append c.suite_bindTypes).append (.statement send .nil)).append c.suite_readResult

/-- The method of the class, whose body is never empty. -/
theorem suite_execute (query : String) :
    Suite 1 (c.executeHead ++ indentBy 3 (c.executeBody query)) := by
  have decorator : IsStatement 1 "    @classmethod" := by
    with_reducible exact isStatement_ofList (by decide)
  have head : IsHead 1
      ("    async def execute(" ++ c.signature ++ ") -> " ++ c.returnHint ++ ":") := by
    with_reducible
      refine isHead_append ?_ (by decide)
      exact (((standsAt_ofList (by decide)).append _).append _).append _
  have docstring : IsStatement 2 ("        \"\"\"Execute " ++
      (if c.qualifiedName = "" then c.name else c.qualifiedName) ++ ".\"\"\"") := by
    with_reducible exact isStatement_filled (by decide) _
  have cursor : IsHead 2 "        async with db.connection.cursor() as cursor:" := by
    with_reducible exact isHead_ofList (by decide)
  have statements : Suite 3 (indentBy 3 (c.executeBody query)) :=
    (c.suite_executeBody query).indentBy 3
  have nonempty : nextLine? (indentBy 3 (c.executeBody query)) ≠ none := nextLine?_indentBy 3 nofun
  exact .statement decorator (.under head docstring (.last cursor statements nonempty))

/-- The columns of the result have names that come from SQL. -/
def HasDerivedColumns : Prop := ∀ columns, c.returns = .table columns → ∀ a ∈ columns, a.IsDerived

theorem suite_heading_append (derived : c.HasDerivedColumns) {method : List String}
    (execute : Suite 1 method) (nonempty : nextLine? method ≠ none) :
    Suite 0 (c.heading ++ method) := by
  have head : IsHead 0 ("class " ++ c.name ++ ":") := by
    with_reducible exact isHead_filled (by decide) _
  unfold heading
  cases returns : c.returns with
  | nothing => exact .last head execute nonempty
  | single type nullable => exact .last head execute nonempty
  | table columns =>
    have decorator : IsStatement 0 "@dataclass(frozen=True)" := by
      with_reducible exact isStatement_ofList (by decide)
    have fields := Attribute.suite_fields (derived columns returns) (some c.schema)
    have body := fields.append (.blank execute)
    have somewhere : nextLine? (columns.map (fun column => "    " ++ column.field (some c.schema)) ++
        "" :: method) ≠ none := by
      rw [nextLine?_append, nextLine?_blank]
      exact fun none => nonempty (Option.or_eq_none_iff.mp none).2
    simp only [List.append_assoc]
    exact .statement decorator (.last head body somewhere)

theorem suite_render {lines : List String} (derived : c.HasDerivedColumns)
    (rendered : c.render = .ok lines) : Suite 0 lines := by
  obtain ⟨query, -, rfl⟩ := render_eq_ok.mp rendered
  rw [List.append_assoc]
  exact c.suite_heading_append derived (c.suite_execute query) nofun

end Command

/-! ### The sections of a module -/

theorem Render.suite_title {text : String} (ends : EndsPlain text) : Suite 0 (title text) := by
  have stands : StandsAt 0 "# " := by with_reducible exact standsAt_ofList (by decide)
  have rule : IsStatement 0 ("# " ++ String.ofList (List.replicate text.length '-')) := by
    cases length : text.length with
    | zero =>
      rw [← String.length_toList, List.length_eq_zero_iff] at length
      rw [EndsPlain, length] at ends
      cases ends
    | succ n =>
      refine isStatement_append stands (endsPlain_ofList ?_)
      rw [List.getLast?_replicate]
      rfl
  exact .statement rule (.statement (isStatement_append stands ends) (.statement rule .nil))

namespace Bundle

theorem suite_titled {heading : String} (ends : EndsPlain heading) {blocks : List (List String)}
    (each : ∀ block ∈ blocks, Suite 0 block) : Suite 0 (titled heading blocks) := by
  unfold titled
  split
  · exact .nil
  · have all : Suite 0 (blocks.flatMap fun block => ["", ""] ++ block) :=
      suite_flatMap fun block mem => .blank (.blank (each block mem))
    exact (Suite.blank (.blank (suite_title ends))).append all

theorem suite_getterSection {blocks : List (List String)} (each : ∀ block ∈ blocks, Suite 0 block) :
    Suite 0 (getterSection blocks) := by
  have ends : EndsPlain "Table Getters" := by with_reducible exact endsPlain_ofList (by decide)
  have head : IsHead 0 "class TableGetters:" := by with_reducible exact isHead_ofList (by decide)
  have docstring : IsStatement 1
      "    \"\"\"Getters returning every row of a base table.\"\"\"" := by
    with_reducible exact isStatement_ofList (by decide)
  have getters : Suite 1 (blocks.flatMap fun block => "" :: indentBy 1 block) :=
    suite_flatMap fun block mem => .blank (each block mem).indent
  unfold getterSection
  split
  · exact .nil
  · have group : Suite 0 (["", "", "class TableGetters:",
        "    \"\"\"Getters returning every row of a base table.\"\"\""] ++
          blocks.flatMap fun block => "" :: indentBy 1 block) :=
      .blank (.blank (.under head docstring getters))
    rw [List.append_assoc]
    exact (Suite.blank (.blank (suite_title ends))).append group

/-- The classes of a module, with the headings above them. -/
theorem suite_sections {b : Bundle} {lines : List String}
    (types : ∀ t ∈ b.tableTypes, ∀ a ∈ t.columns, a.IsDerived)
    (commands : ∀ c ∈ b.commands, c.HasDerivedColumns) (rendered : b.render = .ok lines) :
    ∃ sections, lines = b.opening ++ sections ∧ Suite 0 sections := by
  obtain ⟨procedures, functions, getters, hp, hf, hg, rfl⟩ := render_eq_ok.mp rendered
  have suites {cs : List Command} (among : cs ⊆ b.commands) {blocks : List (List String)}
      (made : cs.mapM Command.render = .ok blocks) : ∀ block ∈ blocks, Suite 0 block := by
    intro block mem
    obtain ⟨c, hc, rendered⟩ := exists_of_mem_mapM made mem
    exact c.suite_render (commands c (among hc)) rendered
  have classes : ∀ block ∈ b.tableTypes.map TableType.render, Suite 0 block :=
    List.forall_mem_map.mpr fun t mem => TableType.suite_render (types t mem)
  have first : EndsPlain "User-Defined Table Types" := by
    with_reducible exact endsPlain_ofList (by decide)
  have second : EndsPlain "Stored Procedures" := by
    with_reducible exact endsPlain_ofList (by decide)
  have third : EndsPlain "User Defined Functions" := by
    with_reducible exact endsPlain_ofList (by decide)
  have sections := (suite_titled first classes).append
    ((suite_titled second (suites (by simp [Bundle.commands]) hp)).append
      ((suite_titled third (suites (by simp [Bundle.commands]) hf)).append
        (suite_getterSection (suites (by simp [Bundle.commands]) hg))))
  exact ⟨_, by simp only [List.append_assoc], sections⟩

end Bundle

/-- Whatever is rendered, how far its lines are indented agrees with the colons at their ends: for a
table type and a command, on their own and nested in a class, and for all classes of a module. -/
theorem render_wellIndented :
    (∀ t : TableType, (∀ a ∈ t.columns, a.IsDerived) →
      WellIndented t.render ∧ WellIndented (indentBy 1 t.render)) ∧
    (∀ (c : Command) (lines : List String), c.HasDerivedColumns → c.render = .ok lines →
      WellIndented lines ∧ WellIndented (indentBy 1 lines)) ∧
    ∀ (b : Bundle) (lines : List String), (∀ t ∈ b.tableTypes, ∀ a ∈ t.columns, a.IsDerived) →
      (∀ c ∈ b.commands, c.HasDerivedColumns) → b.render = .ok lines →
        ∃ sections, lines = b.opening ++ sections ∧ WellIndented sections := by
  refine ⟨fun t derived => ?_, fun c lines derived rendered => ?_,
    fun b lines types commands rendered => ?_⟩
  · have suite := TableType.suite_render derived
    exact ⟨suite.wellIndented, suite.indent.wellIndented⟩
  · have suite := c.suite_render derived rendered
    exact ⟨suite.wellIndented, suite.indent.wellIndented⟩
  · obtain ⟨sections, split, suite⟩ := Bundle.suite_sections types commands rendered
    exact ⟨sections, split, suite.wellIndented⟩

def sender : Attribute := ⟨"from_", .plain .int32, true, "@from"⟩

def mailIds : TableType := ⟨"mail:", "Ids", [sender]⟩

def allMail : Command := ⟨"mail:", "Mail", "[mail:].[Mail]", [], .table [sender], .tableGetter⟩

/-- A bundle of a schema whose name ends like the head of a block. -/
def mail : Bundle :=
  ⟨"mail:", [mailIds], [⟨"mail:", "Sort", "[mail:].[Sort]", [], .nothing, .storedProcedure⟩], [],
    [allMail]⟩

theorem render_wellIndented_mail :
    (WellIndented mailIds.render ∧ WellIndented (indentBy 1 mailIds.render)) ∧
    (∃ lines, allMail.render = .ok lines ∧
      WellIndented lines ∧ WellIndented (indentBy 1 lines)) ∧
    ∃ lines, mail.render = .ok lines ∧
      ∃ sections, lines = mail.opening ++ sections ∧ WellIndented sections := by
  have derived : sender.IsDerived := ⟨"from", by decide +kernel, by decide +kernel, rfl⟩
  have columns : ∀ a ∈ [sender], a.IsDerived := List.forall_mem_singleton.mpr derived
  have getter : allMail.HasDerivedColumns := by
    rintro _ same
    cases same
    exact columns
  have commands : ∀ c ∈ mail.commands, c.HasDerivedColumns := by
    refine List.forall_mem_cons.mpr ⟨fun _ none => ?_, List.forall_mem_singleton.mpr getter⟩
    cases none
  exact ⟨render_wellIndented.1 mailIds columns,
    ⟨_, rfl, render_wellIndented.2.1 allMail _ getter rfl⟩,
    _, rfl, render_wellIndented.2.2 mail _ (List.forall_mem_singleton.mpr columns) commands rfl⟩

end SqlBindings
