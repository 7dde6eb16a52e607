import SqlBindings.Proofs.CatalogNames
import SqlBindings.Proofs.Indentation

/-!
# The outline of a module

Comments and class lines are the landmarks of a module. Nothing that comes from the fields,
signatures, texts or docstrings of its classes can be taken for one of them, so the landmarks tell
which objects a module is made from.

* `Bundle.outline_of_render`: the landmarks of a module, from top to bottom;
* `Bundle.render_lists`: each object has one class line, below the heading of its category.
-/

namespace SqlBindings

open Render

/-! ### Landmarks -/

namespace Render

def classLine (name : String) : String := "class " ++ name ++ ":"

/-- The line of a class that is nested in another one. -/
def memberLine (name : String) : String := indentStep ++ classLine name

/-- What comments, classes and nested classes begin with. -/
def landmarkStarts : List (List Char) :=
  [['#', ' '], ['c', 'l', 'a', 's', 's', ' '], [' ', ' ', ' ', ' ', 'c', 'l', 'a', 's', 's', ' ']]

def IsLandmark (line : String) : Prop := ∃ start ∈ landmarkStarts, Begins (String.ofList start) line

instance (line : String) : Decidable (IsLandmark line) :=
  inferInstanceAs (Decidable (∃ start ∈ landmarkStarts, _))

/-- The landmarks among lines. -/
def outline (lines : List String) : List String := lines.filter fun line => IsLandmark line

/-- The class lines at the margin. -/
def classLines (lines : List String) : List String := lines.filter fun line => Begins "class " line

/-- The class lines one step inside. -/
def memberLines (lines : List String) : List String :=
  lines.filter fun line => Begins "    class " line

theorem begins_classLine (name : String) : Begins "class " (classLine name) := by
  rw [classLine, String.append_assoc]
  exact begins_append _ _

theorem begins_memberLine (name : String) : Begins "    class " (memberLine name) := by
  have start : "    class " = indentStep ++ "class " := by decide
  rw [start, memberLine, begins_append_right]
  exact begins_classLine name

/-- Of two starts that differ, a line has one at most. -/
theorem Begins.excludes {start other : List Char} {line : String}
    (begins : Begins (String.ofList start) line) (h : Differ other start) :
    ¬ Begins (String.ofList other) line := by
  intro also
  rw [Begins, String.toList_ofList] at begins also
  exact (List.prefix_or_prefix_of_prefix also begins).elim h.1 h.2

theorem not_isLandmark_ofList {cs : List Char} (h : ∀ start ∈ landmarkStarts, ¬ start <+: cs) :
    ¬ IsLandmark (String.ofList cs) := by
  rintro ⟨start, mem, begins⟩
  exact not_begins_ofList (h start mem) begins

theorem not_isLandmark_append {cs : List Char} (h : ∀ start ∈ landmarkStarts, Differ start cs)
    (rest : String) : ¬ IsLandmark (String.ofList cs ++ rest) := by
  rintro ⟨start, mem, begins⟩
  exact not_begins_append (h start mem) rest begins

theorem outline_append (lines rest : List String) :
    outline (lines ++ rest) = outline lines ++ outline rest :=
  List.filter_append _ _

theorem outline_flatMap {α : Type} (f : α → List String) (xs : List α) :
    outline (xs.flatMap f) = xs.flatMap fun x => outline (f x) :=
  List.filter_flatMap

theorem outline_eq_nil {lines : List String} (h : ∀ line ∈ lines, ¬ IsLandmark line) :
    outline lines = [] :=
  List.filter_eq_nil_iff.mpr fun line mem => by simpa using h line mem

theorem outline_eq_self {lines : List String} (h : ∀ line ∈ lines, IsLandmark line) :
    outline lines = lines :=
  List.filter_eq_self.mpr fun line mem => by simpa using h line mem

theorem outline_class (name : String) : outline [classLine name] = [classLine name] :=
  outline_eq_self (List.forall_mem_singleton.mpr
    ⟨_, List.mem_cons_of_mem _ List.mem_cons_self, begins_classLine name⟩)

theorem outline_title (text : String) : outline (title text) = title text := by
  have comment (text : String) : IsLandmark ("# " ++ text) :=
    ⟨_, List.mem_cons_self, begins_append _ _⟩
  refine outline_eq_self ?_
  simp only [title, List.forall_mem_cons, comment, List.not_mem_nil, false_imp_iff, implies_true,
    and_self]

theorem outline_decorator : outline ["@dataclass(frozen=True)"] = [] := by
  refine outline_eq_nil (List.forall_mem_singleton.mpr ?_)
  with_reducible exact not_isLandmark_ofList (by decide)

theorem outline_gap : outline ["", ""] = [] := by
  refine outline_eq_nil ?_
  simp only [List.forall_mem_cons, List.not_mem_nil, false_imp_iff, implies_true, and_true, and_self]
  with_reducible exact not_isLandmark_ofList (by decide)

/-- The outline has all lines that begin like a landmark. -/
theorem filter_outline {start : List Char} (landmark : start ∈ landmarkStarts)
    (lines : List String) :
    (outline lines).filter (fun line => Begins (String.ofList start) line) =
      lines.filter fun line => Begins (String.ofList start) line := by
  rw [outline, List.filter_filter]
  refine List.filter_congr fun line _ => ?_
  by_cases begins : Begins (String.ofList start) line
  · have kept : IsLandmark line := ⟨start, landmark, begins⟩
    simp [begins, kept]
  · simp [begins]

theorem classLines_outline (lines : List String) : classLines (outline lines) = classLines lines :=
  filter_outline (by decide) lines

theorem memberLines_outline (lines : List String) :
    memberLines (outline lines) = memberLines lines :=
  filter_outline (by decide) lines

theorem isLandmark_indented {line : String} :
    IsLandmark (indentStep ++ line) ↔ Begins "class " line := by
  have member : "    class " = indentStep ++ "class " := by decide
  constructor
  · rintro ⟨start, mem, begins⟩
    rw [landmarkStarts, List.mem_cons, List.mem_cons, List.mem_singleton] at mem
    rcases mem with rfl | rfl | rfl
    · exact absurd begins (not_begins_append (by decide) line)
    · exact absurd begins (not_begins_append (by decide) line)
    · change Begins "    class " (indentStep ++ line) at begins
      rw [member] at begins
      exact begins_append_right.mp begins
  · intro begins
    rw [← @begins_append_right indentStep, ← member] at begins
    exact ⟨_, List.mem_cons_of_mem _ (List.mem_cons_of_mem _ List.mem_cons_self), begins⟩

theorem classLines_map (names : List String) :
    classLines (names.map classLine) = names.map classLine := by
  refine List.filter_eq_self.mpr fun line mem => ?_
  obtain ⟨name, _, rfl⟩ := List.mem_map.mp mem
  exact decide_eq_true (begins_classLine name)

/-- Of lines that are moved inside, those that define a class are left. -/
theorem outline_indentBy (lines : List String) :
    outline (indentBy 1 lines) = (classLines lines).map (indentStep ++ ·) := by
  have margin : String.join (List.replicate 1 indentStep) = indentStep := by decide
  have only : outline (indentBy 1 lines) =
      (indentBy 1 lines).filter fun line => Begins (indentStep ++ "class ") line := by
    refine List.filter_congr fun line mem => decide_eq_decide.mpr ?_
    obtain ⟨line, _, rfl⟩ := List.mem_map.mp mem
    by_cases empty : line = ""
    · rw [if_pos empty, empty]
      refine iff_of_false ?_ (by decide)
      with_reducible exact not_isLandmark_ofList (by decide)
    · rw [if_neg empty, margin, isLandmark_indented, begins_append_right]
  have indented := @filter_indentBy 1 "class " (by decide) lines
  rw [margin] at indented
  rw [only]
  exact indented

end Render

/-! ### The landmarks of each class -/

theorem Attribute.not_isLandmark_field {a : Attribute} (h : a.IsDerived) (schema : Option String) :
    ¬ IsLandmark ("    " ++ a.field schema) := by
  obtain ⟨sqlName, identifier, name, -⟩ := h
  have named : Text.isIdentifier a.name = true := name ▸ Name.isIdentifier_escape identifier
  intro landmark
  -- a field has a colon before its first blank, the line of a class has not
  have begins := isLandmark_indented.mp landmark
  rw [← @begins_append_right "    "] at begins
  exact @not_begins_field a named "class" (by decide) "" schema begins

theorem TableType.outline_render {t : TableType} (derived : ∀ a ∈ t.columns, a.IsDerived) :
    outline t.render = [classLine t.name] := by
  have fields : ∀ a ∈ t.columns, ¬ IsLandmark ("    " ++ a.field (some t.schema)) :=
    fun a mem => Attribute.not_isLandmark_field (derived a mem) _
  have after : outline (t.render.drop 2) = [] := by
    refine outline_eq_nil ?_
    unfold render
    simp only [List.cons_append, List.drop_succ_cons, List.drop_zero, List.nil_append,
      List.forall_mem_append, List.forall_mem_cons, List.forall_mem_map, String.append_assoc,
      List.not_mem_nil, false_imp_iff, implies_true, and_true]
    and_intros <;> with_reducible
      first
      | exact fields
      | exact not_isLandmark_ofList (by decide)
      | exact not_isLandmark_append (by decide) _
  have split : t.render =
      ["@dataclass(frozen=True)"] ++ [classLine t.name] ++ t.render.drop 2 := rfl
  rw [split, outline_append, outline_append, outline_decorator, after, outline_class]
  rfl

namespace Command

theorem outline_heading {c : Command} (derived : c.HasDerivedColumns) :
    outline c.heading = [classLine c.name] := by
  unfold heading
  cases returns : c.returns with
  | nothing => exact outline_class c.name
  | single type nullable => exact outline_class c.name
  | table columns =>
    have after : outline (columns.map (fun a => "    " ++ a.field (some c.schema)) ++ [""]) = [] := by
      refine outline_eq_nil (List.forall_mem_append.mpr ⟨List.forall_mem_map.mpr ?_, ?_⟩)
      · exact fun a mem => Attribute.not_isLandmark_field (derived columns returns a mem) _
      · rw [List.forall_mem_singleton]
        with_reducible exact not_isLandmark_ofList (by decide)
    have split : ["@dataclass(frozen=True)", "class " ++ c.name ++ ":"] =
        ["@dataclass(frozen=True)"] ++ [classLine c.name] := rfl
    dsimp only
    rw [List.append_assoc, split, outline_append, outline_append, outline_decorator, after,
      outline_class]
    rfl

theorem outline_executeHead (c : Command) : outline c.executeHead = [] := by
  refine outline_eq_nil ?_
  unfold executeHead
  simp only [List.forall_mem_cons, List.not_mem_nil, false_imp_iff, implies_true, and_true,
    String.append_assoc]
  and_intros <;> with_reducible
    first | exact not_isLandmark_ofList (by decide) | exact not_isLandmark_append (by decide) _

/-- The statements of a method are too deep to be landmarks, whatever they say. -/
theorem outline_deep (lines : List String) : outline (indentBy 3 lines) = [] := by
  refine outline_eq_nil fun line mem => ?_
  obtain ⟨line, _, rfl⟩ := List.mem_map.mp mem
  by_cases empty : line = ""
  · rw [if_pos empty, empty]
    with_reducible exact not_isLandmark_ofList (by decide)
  · have margin : String.join (List.replicate 3 indentStep) = "            " := by decide
    rw [if_neg empty, margin]
    with_reducible exact not_isLandmark_append (by decide) _

theorem outline_render {c : Command} (derived : c.HasDerivedColumns) {lines : List String}
    (rendered : c.render = .ok lines) : outline lines = [classLine c.name] := by
  obtain ⟨query, _, rfl⟩ := render_eq_ok.mp rendered
  rw [outline_append, outline_append, outline_heading derived, outline_executeHead, outline_deep]
  rfl

/-- The landmarks of commands, from their blocks of lines. -/
theorem map_outline {commands : List Command} (derived : ∀ c ∈ commands, c.HasDerivedColumns)
    {blocks : List (List String)} (rendered : commands.mapM render = .ok blocks) :
    blocks.map outline = commands.map fun c => [classLine c.name] := by
  have each := mapM_eq_ok.mp rendered
  clear rendered
  induction each with
  | nil => rfl
  | cons block _ ih =>
    obtain ⟨here, others⟩ := List.forall_mem_cons.mp derived
    rw [List.map_cons, List.map_cons, outline_render here block, ih others]

end Command

/-! ### Sections -/

/-- The categories of objects, each of which has a section of its own. -/
inductive Category
  | tableTypes
  | storedProcedures
  | functions
  | tableGetters
deriving DecidableEq

namespace Category

def all : List Category := [tableTypes, storedProcedures, functions, tableGetters]

/-- The categories whose sections come before. -/
def above : Category → List Category
  | tableTypes => []
  | storedProcedures => [tableTypes]
  | functions => [tableTypes, storedProcedures]
  | tableGetters => [tableTypes, storedProcedures, functions]

def label : Category → String
  | tableTypes => "User-Defined Table Types"
  | storedProcedures => "Stored Procedures"
  | functions => "User Defined Functions"
  | tableGetters => "Table Getters"

/-- The line that says what follows. -/
def heading (k : Category) : String := "# " ++ k.label

/-- What the objects of a bundle are called. -/
def names (b : Bundle) : Category → List String
  | tableTypes => b.tableTypes.map TableType.name
  | storedProcedures => b.storedProcedures.map Command.name
  | functions => b.functions.map Command.name
  | tableGetters => b.tableGetters.map Command.name

/-- The classes at the margin. The getters share one. -/
def classNames (b : Bundle) : Category → List String
  | tableGetters => if tableGetters.names b = [] then [] else ["TableGetters"]
  | k => k.names b

/-- The classes inside a class. -/
def memberNames (b : Bundle) : Category → List String
  | tableGetters => tableGetters.names b
  | _ => []

/-- The class lines below the heading. -/
def landmarks (b : Bundle) (k : Category) : List String :=
  (k.classNames b).map classLine ++ (k.memberNames b).map memberLine

end Category

namespace Bundle

/-- The landmarks of a section. There is none for a category without objects. -/
def part (b : Bundle) (k : Category) : List String :=
  (if k.names b = [] then [] else title k.label) ++ k.landmarks b

/-- The landmarks of the module of a bundle. -/
def landmarks (b : Bundle) : List String := banner :: Category.all.flatMap b.part

section

variable {blocks : List (List String)} {names : List String}

theorem flatMap_outline (each : blocks.map outline = names.map fun name => [classLine name]) :
    blocks.flatMap outline = names.map classLine := by
  rw [List.flatMap_def, each, ← List.flatMap_def, List.map_eq_flatMap]

theorem eq_nil_iff_of_outline (each : blocks.map outline = names.map fun name => [classLine name]) :
    blocks = [] ↔ names = [] := by
  rw [← List.map_eq_nil_iff, each, List.map_eq_nil_iff]

theorem outline_titled (heading : String)
    (each : blocks.map outline = names.map fun name => [classLine name]) :
    outline (titled heading blocks) =
      if names = [] then [] else title heading ++ names.map classLine := by
  unfold titled
  simp only [List.isEmpty_iff, eq_nil_iff_of_outline each]
  split
  · rfl
  · have classes : outline (blocks.flatMap fun block => ["", ""] ++ block) =
        names.map classLine := by
      rw [outline_flatMap, ← flatMap_outline each]
      refine List.flatMap_congr fun block _ => ?_
      rw [outline_append, outline_gap, List.nil_append]
    rw [outline_append, outline_append, outline_gap, outline_title, classes, List.nil_append]

theorem outline_getterSection (each : blocks.map outline = names.map fun name => [classLine name]) :
    outline (getterSection blocks) =
      if names = [] then []
      else title "Table Getters" ++ classLine "TableGetters" :: names.map memberLine := by
  unfold getterSection
  simp only [List.isEmpty_iff, eq_nil_iff_of_outline each]
  split
  · rfl
  · have blank : outline [""] = [] := by decide
    have holder : outline ["", "", "class TableGetters:",
        "    \"\"\"Getters returning every row of a base table.\"\"\""] =
          [classLine "TableGetters"] := by
      decide +kernel
    -- a block has no comment, so what is left of it inside is its whole outline
    have only : ∀ block ∈ blocks, classLines block = outline block := by
      intro block mem
      obtain ⟨name, _, same⟩ := List.mem_map.mp (each ▸ List.mem_map_of_mem mem)
      rw [← classLines_outline, ← same]
      exact classLines_map [name]
    have members : outline (blocks.flatMap fun block => "" :: indentBy 1 block) =
        names.map memberLine := by
      have nested : names.map memberLine = (blocks.flatMap outline).map (indentStep ++ ·) := by
        rw [flatMap_outline each, List.map_map]
        rfl
      rw [nested, outline_flatMap, List.map_flatMap]
      refine List.flatMap_congr fun block mem => ?_
      rw [← List.singleton_append, outline_append, blank, outline_indentBy, only block mem,
        List.nil_append]
    rw [outline_append, outline_append, outline_append, outline_gap, outline_title, holder, members,
      List.nil_append, List.append_assoc, List.singleton_append]

end

theorem part_shared (b : Bundle) {k : Category} (shared : k ≠ .tableGetters) :
    b.part k = if k.names b = [] then [] else title k.label ++ (k.names b).map classLine := by
  have names : k.classNames b = k.names b ∧ k.memberNames b = [] := by
    cases k <;> first | exact absurd rfl shared | exact ⟨rfl, rfl⟩
  rw [part, Category.landmarks, names.1, names.2]
  split <;> simp [*]

theorem part_getters (b : Bundle) : b.part .tableGetters =
    if Category.tableGetters.names b = [] then []
    else title "Table Getters" ++ classLine "TableGetters" ::
      (Category.tableGetters.names b).map memberLine := by
  unfold part Category.landmarks Category.classNames Category.memberNames
  split <;> simp [*, Category.label]

theorem outline_opening (b : Bundle) : outline b.opening = [banner] := by
  have imported : ∀ line ∈ b.schemaImports, ¬ IsLandmark line := by
    rw [schemaImports_eq]
    split
    · exact fun _ mem => absurd mem List.not_mem_nil
    · refine List.forall_mem_cons.mpr ⟨?_, List.forall_mem_map.mpr fun schema _ => ?_⟩
      · with_reducible exact not_isLandmark_ofList (by decide)
      · change ¬ IsLandmark ("from . import " ++ schema ++ " as " ++ Name.schemaAlias schema)
        rw [String.append_assoc, String.append_assoc]
        with_reducible exact not_isLandmark_append (by decide) _
  have top : outline [banner] = [banner] := by decide +kernel
  have split : b.opening = [banner] ++
      ((["\"\"\"Bindings for the " ++ b.schema ++ " schema.\"\"\""] ++ imports) ++ b.schemaImports) :=
    rfl
  rw [split, outline_append, top, outline_eq_nil, List.append_nil]
  refine List.forall_mem_append.mpr ⟨?_, imported⟩
  unfold imports
  simp only [List.forall_mem_append, List.forall_mem_cons, List.not_mem_nil, false_imp_iff,
    implies_true, and_true, String.append_assoc]
  and_intros <;> with_reducible
    first | exact not_isLandmark_ofList (by decide) | exact not_isLandmark_append (by decide) _

/-- The landmarks of a module are the headings and class lines of the sections that are not empty. -/
theorem outline_of_render {b : Bundle} {lines : List String}
    (types : ∀ t ∈ b.tableTypes, ∀ a ∈ t.columns, a.IsDerived)
    (commands : ∀ c ∈ b.commands, c.HasDerivedColumns) (rendered : b.render = .ok lines) :
    outline lines = b.landmarks := by
  obtain ⟨procedures, functions, getters, hp, hf, hg, rfl⟩ := render_eq_ok.mp rendered
  unfold Bundle.commands at commands
  rw [List.forall_mem_append, List.forall_mem_append] at commands
  have named {cs : List Command} (derived : ∀ c ∈ cs, c.HasDerivedColumns)
      {blocks : List (List String)} (made : cs.mapM Command.render = .ok blocks) :
      blocks.map outline = (cs.map Command.name).map fun name => [classLine name] := by
    rw [Command.map_outline derived made, List.map_map]
    rfl
  have tables : (b.tableTypes.map TableType.render).map outline =
      (b.tableTypes.map TableType.name).map fun name => [classLine name] := by
    rw [List.map_map, List.map_map]
    exact List.map_congr_left fun t mem => TableType.outline_render (types t mem)
  rw [outline_append, outline_append, outline_append, outline_append, outline_opening,
    outline_titled _ tables, outline_titled _ (named commands.1.1 hp),
    outline_titled _ (named commands.1.2 hf), outline_getterSection (named commands.2 hg)]
  simp only [landmarks, Category.all, List.flatMap_cons, List.flatMap_nil, List.append_nil,
    List.append_assoc, List.singleton_append, part_getters, part_shared, ne_eq, reduceCtorEq,
    not_false_eq_true]
  rfl

end Bundle

/-! ### What a module lists -/

namespace Render

/-- What classes the lines define at the margin, and one step inside, from top to bottom. -/
structure Defines (lines classes members : List String) : Prop where
  classes : classLines lines = classes.map classLine
  members : memberLines lines = members.map memberLine

theorem Defines.append {lines rest classes members classes' members' : List String}
    (h : Defines lines classes members) (h' : Defines rest classes' members') :
    Defines (lines ++ rest) (classes ++ classes') (members ++ members') where
  classes := by rw [classLines, List.filter_append, List.map_append, ← h.classes, ← h'.classes]; rfl
  members := by rw [memberLines, List.filter_append, List.map_append, ← h.members, ← h'.members]; rfl

theorem Defines.flatMap {α : Type} {f g h : α → List String}
    (each : ∀ x, Defines (f x) (g x) (h x)) (xs : List α) :
    Defines (xs.flatMap f) (xs.flatMap g) (xs.flatMap h) := by
  induction xs with
  | nil => exact ⟨rfl, rfl⟩
  | cons x xs ih => exact (each x).append ih

/-- Only landmarks matter. -/
theorem defines_outline {lines classes members : List String} :
    Defines (outline lines) classes members ↔ Defines lines classes members := by
  constructor
  · rintro ⟨hc, hm⟩
    exact ⟨classLines_outline lines ▸ hc, memberLines_outline lines ▸ hm⟩
  · rintro ⟨hc, hm⟩
    exact ⟨classLines_outline lines ▸ hc, memberLines_outline lines ▸ hm⟩

theorem defines_comments (texts : List String) : Defines (texts.map ("# " ++ ·)) [] [] := by
  constructor <;> refine List.filter_eq_nil_iff.mpr (List.forall_mem_map.mpr fun text _ => ?_)
  · simpa using not_begins_append (by decide) text
  · simpa using not_begins_append (by decide) text

theorem defines_classes (names : List String) : Defines (names.map classLine) names [] := by
  refine ⟨classLines_map names, ?_⟩
  refine List.filter_eq_nil_iff.mpr (List.forall_mem_map.mpr fun name _ => ?_)
  simpa using (begins_classLine name).excludes (by decide)

theorem defines_members (names : List String) : Defines (names.map memberLine) [] names := by
  constructor
  · refine List.filter_eq_nil_iff.mpr (List.forall_mem_map.mpr fun name _ => ?_)
    simpa using (begins_memberLine name).excludes (by decide)
  · refine List.filter_eq_self.mpr (List.forall_mem_map.mpr fun name _ => ?_)
    exact decide_eq_true (begins_memberLine name)

/-- Lines can be cut where their outline can. -/
theorem exists_append_of_outline {lines above below : List String}
    (h : outline lines = above ++ below) :
    ∃ top rest, lines = top ++ rest ∧ outline top = above ∧ outline rest = below :=
  List.filter_eq_append_iff.mp h

/-- Where a landmark stands in the outline tells where it stands among the lines. -/
theorem exists_split_of_outline {lines above below : List String} {line : String}
    (h : outline lines = above ++ line :: below) :
    ∃ before after, lines = before ++ line :: after ∧ outline before = above := by
  obtain ⟨before, rest, rfl, up, down⟩ := exists_append_of_outline h
  obtain ⟨between, after, rfl, skipped, -, -⟩ := List.filter_eq_cons_iff.mp down
  -- the cut is moved down to the landmark, past lines that are none
  refine ⟨before ++ between, after, (List.append_assoc _ _ _).symm, ?_⟩
  have none : outline between = [] := List.filter_eq_nil_iff.mpr skipped
  rw [outline_append, none, List.append_nil, up]

theorem count_outline {line : String} (landmark : IsLandmark line) (lines : List String) :
    (outline lines).count line = lines.count line :=
  List.count_filter (decide_eq_true landmark)

end Render

namespace Bundle

/-- A module has one class line for each object of its bundle, getters after all others, and the
heading of each category that has objects, right where its classes begin. -/
structure Lists (b : Bundle) (lines : List String) : Prop where
  defines : Defines lines b.classNames (b.tableGetters.map Command.name)
  nested : ∃ top rest, lines = top ++ rest ∧ memberLines top = [] ∧ classLines rest = []
  headings : ∀ k : Category, lines.count k.heading = if k.names b = [] then 0 else 1
  placed : ∀ k : Category, k.names b ≠ [] → ∃ before after, lines = before ++ k.heading :: after ∧
    Defines before (k.above.flatMap (Category.names b)) []

section

variable (b : Bundle) (k : Category)

theorem defines_headings : Defines (if k.names b = [] then [] else title k.label) [] [] := by
  split
  · exact ⟨rfl, rfl⟩
  · exact defines_comments [_, _, _]

theorem defines_part : Defines (b.part k) (k.classNames b) (k.memberNames b) := by
  have classes := (defines_classes (k.classNames b)).append (defines_members (k.memberNames b))
  rw [List.append_nil] at classes
  exact (b.defines_headings k).append classes

/-- The sections from the top on, of some categories. -/
theorem defines_parts (ks : List Category) : Defines (banner :: ks.flatMap b.part)
    (ks.flatMap (Category.classNames b)) (ks.flatMap (Category.memberNames b)) := by
  have first : Defines [banner] [] [] := ⟨by decide +kernel, by decide +kernel⟩
  exact first.append (.flatMap b.defines_part ks)

theorem defines_above : Defines (banner :: k.above.flatMap b.part)
    (k.above.flatMap (Category.names b)) [] := by
  have parts := b.defines_parts k.above
  cases k <;> exact parts

theorem count_part (j : Category) :
    (b.part j).count k.heading = if j = k ∧ k.names b ≠ [] then 1 else 0 := by
  have titles : (title j.label).count k.heading = if j = k then 1 else 0 := by
    cases j <;> cases k <;> decide +kernel
  have others : (j.landmarks b).count k.heading = 0 := by
    have comment : Begins "# " k.heading := begins_append _ _
    refine List.count_eq_zero.mpr fun mem => absurd comment ?_
    rcases List.mem_append.mp mem with mem | mem
    · obtain ⟨name, _, same⟩ := List.mem_map.mp mem
      exact same ▸ (begins_classLine name).excludes (by decide)
    · obtain ⟨name, _, same⟩ := List.mem_map.mp mem
      exact same ▸ (begins_memberLine name).excludes (by decide)
  rw [part, List.count_append, others]
  split <;> grind

theorem count_landmarks : b.landmarks.count k.heading = if k.names b = [] then 0 else 1 := by
  have first : [banner].count k.heading = 0 := by cases k <;> decide +kernel
  rw [landmarks, ← List.singleton_append, List.count_append, first, Category.all]
  simp only [List.flatMap_cons, List.flatMap_nil, List.count_append, count_part]
  by_cases none : k.names b = []
  · simp [none]
  · cases k <;> simp [none]

/-- Above a heading stand the sections of the categories before it. -/
theorem exists_landmarks_eq (some : k.names b ≠ []) : ∃ above below,
    b.landmarks = above ++ k.heading :: below ∧
      Defines above (k.above.flatMap (Category.names b)) [] := by
  obtain ⟨below, all⟩ : ∃ below, Category.all = k.above ++ k :: below := by
    cases k <;> exact ⟨_, rfl⟩
  let rule := "# " ++ String.ofList (List.replicate k.label.length '-')
  have titled : title k.label = [rule, k.heading, rule] := rfl
  refine ⟨banner :: k.above.flatMap b.part ++ [rule],
    rule :: k.landmarks b ++ below.flatMap b.part, ?_, ?_⟩
  · rw [landmarks, all, List.flatMap_append, List.flatMap_cons, part, if_neg some, titled]
    simp only [List.cons_append, List.nil_append, List.append_assoc]
  · have line : Defines [rule] [] [] := defines_comments [_]
    have defines := (b.defines_above k).append line
    rw [List.append_nil, List.append_nil] at defines
    exact defines

/-- The getters are the last landmarks. -/
theorem exists_landmarks_eq_members : ∃ above, b.landmarks =
    above ++ (b.tableGetters.map Command.name).map memberLine ∧ Defines above b.classNames [] := by
  let heading := if Category.tableGetters.names b = [] then [] else title "Table Getters"
  let holder := (Category.tableGetters.classNames b).map classLine
  refine ⟨banner :: Category.tableGetters.above.flatMap b.part ++ (heading ++ holder), ?_, ?_⟩
  · have last : b.part .tableGetters =
        heading ++ (holder ++ (b.tableGetters.map Command.name).map memberLine) := rfl
    simp only [landmarks, Category.all, Category.above, List.flatMap_cons, List.flatMap_nil, last,
      List.append_nil, List.cons_append, List.append_assoc]
  · have names : b.classNames = Category.tableGetters.above.flatMap (Category.names b) ++
        Category.tableGetters.classNames b := by
      simp [classNames, Category.above, Category.names, Category.classNames]
    rw [names]
    exact (b.defines_above .tableGetters).append
      ((b.defines_headings .tableGetters).append (defines_classes _))

end

/-- Whatever stands in its fields, signatures, texts and docstrings, a module lists each object of its
bundle once, in order and in the section of its category. -/
theorem render_lists {b : Bundle} {lines : List String}
    (types : ∀ t ∈ b.tableTypes, ∀ a ∈ t.columns, a.IsDerived)
    (commands : ∀ c ∈ b.commands, c.HasDerivedColumns) (rendered : b.render = .ok lines) :
    b.Lists lines := by
  have outlined := outline_of_render types commands rendered
  obtain ⟨above, cut, upper⟩ := b.exists_landmarks_eq_members
  obtain ⟨top, rest, split, up, down⟩ := exists_append_of_outline (outlined.trans cut)
  have first := defines_outline.mp (up ▸ upper)
  have second := defines_outline.mp (down ▸ defines_members _)
  have defines := first.append second
  rw [← split, List.append_nil, List.nil_append] at defines
  refine ⟨defines, ⟨top, rest, split, first.members, second.classes⟩, fun k => ?_, fun k some => ?_⟩
  · have landmark : IsLandmark k.heading := ⟨_, List.mem_cons_self, begins_append _ _⟩
    rw [← b.count_landmarks k, ← outlined, count_outline landmark]
  · obtain ⟨above, below, cut, upper⟩ := b.exists_landmarks_eq k some
    obtain ⟨before, after, split, up⟩ := exists_split_of_outline (outlined.trans cut)
    exact ⟨before, after, split, defines_outline.mp (up ▸ upper)⟩

def schoolClass : Attribute := ⟨"class_", .plain .int32, false, "@class"⟩

/-- A bundle with fields called `class_` and a procedure called like the class of the getters. -/
def school : Bundle :=
  ⟨"school", [⟨"school", "Pupils", [schoolClass]⟩],
    [⟨"school", "TableGetters", "[school].[TableGetters]", [schoolClass], .table [schoolClass],
      .storedProcedure⟩], [],
    [⟨"school", "Marks", "[school].[Marks]", [], .table [schoolClass], .tableGetter⟩]⟩

theorem render_lists_school : ∃ lines, school.render = .ok lines ∧ school.Lists lines ∧
    classLines lines = ["class Pupils:", "class TableGetters:", "class TableGetters:"] ∧
    memberLines lines = ["    class Marks:"] := by
  have derived : schoolClass.IsDerived := ⟨"class", by decide +kernel, by decide +kernel, rfl⟩
  have columns : ∀ a ∈ [schoolClass], a.IsDerived := List.forall_mem_singleton.mpr derived
  have commands : ∀ c ∈ school.commands, c.HasDerivedColumns := by
    refine List.forall_mem_cons.mpr ⟨?_, List.forall_mem_singleton.mpr ?_⟩
    · rintro _ same
      cases same
      exact columns
    · rintro _ same
      cases same
      exact columns
  have lists := @render_lists school _ (List.forall_mem_singleton.mpr columns) commands rfl
  exact ⟨_, rfl, lists, lists.defines.classes, lists.defines.members⟩

end Bundle

end SqlBindings
