import SqlBindings.Proofs.CatalogNames
import SqlBindings.Proofs.LineStarts

namespace SqlBindings

open Catalog Render

namespace Render

/-- The name of the class that a line at the margin defines. -/
def className? (line : String) : Option String :=
  if Begins "class " line then
    some (String.ofList ((line.toList.drop 6).takeWhile fun c => c != ':' && c != '('))
  else none

/-- The classes that a module defines, from top to bottom. -/
def moduleClasses (lines : List String) : List String := lines.filterMap className?

/-- The names that every module imports, and the builtins that modules use. -/
def moduleNames : List String :=
  ["datetime", "decimal", "uuid", "dataclass", "List", "Optional", "Tuple", "pyodbc",
    "NoRowReturnedError", "SqlConn", "int", "str", "bool", "bytes", "float", "tuple", "list"]

/-- No class of a module replaces another one, or a name that the module has from elsewhere. -/
structure BindsOnce (lines : List String) : Prop where
  distinct : (moduleClasses lines).Nodup
  fresh : ∀ name ∈ moduleClasses lines, name ∉ moduleNames
  aliases : ∀ schema, importLine schema ∈ lines → Name.schemaAlias schema ∉ moduleClasses lines

theorem className?_class {name : String} (h : Text.isIdentifier name = true) :
    className? ("class " ++ name ++ ":") = some name := by
  have colon : ':' ∉ name.toList := not_mem_of_isIdentifier h (by decide) (by decide)
  have bracket : '(' ∉ name.toList := not_mem_of_isIdentifier h (by decide) (by decide)
  have chars : ("class " ++ name ++ ":").toList.drop 6 = name.toList ++ [':'] := by
    have start : "class ".toList = ['c', 'l', 'a', 's', 's', ' '] := by decide
    have finish : ":".toList = [':'] := by decide
    rw [String.append_assoc, String.toList_append, String.toList_append, start, finish]
    rfl
  have inside : ∀ c ∈ name.toList, (c != ':' && c != '(') = true := by
    intro c mem
    have first : c ≠ ':' := fun same => colon (same ▸ mem)
    have second : c ≠ '(' := fun same => bracket (same ▸ mem)
    simp [first, second]
  unfold className?
  rw [String.append_assoc, if_pos (begins_append _ _), ← String.append_assoc, chars,
    List.takeWhile_append_of_pos inside]
  simp

theorem moduleClasses_append (lines rest : List String) :
    moduleClasses (lines ++ rest) = moduleClasses lines ++ moduleClasses rest :=
  List.filterMap_append

theorem moduleClasses_eq_nil {lines : List String} (h : ∀ line ∈ lines, ¬ Begins "class " line) :
    moduleClasses lines = [] :=
  List.filterMap_eq_nil_iff.mpr fun line mem => if_neg (h line mem)

theorem moduleClasses_flatMap {α : Type} (f : α → List String) (xs : List α) :
    moduleClasses (xs.flatMap f) = xs.flatMap fun x => moduleClasses (f x) :=
  List.filterMap_flatMap

/-- Lines that are indented define no class of the module. -/
theorem moduleClasses_indentBy {level : Nat} (positive : level ≠ 0) (lines : List String) :
    moduleClasses (indentBy level lines) = [] := by
  refine moduleClasses_eq_nil fun line mem => ?_
  obtain ⟨line, _, rfl⟩ := List.mem_map.mp mem
  obtain ⟨level, rfl⟩ := Nat.exists_eq_succ_of_ne_zero positive
  by_cases empty : line = ""
  · rw [if_pos empty, empty]
    with_reducible exact not_begins_ofList (by decide)
  · rw [if_neg empty, List.replicate_succ, String.join_cons, String.append_assoc, indentStep]
    with_reducible exact not_begins_append (by decide) _

end Render

theorem TableType.moduleClasses_render {t : TableType} (h : Text.isIdentifier t.name = true) :
    moduleClasses t.render = [t.name] := by
  have before : moduleClasses ["@dataclass(frozen=True)"] = [] := by
    refine moduleClasses_eq_nil (List.forall_mem_singleton.mpr ?_)
    with_reducible exact not_begins_ofList (by decide)
  have after : moduleClasses (t.render.drop 2) = [] := by
    refine moduleClasses_eq_nil ?_
    unfold render
    simp only [List.cons_append, List.drop_succ_cons, List.drop_zero, List.nil_append,
      List.forall_mem_append, List.forall_mem_cons, List.forall_mem_map, String.append_assoc,
      List.not_mem_nil, false_imp_iff, implies_true, and_true]
    and_intros <;> intros <;> with_reducible
      first | exact not_begins_ofList (by decide) | exact not_begins_append (by decide) _
  have split : t.render =
      ["@dataclass(frozen=True)"] ++ ["class " ++ t.name ++ ":"] ++ t.render.drop 2 := rfl
  have name : moduleClasses ["class " ++ t.name ++ ":"] = [t.name] := by
    rw [moduleClasses, List.filterMap_cons_some (className?_class h), List.filterMap_nil]
  rw [split, moduleClasses_append, moduleClasses_append, before, after, name]
  rfl

namespace Command

theorem moduleClasses_heading {c : Command} (h : Text.isIdentifier c.name = true) :
    moduleClasses c.heading = [c.name] := by
  have name : moduleClasses ["class " ++ c.name ++ ":"] = [c.name] := by
    rw [moduleClasses, List.filterMap_cons_some (className?_class h), List.filterMap_nil]
  unfold heading
  cases c.returns with
  | nothing => exact name
  | single type nullable => exact name
  | table columns =>
    have before : moduleClasses ["@dataclass(frozen=True)"] = [] := by
      refine moduleClasses_eq_nil (List.forall_mem_singleton.mpr ?_)
      with_reducible exact not_begins_ofList (by decide)
    have after : moduleClasses (columns.map (fun a => "    " ++ a.field (some c.schema)) ++ [""]) =
        [] := by
      refine moduleClasses_eq_nil (List.forall_mem_append.mpr ⟨?_, ?_⟩)
      · intro line mem
        obtain ⟨a, _, rfl⟩ := List.mem_map.mp mem
        with_reducible exact not_begins_append (by decide) _
      · rw [List.forall_mem_singleton]
        with_reducible exact not_begins_ofList (by decide)
    have split : ["@dataclass(frozen=True)", "class " ++ c.name ++ ":"] =
        ["@dataclass(frozen=True)"] ++ ["class " ++ c.name ++ ":"] := rfl
    dsimp only
    rw [List.append_assoc, split, moduleClasses_append, moduleClasses_append, before, after, name]
    rfl

theorem moduleClasses_render {c : Command} (h : Text.isIdentifier c.name = true)
    {lines : List String} (rendered : c.render = .ok lines) : moduleClasses lines = [c.name] := by
  obtain ⟨query, _, rfl⟩ := render_eq_ok.mp rendered
  have head : moduleClasses c.executeHead = [] := by
    refine moduleClasses_eq_nil ?_
    unfold executeHead
    simp only [List.forall_mem_cons, List.not_mem_nil, false_imp_iff, implies_true, and_true,
      String.append_assoc]
    and_intros <;> with_reducible
      first | exact not_begins_ofList (by decide) | exact not_begins_append (by decide) _
  rw [moduleClasses_append, moduleClasses_append, moduleClasses_heading h, head,
    moduleClasses_indentBy (by decide)]
  rfl

/-- The classes of commands, from their blocks of lines. -/
theorem moduleClasses_blocks {commands : List Command} {blocks : List (List String)}
    (named : ∀ c ∈ commands, Text.isIdentifier c.name = true)
    (rendered : commands.mapM render = .ok blocks) :
    blocks.flatMap moduleClasses = commands.map name := by
  have each := mapM_eq_ok.mp rendered
  clear rendered
  induction each with
  | nil => rfl
  | cons block _ ih =>
    obtain ⟨here, others⟩ := List.forall_mem_cons.mp named
    rw [List.flatMap_cons, List.map_cons, moduleClasses_render here block, ih others]
    rfl

end Command

namespace Bundle

theorem moduleClasses_gap : moduleClasses ["", ""] = [] := by
  refine moduleClasses_eq_nil ?_
  simp only [List.forall_mem_cons, List.not_mem_nil, false_imp_iff, implies_true, and_true, and_self]
  with_reducible exact not_begins_ofList (by decide)

theorem moduleClasses_title (text : String) : moduleClasses (title text) = [] := by
  refine moduleClasses_eq_nil ?_
  simp only [title, List.forall_mem_cons, List.not_mem_nil, false_imp_iff, implies_true, and_true]
  and_intros <;> with_reducible exact not_begins_append (by decide) _

theorem moduleClasses_titled (heading : String) (blocks : List (List String)) :
    moduleClasses (titled heading blocks) = blocks.flatMap moduleClasses := by
  unfold titled
  split
  · rename_i empty
    rw [List.isEmpty_iff.mp empty]
    rfl
  · rw [moduleClasses_append, moduleClasses_append, moduleClasses_gap, moduleClasses_title,
      moduleClasses_flatMap]
    simp only [moduleClasses_append, moduleClasses_gap, List.nil_append]

/-- The getters are members of a class, so their own classes do not count. -/
theorem moduleClasses_getterSection (blocks : List (List String)) :
    moduleClasses (getterSection blocks) = if blocks = [] then [] else ["TableGetters"] := by
  unfold getterSection
  split
  · rename_i empty
    rw [if_pos (List.isEmpty_iff.mp empty)]
    rfl
  · rename_i some
    have blank : moduleClasses [""] = [] := by
      refine moduleClasses_eq_nil (List.forall_mem_singleton.mpr ?_)
      with_reducible exact not_begins_ofList (by decide)
    have getters : moduleClasses (blocks.flatMap fun block => "" :: indentBy 1 block) = [] := by
      rw [moduleClasses_flatMap]
      refine List.flatMap_eq_nil_iff.mpr fun block _ => ?_
      rw [← List.singleton_append, moduleClasses_append, blank, moduleClasses_indentBy (by decide)]
      rfl
    have holder : moduleClasses ["", "", "class TableGetters:",
        "    \"\"\"Getters returning every row of a base table.\"\"\""] = ["TableGetters"] := by
      decide +kernel
    rw [moduleClasses_append, moduleClasses_append, moduleClasses_append, moduleClasses_gap,
      moduleClasses_title, holder, getters, if_neg (by simpa using some)]
    rfl

theorem moduleClasses_opening (b : Bundle) : moduleClasses b.opening = [] := by
  have imported : ∀ line ∈ b.schemaImports, ¬ Begins "class " line := by
    rw [schemaImports_eq]
    split
    · exact fun _ mem => absurd mem List.not_mem_nil
    · simp only [List.forall_mem_cons, List.forall_mem_map, importLine, String.append_assoc]
      refine ⟨?_, fun schema _ => ?_⟩
      · with_reducible exact not_begins_ofList (by decide)
      · with_reducible exact not_begins_append (by decide) _
  refine moduleClasses_eq_nil (List.forall_mem_append.mpr ⟨?_, imported⟩)
  unfold imports banner
  simp only [List.forall_mem_append, List.forall_mem_cons, List.not_mem_nil, false_imp_iff,
    implies_true, and_true, String.append_assoc]
  and_intros <;> with_reducible
    first | exact not_begins_ofList (by decide) | exact not_begins_append (by decide) _

/-- The classes of a module are those of its table types, procedures and functions, and the one that
holds its getters. -/
theorem moduleClasses_of_render {b : Bundle}
    (types : ∀ t ∈ b.tableTypes, Text.isIdentifier t.name = true)
    (commands : ∀ c ∈ b.commands, Text.isIdentifier c.name = true) {lines : List String}
    (rendered : b.render = .ok lines) : moduleClasses lines = b.classNames := by
  obtain ⟨procedures, functions, getters, hp, hf, hg, rfl⟩ := render_eq_ok.mp rendered
  unfold Bundle.commands at commands
  rw [List.forall_mem_append, List.forall_mem_append] at commands
  have tables : (b.tableTypes.map TableType.render).flatMap moduleClasses =
      b.tableTypes.map TableType.name := by
    rw [List.flatMap_map, List.map_eq_flatMap]
    exact List.flatMap_congr fun t ht => TableType.moduleClasses_render (types t ht)
  have none : getters = [] ↔ b.tableGetters = [] := by
    have lengths := (mapM_eq_ok.mp hg).length_eq
    rw [← List.length_eq_zero_iff, ← List.length_eq_zero_iff, lengths]
  rw [moduleClasses_append, moduleClasses_append, moduleClasses_append, moduleClasses_append,
    moduleClasses_opening, moduleClasses_titled, moduleClasses_titled, moduleClasses_titled,
    moduleClasses_getterSection, Command.moduleClasses_blocks commands.1.1 hp,
    Command.moduleClasses_blocks commands.1.2 hf, tables, List.nil_append, Bundle.classNames]
  simp only [none]

end Bundle

namespace Introspection

open Run

/-- Which names of objects bring no name of a module about twice: those of one schema are distinct,
whatever the kind of the object, and differ from the names that the module has from elsewhere. -/
structure Listing.NamesApart (l : Listing) (schema : String) : Prop where
  distinct : (l.classNames schema).Nodup
  fresh : ∀ name ∈ l.classNames schema, name ∉ moduleNames
  aliases : ∀ owner ∈ l.foreignSchemas schema, Name.schemaAlias owner ∉ l.classNames schema

namespace Objects.MadeFrom

variable {l : Listing} {o : Objects} {b : Bundle} {lines : List String}

theorem moduleClasses_perm (h : o.MadeFrom l) (hb : b ∈ o.bundles) (rendered : b.render = .ok lines) :
    (moduleClasses lines).Perm (l.classNames b.schema) := by
  obtain ⟨types, commands⟩ := h.named b hb
  rw [Bundle.moduleClasses_of_render (fun t ht => (types t ht).className.1)
    (fun c hc => (commands c hc).className.1) rendered]
  exact h.classNames_perm hb

theorem bindsOnce_iff (h : o.MadeFrom l) (hb : b ∈ o.bundles) (rendered : b.render = .ok lines) :
    BindsOnce lines ↔ l.NamesApart b.schema := by
  have classes := h.moduleClasses_perm hb rendered
  have imports (schema : String) :
      importLine schema ∈ lines ↔ schema ∈ l.foreignSchemas b.schema := by
    rw [Bundle.importLine_mem_iff rendered, h.mem_foreignSchemas hb]
  constructor
  · intro once
    refine ⟨classes.nodup once.distinct, ?_, ?_⟩
    · exact fun name mem => once.fresh name (classes.mem_iff.mpr mem)
    · exact fun owner mem => mt classes.mem_iff.mpr (once.aliases owner ((imports owner).mpr mem))
  · intro apart
    refine ⟨classes.symm.nodup apart.distinct, ?_, ?_⟩
    · exact fun name mem => apart.fresh name (classes.mem_iff.mp mem)
    · exact fun schema mem => mt classes.mem_iff.mp (apart.aliases schema ((imports schema).mp mem))

end Objects.MadeFrom

section

variable {σ : Type} {source : Source σ} {state : σ} {bundles : List Bundle} {t : Traced σ}

/-- Whatever a catalog answers, a module binds no name twice exactly if the names of the objects of its
schema are apart. -/
theorem introspect_bindsOnce_iff (run : (introspect source).start state = (.ok bundles, t)) :
    ∃ l : Listing, l.ReadFrom source ∧ ∀ b ∈ bundles, ∃ lines, b.render = .ok lines ∧
      (BindsOnce lines ↔ l.NamesApart b.schema) := by
  rw [Run.start_eq_ending] at run
  obtain ⟨l, o, read, made, rfl⟩ := introspect_ok run
  refine ⟨l, read, fun b hb => ?_⟩
  obtain ⟨lines, rendered⟩ := Bundle.exists_render_ok (made.isCallable b hb)
  exact ⟨lines, rendered, made.bindsOnce_iff hb rendered⟩

end

instance (l : Listing) (schema : String) : Decidable (l.NamesApart schema) :=
  decidable_of_iff ((l.classNames schema).Nodup ∧
      (∀ name ∈ l.classNames schema, name ∉ moduleNames) ∧
      ∀ owner ∈ l.foreignSchemas schema, Name.schemaAlias owner ∉ l.classNames schema)
    ⟨fun ⟨distinct, fresh, aliases⟩ => ⟨distinct, fresh, aliases⟩,
      fun ⟨distinct, fresh, aliases⟩ => ⟨distinct, fresh, aliases⟩⟩

/-- In the shop both schemas have a table type of one name, in different modules. -/
theorem introspect_bindsOnce_iff_shop : ∃ bundles t,
    (introspect Memory.shop.source).start [] = (.ok bundles, t) ∧
      ∀ b ∈ bundles, ∃ lines, b.render = .ok lines ∧
        (BindsOnce lines ↔ Memory.shop.listing.NamesApart b.schema) ∧ BindsOnce lines := by
  obtain ⟨t, run⟩ := Memory.exists_shop_run
  obtain ⟨l, read, modules⟩ := introspect_bindsOnce_iff run
  obtain rfl := eq_listing_of_readFrom read
  have apart : ∀ schema ∈ ["sales", "dbo"], Memory.shop.listing.NamesApart schema := by
    decide +kernel
  refine ⟨_, t, run, fun b hb => ?_⟩
  obtain ⟨lines, rendered, once⟩ := modules b hb
  exact ⟨lines, rendered, once, once.mpr (apart _ (schema_of_shop hb))⟩

/-- A catalog in which a table type and a procedure have one name. -/
def twinCatalog : Memory where
  tableTypes := [⟨"dbo", "Orders", [⟨"id", "int", false, 1⟩]⟩]
  functions := []
  procedures := [⟨"dbo", "Orders", []⟩]
  tables := []
  results := []

theorem twinCatalog_objects : twinCatalog.objects = .ok
    ⟨[⟨"dbo", "Orders", [⟨"id", .plain .int32, false, "@id"⟩]⟩], [],
      [⟨"dbo", "Orders", "[dbo].[Orders]", [], .nothing, .storedProcedure⟩], []⟩ := by
  have kept : twinCatalog.procedures.filter isRelevantProcedure = twinCatalog.procedures := by
    decide +kernel
  rw [Memory.objects, kept]
  rfl

/-- Its module has two classes of this name, of which the second one stays. -/
theorem introspect_rebinds : ∃ bundles t,
    (introspect twinCatalog.source).start [] = (.ok bundles, t) ∧
    ∃ b ∈ bundles, ∃ lines, b.render = .ok lines ∧ moduleClasses lines = ["Orders", "Orders"] ∧
      ¬ BindsOnce lines := by
  have made := Memory.objects_madeFrom twinCatalog_objects
  obtain ⟨t, run, _⟩ := twinCatalog.exists_introspect_start
  rw [twinCatalog_objects] at run
  obtain ⟨b, hb, mem⟩ : ∃ b ∈ Bundle.group _ _ _ _, _ ∈ b.tableTypes :=
    Bundle.exists_mem_tableTypes (List.mem_singleton_self
      (TableType.mk "dbo" "Orders" [⟨"id", .plain .int32, false, "@id"⟩]))
  have own := ((Bundle.mem_tableTypes hb).mp mem).2
  obtain ⟨lines, rendered⟩ := Bundle.exists_render_ok (made.isCallable b hb)
  have classes := made.moduleClasses_perm hb rendered
  have names : twinCatalog.listing.classNames "dbo" = List.replicate 2 "Orders" := by
    decide +kernel
  rw [← own, names] at classes
  refine ⟨_, t, run, b, hb, lines, rendered, List.perm_replicate.mp classes, fun once => ?_⟩
  have distinct := classes.nodup once.distinct
  exact absurd distinct (by decide)

end Introspection

end SqlBindings
