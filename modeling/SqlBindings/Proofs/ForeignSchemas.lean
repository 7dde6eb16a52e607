import SqlBindings.Proofs.Aliases
import SqlBindings.Proofs.GeneratedNames

namespace SqlBindings

open Render

/-- The line that imports the module of another schema. -/
def Render.importLine (schema : String) : String :=
  "from . import " ++ schema ++ " as " ++ Name.schemaAlias schema

/-- Whether a line imports another module of the package. -/
def Render.isRelativeImport (line : String) : Bool :=
  "from . import ".toList.isPrefixOf line.toList

namespace Bundle

theorem mem_foreignSchemas {b : Bundle} {s : String} : s ∈ b.foreignSchemas ↔
    ∃ c ∈ b.commands, ∃ p ∈ c.parameters, p.type.foreignOwner? b.schema = some s := by
  simp only [foreignSchemas, mem_sortOn, List.mem_eraseDups, List.mem_flatMap, List.mem_filterMap]
  refine exists_congr fun c => and_congr_right fun _ => exists_congr fun p =>
    and_congr_right fun _ => ?_
  rcases p.type with _ | ⟨_, _ | owner⟩
  · rfl
  · rfl
  · by_cases own : owner = b.schema <;> simp [SqlType.foreignOwner?, own, Option.filter]

theorem foreignSchemas_sorted (b : Bundle) : b.foreignSchemas.Pairwise (· < ·) := by
  refine sortOn_strict ?_
  simpa using nodup_eraseDups _

theorem not_mem_foreignSchemas (b : Bundle) : b.schema ∉ b.foreignSchemas := by
  rw [mem_foreignSchemas]
  rintro ⟨c, _, p, _, foreign⟩
  cases type : p.type with
  | scalar kind owner => simp [type, SqlType.foreignOwner?] at foreign
  | table name owner => simp [type, SqlType.foreignOwner?, Option.filter_eq_some_iff] at foreign

end Bundle

namespace Render

theorem importLine_injective : Function.Injective importLine := by
  intro s t same
  unfold importLine Name.schemaAlias at same
  rw [String.append_assoc, String.append_assoc, String.append_assoc, String.append_assoc,
    String.append_right_inj] at same
  have chars : s.toList ++ (" as " ++ (Name.schemaAliasPrefix ++ s)).toList =
      t.toList ++ (" as " ++ (Name.schemaAliasPrefix ++ t)).toList := by
    rw [← String.toList_append, ← String.toList_append, same]
  -- the name stands twice on either side, so both names are of one length
  have lengths := congrArg List.length chars
  simp only [String.toList_append, List.length_append] at lengths
  exact String.toList_inj.mp (List.append_inj chars (by omega)).1

theorem isRelativeImport_importLine (schema : String) :
    isRelativeImport (importLine schema) = true := by
  unfold isRelativeImport importLine
  rw [List.isPrefixOf_iff_prefix, String.append_assoc, String.append_assoc, String.toList_append]
  exact List.prefix_append _ _

/-- The line does not begin with the letter that an import begins with. -/
def Inner (line : String) : Prop := line.toList.head? ≠ some 'f'

theorem isRelativeImport_of_inner {line : String} (h : Inner line) :
    isRelativeImport line = false := by
  have first : "from . import ".toList = 'f' :: "rom . import ".toList := by decide
  unfold Inner at h
  rw [isRelativeImport, first]
  cases chars : line.toList with
  | nil => rfl
  | cons c rest =>
    rw [chars, List.head?_cons, ne_eq, Option.some_inj] at h
    rw [List.isPrefixOf, beq_false_of_ne (Ne.symm h), Bool.false_and]

theorem inner_empty : Inner "" := by
  unfold Inner
  decide

/-- A literal is taken as its list of characters here, which is faster than to read it. -/
theorem inner_ofList {c : Char} {cs : List Char} (h : c ≠ 'f') : Inner (String.ofList (c :: cs)) := by
  rw [Inner, String.toList_ofList, List.head?_cons, ne_eq, Option.some_inj]
  exact h

theorem inner_append {c : Char} {cs : List Char} {rest : String} (h : c ≠ 'f') :
    Inner (String.ofList (c :: cs) ++ rest) := by
  rw [Inner, String.toList_append, String.toList_ofList, List.cons_append, List.head?_cons, ne_eq,
    Option.some_inj]
  exact h

theorem inner_indentBy {level : Nat} (positive : level ≠ 0) (lines : List String) :
    ∀ line ∈ indentBy level lines, Inner line := by
  intro line mem
  obtain ⟨line, _, rfl⟩ := List.mem_map.mp mem
  obtain ⟨level, rfl⟩ := Nat.exists_eq_succ_of_ne_zero positive
  by_cases empty : line = ""
  · rw [if_pos empty, empty]
    exact inner_empty
  · rw [if_neg empty, List.replicate_succ, String.join_cons, String.append_assoc]
    exact inner_append (by decide)

end Render

theorem TableType.inner_render (t : TableType) : ∀ line ∈ t.render, Inner line := by
  simp only [render, List.forall_mem_append, List.forall_mem_cons, List.forall_mem_map,
    String.append_assoc, inner_empty, List.not_mem_nil, false_imp_iff, implies_true, and_true,
    true_and]
  and_intros <;> intros <;> with_reducible
    first | exact inner_ofList (by decide) | exact inner_append (by decide)

theorem Command.inner_heading (c : Command) : ∀ line ∈ c.heading, Inner line := by
  unfold heading
  cases c.returns <;>
    simp only [List.forall_mem_append, List.forall_mem_cons, List.forall_mem_map,
      String.append_assoc, inner_empty, List.not_mem_nil, false_imp_iff, implies_true, and_true] <;>
    and_intros <;> intros <;> with_reducible
      first | exact inner_ofList (by decide) | exact inner_append (by decide)

theorem Command.inner_render {c : Command} {lines : List String} (h : c.render = .ok lines) :
    ∀ line ∈ lines, Inner line := by
  obtain ⟨query, _, made⟩ := bind_eq_ok.mp h
  cases made
  refine List.forall_mem_append.mpr ⟨List.forall_mem_append.mpr ⟨c.inner_heading, ?_⟩, ?_⟩
  · simp only [List.forall_mem_cons, String.append_assoc, List.not_mem_nil, false_imp_iff,
      implies_true, and_true]
    and_intros <;> with_reducible
      first | exact inner_ofList (by decide) | exact inner_append (by decide)
  · exact inner_indentBy (by decide) _

namespace Bundle

theorem inner_title (text : String) : ∀ line ∈ title text, Inner line := by
  simp only [title, List.forall_mem_cons, List.not_mem_nil, false_imp_iff, implies_true, and_true]
  exact ⟨inner_append (by decide), inner_append (by decide), inner_append (by decide)⟩

theorem inner_titled {heading : String} {blocks : List (List String)}
    (h : ∀ block ∈ blocks, ∀ line ∈ block, Inner line) :
    ∀ line ∈ titled heading blocks, Inner line := by
  have gap : ∀ line ∈ ["", ""], Inner line := by simp [inner_empty]
  unfold titled
  split
  · exact fun _ mem => absurd mem List.not_mem_nil
  · rw [List.append_assoc, List.forall_mem_append, List.forall_mem_append, List.forall_mem_flatMap]
    refine ⟨gap, inner_title heading, fun block hb => ?_⟩
    exact List.forall_mem_append.mpr ⟨gap, h block hb⟩

theorem inner_getterSection (blocks : List (List String)) :
    ∀ line ∈ getterSection blocks, Inner line := by
  unfold getterSection
  split
  · exact fun _ mem => absurd mem List.not_mem_nil
  · simp only [List.forall_mem_append, List.forall_mem_flatMap, List.forall_mem_cons]
    refine ⟨⟨⟨?_, inner_title _⟩, ?_⟩, fun block _ => ⟨inner_empty, inner_indentBy (by decide) _⟩⟩
    · simp [inner_empty]
    · exact ⟨inner_empty, inner_empty, inner_ofList (by decide), inner_ofList (by decide), by simp⟩

theorem filter_schemaImports (b : Bundle) :
    b.schemaImports.filter isRelativeImport = b.foreignSchemas.map importLine := by
  have imports : (b.foreignSchemas.map importLine).filter isRelativeImport =
      b.foreignSchemas.map importLine := by
    rw [List.filter_eq_self, List.forall_mem_map]
    exact fun s _ => isRelativeImport_importLine s
  unfold schemaImports
  cases schemas : b.foreignSchemas with
  | nil => rfl
  | cons s rest =>
    rw [schemas] at imports
    exact imports

theorem filter_inner {lines : List String} (h : ∀ line ∈ lines, Inner line) :
    lines.filter isRelativeImport = [] :=
  List.filter_eq_nil_iff.mpr fun line mem => by simp [isRelativeImport_of_inner (h line mem)]

theorem inner_commands {commands : List Command} {blocks : List (List String)}
    (h : commands.mapM Command.render = .ok blocks) :
    ∀ block ∈ blocks, ∀ line ∈ block, Inner line := by
  intro block hb
  obtain ⟨c, _, rendered⟩ := exists_of_mem_mapM h hb
  exact Command.inner_render rendered

/-- The lines of a module that import others, in their order. -/
theorem imports_of_render {b : Bundle} {lines : List String} (h : b.render = .ok lines) :
    lines.filter isRelativeImport = b.foreignSchemas.map importLine := by
  obtain ⟨procedures, hp, h⟩ := bind_eq_ok.mp h
  obtain ⟨functions, hf, h⟩ := bind_eq_ok.mp h
  obtain ⟨getters, hg, h⟩ := bind_eq_ok.mp h
  cases h
  have opening : ∀ line ∈ [banner, "\"\"\"Bindings for the " ++ b.schema ++ " schema.\"\"\""],
      Inner line := by
    simp only [List.forall_mem_cons, String.append_assoc, List.not_mem_nil, false_imp_iff,
      implies_true, and_true]
    exact ⟨inner_ofList (by decide), inner_append (by decide)⟩
  have fixed : imports.filter isRelativeImport = [] := by decide
  have types : ∀ block ∈ b.tableTypes.map TableType.render, ∀ line ∈ block, Inner line :=
    List.forall_mem_map.mpr fun t _ => t.inner_render
  rw [List.filter_append, List.filter_append, List.filter_append, List.filter_append,
    List.filter_append, List.filter_append, filter_inner opening, fixed, filter_schemaImports,
    filter_inner (inner_titled types), filter_inner (inner_titled (inner_commands hp)),
    filter_inner (inner_titled (inner_commands hf)), filter_inner (inner_getterSection getters)]
  simp only [List.nil_append, List.append_nil]

theorem mem_foreignSchemas_of_import {b : Bundle} {lines : List String}
    (rendered : b.render = .ok lines) {s : String} (mem : importLine s ∈ lines) :
    s ∈ b.foreignSchemas := by
  have imported : importLine s ∈ lines.filter isRelativeImport :=
    List.mem_filter.mpr ⟨mem, isRelativeImport_importLine s⟩
  rw [imports_of_render rendered] at imported
  exact (List.mem_map_of_injective importLine_injective).mp imported

theorem importLine_mem_iff {b : Bundle} {lines : List String} (rendered : b.render = .ok lines)
    {s : String} : importLine s ∈ lines ↔ s ∈ b.foreignSchemas := by
  refine ⟨mem_foreignSchemas_of_import rendered, fun mem => ?_⟩
  have imported := List.mem_map_of_mem (f := importLine) mem
  rw [← imports_of_render rendered] at imported
  exact (List.mem_filter.mp imported).1

theorem schemaImports_eq (b : Bundle) : b.schemaImports =
    if b.foreignSchemas = [] then [] else "" :: b.foreignSchemas.map importLine := by
  unfold schemaImports
  cases b.foreignSchemas <;> rfl

end Bundle

/-- A module imports the modules that it refers to, and each of them once. -/
structure Bundle.ImportsAgree (b : Bundle) (lines : List Line) : Prop where
  /-- The schemas whose aliases stand in a reference somewhere in the module. -/
  uses : ∀ s, s ∈ usedAliases lines ↔ s ∈ b.foreignSchemas
  increasing : b.foreignSchemas.Pairwise (· < ·)
  elsewhere : b.schema ∉ b.foreignSchemas
  emitted : b.schemaImports =
    if b.foreignSchemas = [] then [] else "" :: b.foreignSchemas.map importLine
  /-- No other line of the module imports one. -/
  imports : (lines.map lineText).filter isRelativeImport = b.foreignSchemas.map importLine

theorem SqlType.foreignOwner?_of_scalar {t : SqlType} (h : t.isTable = false) (schema : String) :
    t.foreignOwner? schema = none := by
  cases t with
  | scalar kind owner => rfl
  | table name owner => cases h

theorem Attribute.foreignOwners_of_scalar {attributes : List Attribute}
    (h : ∀ a ∈ attributes, a.type.isTable = false) (schema : String) :
    foreignOwners attributes schema = [] :=
  List.filterMap_eq_nil_iff.mpr fun a ha => SqlType.foreignOwner?_of_scalar (h a ha) schema

theorem Command.foreignOwners_of_scalar {c : Command} (h : c.returns.Scalar) :
    c.foreignOwners = Attribute.foreignOwners c.parameters c.schema := by
  have none : c.returns.types.filterMap (SqlType.foreignOwner? c.schema) = [] :=
    List.filterMap_eq_nil_iff.mpr fun type mem => SqlType.foreignOwner?_of_scalar (h type mem) _
  rw [foreignOwners, none, List.append_nil]

namespace Introspection

open Catalog

theorem Objects.MadeFrom.usedAliases_iff {l : Listing} {o : Objects} (h : o.MadeFrom l) {b : Bundle}
    (hb : b ∈ o.bundles) {lines : List Line} (made : b.lines = .ok lines) (s : String) :
    s ∈ usedAliases lines ↔ s ∈ b.foreignSchemas := by
  obtain ⟨types, commands⟩ := h.scalarTypes b hb
  have noTypes : ¬ ∃ t ∈ b.tableTypes, s ∈ Attribute.foreignOwners t.columns t.schema := by
    rintro ⟨t, ht, mem⟩
    rw [Attribute.foreignOwners_of_scalar (types t ht)] at mem
    exact List.not_mem_nil mem
  rw [Bundle.mem_usedAliases made, or_iff_right noTypes, Bundle.mem_foreignSchemas]
  refine exists_congr fun c => and_congr_right fun hc => ?_
  have own : c.schema = b.schema := ((Bundle.mem_commands hb).mp hc).2
  rw [Command.foreignOwners_of_scalar (commands c hc), own, Attribute.mem_foreignOwners]

variable {σ : Type} {source : Source σ} {state : σ} {bundles : List Bundle} {t : Traced σ}

/-- Whatever a catalog answers, each module imports exactly the modules whose aliases it uses. -/
theorem introspect_importsAgree (run : (introspect source).start state = (.ok bundles, t)) :
    ∀ b ∈ bundles, ∃ lines, b.lines = .ok lines ∧ b.render = .ok (lines.map lineText) ∧
      b.ImportsAgree lines := by
  intro b hb
  rw [Run.start_eq_ending] at run
  obtain ⟨l, o, _, made, rfl⟩ := introspect_ok run
  obtain ⟨text, rendered⟩ := Bundle.exists_render_ok (made.isCallable b hb)
  have marked := b.render_eq_lines
  rw [rendered] at marked
  cases lines : b.lines with
  | error e =>
    rw [lines] at marked
    cases marked
  | ok lines' =>
    rw [lines] at marked
    cases marked
    exact ⟨lines', rfl, rendered, made.usedAliases_iff hb lines, b.foreignSchemas_sorted,
      b.not_mem_foreignSchemas, b.schemaImports_eq, Bundle.imports_of_render rendered⟩

/-- The function of the shop that takes a table of another schema. -/
theorem introspect_importsAgree_shop : ∃ bundles t,
    (introspect Memory.shop.source).start [] = (.ok bundles, t) ∧
      ∃ b ∈ bundles, "dbo" ∈ b.foreignSchemas ∧ ∃ lines, b.lines = .ok lines ∧
        b.render = .ok (lines.map lineText) ∧ b.ImportsAgree lines := by
  obtain ⟨t, run⟩ := Memory.exists_shop_run
  obtain ⟨b, hb, hc⟩ := exists_shopTotal_bundle
  have own : Memory.shopTotal.schema = b.schema := ((Bundle.mem_commands hb).mp hc).2
  refine ⟨_, t, run, b, hb, ?_, introspect_importsAgree run b hb⟩
  refine Bundle.mem_foreignSchemas.mpr ⟨Memory.shopTotal, hc, _, List.head_mem (by decide), ?_⟩
  rw [← own]
  decide

end Introspection

end SqlBindings
