import SqlBindings.Proofs.ForeignSchemas
import SqlBindings.Proofs.PackageFiles

/-!
Table types of excluded schemas take no part in a package, but parameters may still have them as their
types. Such a parameter is referred to a module that there is no file for.
-/

namespace SqlBindings

open Catalog Render

namespace Package

/-- There is a file for the module of the schema. -/
def HasModule (files : List File) (schema : String) : Prop :=
  schema ++ ".py" ∈ files.map Prod.fst

/-- The class of the table type stands in the module of its schema. -/
def Defines (files : List File) (schema name : String) : Prop :=
  ∃ lines t, (schema ++ ".py", fileText lines) ∈ files ∧
    t.schema = schema ∧ t.name = name ∧ TableType.render t <:+: lines

theorem Defines.hasModule {files : List File} {schema name : String}
    (h : Defines files schema name) : HasModule files schema := by
  obtain ⟨lines, t, mem, _⟩ := h
  exact List.mem_map_of_mem mem

end Package

theorem SqlType.eq_table_of_foreignOwner? {t : SqlType} {schema owner : String}
    (h : t.foreignOwner? schema = some owner) : ∃ name, t = .table name (some owner) := by
  cases t with
  | scalar kind _ => cases h
  | table name owner' =>
    obtain ⟨rfl, _⟩ := Option.filter_eq_some_iff.mp h
    exact ⟨name, rfl⟩

namespace Introspection

/-- Objects have the schemas of the entries they are made from. -/
theorem not_excluded_of_keys {α β : Type} {made : List α} {kept : List β}
    {schemaOf name : α → String} {schemaOf' name' : β → String}
    (keys : made.map (fun x => (schemaOf x, name x)) = kept.map fun y => (schemaOf' y, name' y))
    (each : ∀ y ∈ kept, schemaOf' y ∉ excludedSchemas) :
    ∀ x ∈ made, schemaOf x ∉ excludedSchemas := by
  intro x hx
  have key : (schemaOf x, name x) ∈ made.map fun x => (schemaOf x, name x) :=
    List.mem_map_of_mem hx
  rw [keys] at key
  obtain ⟨y, hy, same⟩ := List.mem_map.mp key
  exact (Prod.mk.inj same).1 ▸ each y hy

namespace Objects.MadeFrom

variable {l : Listing} {o : Objects} {files : List Package.File}

theorem tableType_not_excluded (h : o.MadeFrom l) :
    ∀ t ∈ o.tableTypes, t.schema ∉ excludedSchemas :=
  not_excluded_of_keys h.tableTypes_keys fun _ he => of_decide_eq_true (List.mem_filter.mp he).2

theorem command_not_excluded (h : o.MadeFrom l) :
    ∀ c ∈ o.storedProcedures ++ o.functions ++ o.tableGetters, c.schema ∉ excludedSchemas := by
  simp only [List.forall_mem_append]
  refine ⟨⟨?_, ?_⟩, ?_⟩
  · exact not_excluded_of_keys h.storedProcedures_keys fun _ he =>
      (of_decide_eq_true (List.mem_filter.mp he).2).1
  · exact not_excluded_of_keys h.functions_keys fun _ he =>
      (of_decide_eq_true (List.mem_filter.mp he).2).1
  · exact not_excluded_of_keys h.tableGetters_keys fun _ he =>
      (of_decide_eq_true (List.mem_filter.mp he).2).1

/-- No bundle is one of an excluded schema. -/
theorem schema_not_excluded (h : o.MadeFrom l) {b : Bundle} (hb : b ∈ o.bundles) :
    b.schema ∉ excludedSchemas := by
  rcases h.accounted.nonempty b hb with some | some
  · obtain ⟨t, ht⟩ := List.exists_mem_of_ne_nil _ some
    obtain ⟨made, own⟩ := (Bundle.mem_tableTypes hb).mp ht
    exact own ▸ h.tableType_not_excluded t made
  · obtain ⟨c, hc⟩ := List.exists_mem_of_ne_nil _ some
    obtain ⟨made, own⟩ := (Bundle.mem_commands hb).mp hc
    exact own ▸ h.command_not_excluded c made

/-- A table type of the listing that takes part has its class in the bundle of its schema. -/
theorem exists_tableType (h : o.MadeFrom l) {e : TableTypeEntry} (he : e ∈ l.tableTypes)
    (kept : e.schema ∉ excludedSchemas) :
    ∃ b ∈ o.bundles, b.schema = e.schema ∧
      ∃ t ∈ b.tableTypes, t.schema = e.schema ∧ t.name = e.name := by
  have key : (e.schema, e.name) ∈ l.keptTableTypes.map fun e => (e.schema, e.name) :=
    List.mem_map_of_mem (List.mem_filter.mpr ⟨he, decide_eq_true kept⟩)
  rw [← h.tableTypes_keys] at key
  obtain ⟨t, ht, same⟩ := List.mem_map.mp key
  obtain ⟨schema, name⟩ := Prod.mk.inj same
  obtain ⟨b, hb, ht⟩ := Bundle.exists_mem_tableTypes ht
  exact ⟨b, hb, ((Bundle.mem_tableTypes hb).mp ht).2.symm.trans schema, t, ht, schema, name⟩

theorem not_hasModule (h : o.MadeFrom l) (rendered : Package.ofBundles o.bundles = .ok files)
    {s : String} (excluded : s ∈ excludedSchemas) : ¬ Package.HasModule files s := by
  intro has
  rcases (Package.names_ofBundles rendered).mp has with init | ⟨b, hb, same⟩
  · have other : ∀ s ∈ excludedSchemas, s ++ ".py" ≠ "__init__.py" := by decide +kernel
    exact other s excluded init
  · have schema : s = b.schema := (String.append_left_inj _).mp same
    exact h.schema_not_excluded hb (schema ▸ excluded)

theorem defines (h : o.MadeFrom l) (rendered : Package.ofBundles o.bundles = .ok files)
    {e : TableTypeEntry} (he : e ∈ l.tableTypes) (kept : e.schema ∉ excludedSchemas) :
    Package.Defines files e.schema e.name := by
  obtain ⟨b, hb, own, t, ht, schema, name⟩ := h.exists_tableType he kept
  obtain ⟨lines, module⟩ := Bundle.exists_render_ok (h.isCallable b hb)
  have file := Package.mem_ofBundles rendered h.accounted.nodup hb module
  rw [own] at file
  exact ⟨lines, t, file, schema, name, Bundle.tableType_infix module ht⟩

theorem defines_iff (h : o.MadeFrom l) (rendered : Package.ofBundles o.bundles = .ok files)
    {e : TableTypeEntry} (he : e ∈ l.tableTypes) :
    Package.Defines files e.schema e.name ↔ e.schema ∉ excludedSchemas :=
  ⟨fun defined excluded => h.not_hasModule rendered excluded defined.hasModule,
    h.defines rendered he⟩

theorem hasModule_iff (h : o.MadeFrom l) (rendered : Package.ofBundles o.bundles = .ok files)
    {e : TableTypeEntry} (he : e ∈ l.tableTypes) :
    Package.HasModule files e.schema ↔ e.schema ∉ excludedSchemas :=
  ⟨fun has excluded => h.not_hasModule rendered excluded has,
    fun kept => (h.defines rendered he kept).hasModule⟩

end Objects.MadeFrom

/-- Of the imports and references in a package, exactly those into excluded schemas lead nowhere. -/
structure ResolvesUnlessExcluded (bundles : List Bundle) (files : List Package.File) : Prop where
  /-- A schema that is imported has a file. -/
  imports : ∀ b ∈ bundles, ∀ lines, b.render = .ok lines → ∀ s, importLine s ∈ lines →
    (Package.HasModule files s ↔ s ∉ excludedSchemas)
  /-- A table type that is referred to has a class in the module of its schema. -/
  references : ∀ b ∈ bundles, ∀ c ∈ b.commands, ∀ p ∈ c.parameters, ∀ name owner,
    p.type = .table name (some owner) →
      (Package.Defines files owner name ↔ owner ∉ excludedSchemas)

/-- The table types of the parameters are among those that are listed. -/
def ParametersListed (bundles : List Bundle) (entries : List TableTypeEntry) : Prop :=
  ∀ b ∈ bundles, ∀ c ∈ b.commands, ∀ p ∈ c.parameters, p.type.isTable = true →
    ∃ e ∈ entries, p.type = .table e.name (some e.schema)

section

variable {σ : Type} {source : Source σ} {state : σ} {bundles : List Bundle} {t u : Traced σ}
  {entries : List TableTypeEntry}

/-- If every table type of a parameter is one that the catalog lists, then an import has a file, and
a reference has a class where it points to, exactly if the schema of the table type is not excluded.
-/
theorem introspect_resolves_iff (run : (introspect source).start state = (.ok bundles, t))
    (enumerated : (enumerateTableTypes source).start state = (.ok entries, u))
    (listed : ParametersListed bundles entries) :
    ∃ files, Package.ofBundles bundles = .ok files ∧ ResolvesUnlessExcluded bundles files := by
  rw [Run.start_eq_ending] at run enumerated
  obtain ⟨l, o, ⟨v, read⟩, _, made, rfl⟩ := introspect_enumerated_ok run
  rw [enumerated] at read
  obtain rfl : entries = l.tableTypes := by
    cases read
    rfl
  have owners : ∀ b ∈ o.bundles, ∀ c ∈ b.commands, ∀ p ∈ c.parameters, ∀ name owner,
      p.type = .table name (some owner) → ∃ e ∈ l.tableTypes, e.name = name ∧ e.schema = owner := by
    intro b hb c hc p hp name owner type
    obtain ⟨e, he, same⟩ := listed b hb c hc p hp (by rw [type]; rfl)
    rw [type] at same
    cases same
    exact ⟨e, he, rfl, rfl⟩
  obtain ⟨files, rendered⟩ := Package.exists_ofBundles_ok made.isCallable
  refine ⟨files, rendered, ?_, ?_⟩
  · intro b hb lines module s imported
    obtain ⟨c, hc, p, hp, foreign⟩ :=
      Bundle.mem_foreignSchemas.mp (Bundle.mem_foreignSchemas_of_import module imported)
    obtain ⟨name, type⟩ := SqlType.eq_table_of_foreignOwner? foreign
    obtain ⟨e, he, rfl, rfl⟩ := owners b hb c hc p hp name s type
    exact made.hasModule_iff rendered he
  · intro b hb c hc p hp name owner type
    obtain ⟨e, he, rfl, rfl⟩ := owners b hb c hc p hp name owner type
    exact made.defines_iff rendered he

theorem parametersListed_shop :
    ParametersListed Memory.shopObjects.bundles Memory.shop.tableTypes := by
  have listed : ∀ c ∈ Memory.shopObjects.storedProcedures ++ Memory.shopObjects.functions ++
      Memory.shopObjects.tableGetters, ∀ p ∈ c.parameters, p.type.isTable = true →
        ∃ e ∈ Memory.shop.tableTypes, p.type = .table e.name (some e.schema) := by
    decide
  intro b hb c hc
  exact listed c ((Bundle.mem_commands hb).mp hc).1

/-- In the shop a reference crosses schemas, and leads to a class. -/
theorem introspect_resolves_iff_shop : ∃ bundles t entries u files,
    (introspect Memory.shop.source).start [] = (.ok bundles, t) ∧
      (enumerateTableTypes Memory.shop.source).start [] = (.ok entries, u) ∧
      ParametersListed bundles entries ∧ Package.ofBundles bundles = .ok files ∧
      ResolvesUnlessExcluded bundles files ∧ Package.Defines files "dbo" "ids" := by
  obtain ⟨t, run⟩ := Memory.exists_shop_run
  have enumerated : (enumerateTableTypes Memory.shop.source).start [] =
      (.ok Memory.shop.tableTypes, _) :=
    rfl
  obtain ⟨files, rendered, resolves⟩ :=
    introspect_resolves_iff run enumerated parametersListed_shop
  obtain ⟨b, hb, hc⟩ := exists_shopTotal_bundle
  refine ⟨_, t, _, _, files, run, enumerated, parametersListed_shop, rendered, resolves, ?_⟩
  exact (resolves.references b hb _ hc _ (List.head_mem (List.cons_ne_nil _ _)) "ids" "dbo" rfl).mpr
    (by decide)

def archiveEntry : ProcedureEntry :=
  ⟨"dbo", "Restore", [⟨"@keys", "ids", true, some "old", none, 1⟩]⟩

/-- A catalog in which a procedure takes a table of an excluded schema. -/
def archivingCatalog : Memory where
  tableTypes := [⟨"old", "ids", [⟨"id", "int", false, 1⟩]⟩]
  functions := []
  procedures := [archiveEntry]
  tables := []
  results := []

def restore : Command :=
  ⟨"dbo", "Restore", "[dbo].[Restore]", [⟨"keys", .table "ids" (some "old"), false, "@keys"⟩],
    .nothing, .storedProcedure⟩

theorem archivingCatalog_objects : archivingCatalog.objects = .ok ⟨[], [], [restore], []⟩ := by
  have kept : archivingCatalog.procedures.filter isRelevantProcedure = [archiveEntry] := by
    decide +kernel
  rw [Memory.objects, kept]
  rfl

theorem introspect_dangles : ∃ bundles t files,
    (introspect archivingCatalog.source).start [] = (.ok bundles, t) ∧
      ParametersListed bundles archivingCatalog.tableTypes ∧
      Package.ofBundles bundles = .ok files ∧
      (∃ b ∈ bundles, restore ∈ b.commands ∧
        ∃ lines, b.render = .ok lines ∧ importLine "old" ∈ lines) ∧
      ¬ Package.HasModule files "old" ∧ ¬ Package.Defines files "old" "ids" := by
  have made := Memory.objects_madeFrom archivingCatalog_objects
  obtain ⟨t, run, _⟩ := archivingCatalog.exists_introspect_start
  rw [archivingCatalog_objects] at run
  obtain ⟨files, rendered⟩ := Package.exists_ofBundles_ok made.isCallable
  have noModule := made.not_hasModule rendered (s := "old") (by decide)
  refine ⟨_, t, files, run, ?_, rendered, ?_, noModule, fun defined => noModule defined.hasModule⟩
  · have listed : ∀ p ∈ restore.parameters, p.type.isTable = true →
        ∃ e ∈ archivingCatalog.tableTypes, p.type = .table e.name (some e.schema) := by
      decide
    intro b hb c hc
    obtain rfl : c = restore := by simpa using ((Bundle.mem_commands hb).mp hc).1
    exact listed
  · obtain ⟨b, hb, hc⟩ : ∃ b ∈ (Objects.mk [] [] [restore] []).bundles, restore ∈ b.commands :=
      Bundle.exists_mem_commands (by simp)
    have own : restore.schema = b.schema := ((Bundle.mem_commands hb).mp hc).2
    obtain ⟨lines, module⟩ := Bundle.exists_render_ok (made.isCallable b hb)
    have foreign : "old" ∈ b.foreignSchemas :=
      Bundle.mem_foreignSchemas.mpr
        ⟨restore, hc, _, List.head_mem (List.cons_ne_nil _ _), own ▸ by decide⟩
    have imported := List.mem_map_of_mem (f := importLine) foreign
    rw [← Bundle.imports_of_render module] at imported
    exact ⟨b, hb, hc, lines, module, (List.mem_filter.mp imported).1⟩

end

end Introspection

end SqlBindings
