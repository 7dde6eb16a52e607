import SqlBindings.Proofs.CatalogNames
import SqlBindings.Proofs.PackageFiles
import SqlBindings.Proofs.ReturnedTypes

/-! The file that makes a package of the modules stands first. A module whose file has the same name
takes its place, and no schema but `__init__` has such a module. -/

namespace SqlBindings

namespace Package

/-- Each bundle has a file of its own, and so has the package. -/
structure KeepsModules (bundles : List Bundle) (files : List File) : Prop where
  length_eq : files.length = bundles.length + 1
  init : files.head? = some ("__init__.py", "# This code is auto-generated\n")
  /-- The modules follow in the order of their schemas. -/
  names : files.tail.map Prod.fst = bundles.map (·.schema ++ ".py")
  ascending : bundles.Pairwise fun a b => a.schema < b.schema
  module : ∀ b ∈ bundles, ∃ lines, b.render = .ok lines ∧
    (b.schema ++ ".py", "\n".intercalate lines ++ "\n") ∈ files
  distinct : (files.map Prod.fst).Nodup

section

variable {file : File} {files : List File} {bundles : List Bundle}

theorem insert_of_not_mem (new : file.1 ∉ files.map Prod.fst) :
    insert file files = files ++ [file] := by
  induction files with
  | nil => rfl
  | cons first rest ih =>
    rw [List.map_cons, List.mem_cons, not_or] at new
    rw [insert, if_neg (Ne.symm new.1), ih new.2, List.cons_append]

theorem foldl_insert_of_nodup {modules : List File}
    (distinct : ((files ++ modules).map Prod.fst).Nodup) :
    modules.foldl (fun files file => insert file files) files = files ++ modules := by
  induction modules generalizing files with
  | nil => simp
  | cons file modules ih =>
    have split : files ++ file :: modules = files ++ [file] ++ modules := by simp
    have new : file.1 ∉ files.map Prod.fst := by
      rw [List.map_append, List.map_cons] at distinct
      exact fun mem => (List.disjoint_of_nodup_append distinct) mem List.mem_cons_self
    rw [split] at distinct ⊢
    rw [List.foldl_cons, insert_of_not_mem new]
    exact ih distinct

/-- A file that replaces another one has its name. -/
theorem names_insert_of_mem (there : file.1 ∈ files.map Prod.fst) :
    (insert file files).map Prod.fst = files.map Prod.fst := by
  induction files with
  | nil => cases there
  | cons first rest ih =>
    rw [insert]
    by_cases here : first.1 = file.1
    · rw [if_pos here, List.map_cons, List.map_cons, here]
    · have later := (List.mem_cons.mp there).resolve_left (Ne.symm here)
      rw [if_neg here, List.map_cons, List.map_cons, ih later]

theorem nodup_insert (distinct : (files.map Prod.fst).Nodup) :
    ((insert file files).map Prod.fst).Nodup := by
  by_cases there : file.1 ∈ files.map Prod.fst
  · rw [names_insert_of_mem there]
    exact distinct
  · rw [insert_of_not_mem there, List.map_append, List.map_singleton, ← List.concat_eq_append]
    exact distinct.concat there

theorem nodup_foldl_insert {modules : List File} (distinct : (files.map Prod.fst).Nodup) :
    ((modules.foldl (fun files file => insert file files) files).map Prod.fst).Nodup := by
  induction modules generalizing files with
  | nil => exact distinct
  | cons file modules ih => exact ih (nodup_insert distinct)

theorem nodup_ofBundles (h : ofBundles bundles = .ok files) : (files.map Prod.fst).Nodup := by
  obtain ⟨modules, rfl, _⟩ := ofBundles_ok h
  exact nodup_foldl_insert (List.nodup_singleton _)

theorem fileName_eq_init {schema : String} :
    schema ++ ".py" = "__init__.py" ↔ schema = "__init__" := by
  change schema ++ ".py" = "__init__" ++ ".py" ↔ _
  exact String.append_left_inj ".py"

/-- Where no module is called like the file of the package, the files are that one and then the
modules, in the order of the bundles. -/
theorem ofBundles_eq (h : ofBundles bundles = .ok files)
    (ascending : bundles.Pairwise fun a b => a.schema < b.schema)
    (others : ∀ b ∈ bundles, b.schema ≠ "__init__") :
    ∃ modules, files = initFile :: modules ∧
      List.Forall₂ (fun (b : Bundle) file => ∃ lines, b.render = .ok lines ∧
        file = (b.schema ++ ".py", fileText lines)) bundles modules := by
  obtain ⟨modules, rfl, made⟩ := ofBundles_ok h
  rw [Bundle.sortOn_eq_self (ascending.imp fun lt => String.not_lt.mp (String.lt_asymm lt))] at made
  refine ⟨modules, foldl_insert_of_nodup ?_, made⟩
  have names : modules.map Prod.fst = (bundles.map Bundle.schema).map (· ++ ".py") := by
    rw [List.map_map]
    exact map_eq_of_forall₂ (fun _ _ ⟨_, _, file⟩ => file ▸ rfl) made
  have schemas : (bundles.map Bundle.schema).Nodup :=
    List.pairwise_map.mpr (ascending.imp fun lt => String.ne_of_lt lt)
  rw [List.singleton_append, List.map_cons, names, List.nodup_cons]
  constructor
  · intro mem
    obtain ⟨s, hs, same⟩ := List.mem_map.mp mem
    obtain ⟨b, hb, rfl⟩ := List.mem_map.mp hs
    exact others b hb (fileName_eq_init.mp same)
  · exact schemas.map fun s t same => (String.append_left_inj _).mp same

theorem keepsModules_of_ascending (h : ofBundles bundles = .ok files)
    (ascending : bundles.Pairwise fun a b => a.schema < b.schema)
    (others : ∀ b ∈ bundles, b.schema ≠ "__init__") : KeepsModules bundles files := by
  have distinct := nodup_ofBundles h
  obtain ⟨modules, rfl, made⟩ := ofBundles_eq h ascending others
  refine ⟨?_, rfl, ?_, ascending, ?_, distinct⟩
  · rw [List.length_cons, made.length_eq]
  · exact map_eq_of_forall₂ (fun _ _ ⟨_, _, file⟩ => file ▸ rfl) made
  · intro b hb
    obtain ⟨file, mem, lines, rendered, rfl⟩ := exists_of_forall₂ made.flip hb
    exact ⟨lines, rendered, List.mem_cons_of_mem _ mem⟩

/-- With a module that is called like the file of the package there are no more files than modules.
-/
theorem length_le_of_init (h : ofBundles bundles = .ok files) {b : Bundle} (hb : b ∈ bundles)
    (init : b.schema = "__init__") : files.length ≤ bundles.length := by
  have sub : files.map Prod.fst ⊆ bundles.map (·.schema ++ ".py") := by
    intro name mem
    rcases (names_ofBundles h).mp mem with rfl | ⟨b', hb', rfl⟩
    · exact List.mem_map.mpr ⟨b, hb, fileName_eq_init.mpr init⟩
    · exact List.mem_map_of_mem hb'
  simpa using (List.subperm_of_subset (nodup_ofBundles h) sub).length_le

theorem keepsModules_iff (h : ofBundles bundles = .ok files)
    (ascending : bundles.Pairwise fun a b => a.schema < b.schema) :
    KeepsModules bundles files ↔ ∀ b ∈ bundles, b.schema ≠ "__init__" := by
  refine ⟨fun keeps b hb init => ?_, keepsModules_of_ascending h ascending⟩
  have short := length_le_of_init h hb init
  have full := keeps.length_eq
  omega

end

end Package

namespace Introspection

open Catalog

section

variable {σ : Type} {source : Source σ} {state : σ} {bundles : List Bundle} {t : Traced σ}

/-- Whatever a catalog holds, the package made from it has a file for each module and one of its
own, exactly if no schema of a bundle is called `__init__`. -/
theorem introspect_keepsModules_iff (run : (introspect source).start state = (.ok bundles, t)) :
    ∃ files, Package.ofBundles bundles = .ok files ∧
      (Package.KeepsModules bundles files ↔ ∀ b ∈ bundles, b.schema ≠ "__init__") := by
  rw [Run.start_eq_ending] at run
  obtain ⟨l, o, _, made, rfl⟩ := introspect_ok run
  obtain ⟨files, rendered⟩ := Package.exists_ofBundles_ok made.isCallable
  exact ⟨files, rendered, Package.keepsModules_iff rendered (Bundle.group_ascending _ _ _ _)⟩

end

/-- The package of the shop is whole. -/
theorem introspect_keepsModules_iff_shop : ∃ bundles t files,
    (introspect Memory.shop.source).start [] = (.ok bundles, t) ∧
      Package.ofBundles bundles = .ok files ∧ Package.KeepsModules bundles files := by
  obtain ⟨t, run⟩ := Memory.exists_shop_run
  obtain ⟨files, rendered, keeps⟩ := introspect_keepsModules_iff run
  have others : ∀ schema ∈ ["sales", "dbo"], schema ≠ "__init__" := by decide
  exact ⟨_, t, files, run, rendered, keeps.mpr fun b hb => others _ (schema_of_shop hb)⟩

/-- A catalog with a table type in a schema that is called like the file of the package. -/
def initCatalog : Memory where
  tableTypes := [⟨"__init__", "ids", [⟨"id", "int", false, 1⟩]⟩]
  functions := []
  procedures := []
  tables := []
  results := []

def initObjects : Objects where
  tableTypes := [⟨"__init__", "ids", [⟨"id", .plain .int32, false, "@id"⟩]⟩]
  functions := []
  storedProcedures := []
  tableGetters := []

theorem initCatalog_objects : initCatalog.objects = .ok initObjects := rfl

theorem initObjects_schemas : initObjects.bundles.map Bundle.schema = ["__init__"] := by
  have one : Bundle.schemas initObjects.tableTypes [] [] [] = ["__init__"] := by decide
  rw [Objects.bundles, Bundle.group_schemas]
  exact (congrArg _ one).trans (Bundle.sortOn_eq_self (List.pairwise_singleton _ _))

/-- Its module takes the place of the file that makes the package. -/
theorem introspect_losesInit : ∃ bundles t files,
    (introspect initCatalog.source).start [] = (.ok bundles, t) ∧
      Package.ofBundles bundles = .ok files ∧ ¬ Package.KeepsModules bundles files ∧
      bundles.length = 1 ∧ files.length = 1 := by
  have made := Memory.objects_madeFrom initCatalog_objects
  obtain ⟨t, run, _⟩ := initCatalog.exists_introspect_start
  rw [initCatalog_objects] at run
  obtain ⟨files, rendered⟩ := Package.exists_ofBundles_ok made.isCallable
  have one : initObjects.bundles.length = 1 := by
    rw [← List.length_map Bundle.schema, initObjects_schemas, List.length_singleton]
  obtain ⟨b, hb⟩ := List.length_eq_one_iff.mp one
  have init : b.schema = "__init__" := by
    have schemas := initObjects_schemas
    rw [hb] at schemas
    exact List.head_eq_of_cons_eq schemas
  have mem : b ∈ initObjects.bundles := hb ▸ List.mem_singleton_self b
  have short := Package.length_le_of_init rendered mem init
  have some := List.length_pos_of_mem ((Package.names_ofBundles rendered).mpr (.inl rfl))
  rw [List.length_map] at some
  refine ⟨_, t, files, run, rendered, fun keeps => ?_, one, by omega⟩
  have full := keeps.length_eq
  omega

end Introspection

end SqlBindings
