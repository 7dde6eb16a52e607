import Mathlib.Data.List.Infix
import SqlBindings.Proofs.Rendering
import SqlBindings.Proofs.Sorting

namespace SqlBindings

namespace Package

variable {file other : File} {files : List File}

theorem mem_insert_self (file : File) (files : List File) : file ∈ insert file files := by
  induction files with
  | nil => exact List.mem_singleton_self file
  | cons first rest ih =>
    rw [insert]
    split
    · exact List.mem_cons_self
    · exact List.mem_cons_of_mem _ ih

/-- A file of another name stays. -/
theorem mem_insert_of_mem (mem : other ∈ files) (ne : other.1 ≠ file.1) :
    other ∈ insert file files := by
  induction files with
  | nil => cases mem
  | cons first rest ih =>
    rw [insert]
    rcases List.mem_cons.mp mem with rfl | mem
    · rw [if_neg ne]
      exact List.mem_cons_self
    · split
      · exact List.mem_cons_of_mem _ mem
      · exact List.mem_cons_of_mem _ (ih mem)

theorem mem_names_insert {name : String} :
    name ∈ (insert file files).map Prod.fst ↔ name = file.1 ∨ name ∈ files.map Prod.fst := by
  induction files with
  | nil => simp [insert]
  | cons first rest ih =>
    rw [insert]
    split
    · simp_all
    · simp only [List.map_cons, List.mem_cons, ih]
      tauto

theorem mem_names_foldl {modules : List File} {name : String} :
    name ∈ (modules.foldl (fun files file => insert file files) files).map Prod.fst ↔
      name ∈ files.map Prod.fst ∨ name ∈ modules.map Prod.fst := by
  induction modules generalizing files with
  | nil => simp
  | cons file modules ih =>
    rw [List.foldl_cons, ih, mem_names_insert, List.map_cons, List.mem_cons]
    tauto

theorem mem_foldl_of_mem {modules : List File} (mem : file ∈ files)
    (fresh : file.1 ∉ modules.map Prod.fst) :
    file ∈ modules.foldl (fun files file => insert file files) files := by
  induction modules generalizing files with
  | nil => exact mem
  | cons first modules ih =>
    rw [List.map_cons, List.mem_cons, not_or] at fresh
    exact ih (mem_insert_of_mem mem fresh.1) fresh.2

/-- Of modules with distinct names none is replaced by a later one. -/
theorem mem_foldl_insert {modules : List File} (distinct : (modules.map Prod.fst).Nodup)
    (mem : file ∈ modules) : file ∈ modules.foldl (fun files file => insert file files) files := by
  induction modules generalizing files with
  | nil => cases mem
  | cons first modules ih =>
    rw [List.map_cons, List.nodup_cons] at distinct
    rw [List.foldl_cons]
    rcases List.mem_cons.mp mem with rfl | mem
    · exact mem_foldl_of_mem (mem_insert_self _ _) distinct.1
    · exact ih distinct.2 mem

variable {bundles : List Bundle}

/-- The modules from which a package is put together. -/
theorem ofBundles_ok (h : ofBundles bundles = .ok files) :
    ∃ modules, files = modules.foldl (fun files file => insert file files) [initFile] ∧
      List.Forall₂ (fun (b : Bundle) file => ∃ lines, b.render = .ok lines ∧
        file = (b.schema ++ ".py", fileText lines))
        (Bundle.sortOn Bundle.schema bundles) modules := by
  obtain ⟨modules, made, h⟩ := bind_eq_ok.mp h
  cases h
  refine ⟨modules, rfl, (mapM_eq_ok.mp made).imp ?_⟩
  intro b file h
  obtain ⟨lines, rendered, h⟩ := bind_eq_ok.mp h
  cases h
  exact ⟨lines, rendered, rfl⟩

theorem names_ofBundles (h : ofBundles bundles = .ok files) {name : String} :
    name ∈ files.map Prod.fst ↔ name = "__init__.py" ∨ ∃ b ∈ bundles, name = b.schema ++ ".py" := by
  obtain ⟨modules, rfl, made⟩ := ofBundles_ok h
  have names : modules.map Prod.fst =
      (Bundle.sortOn Bundle.schema bundles).map (·.schema ++ ".py") :=
    map_eq_of_forall₂ (fun _ _ ⟨_, _, file⟩ => file ▸ rfl) made
  rw [mem_names_foldl, names]
  simp only [initFile, List.map_cons, List.map_nil, List.mem_singleton, List.mem_map,
    Bundle.mem_sortOn, eq_comm]

theorem mem_ofBundles (h : ofBundles bundles = .ok files)
    (distinct : (bundles.map Bundle.schema).Nodup) {b : Bundle} (hb : b ∈ bundles)
    {lines : List String} (rendered : b.render = .ok lines) :
    (b.schema ++ ".py", fileText lines) ∈ files := by
  obtain ⟨modules, rfl, made⟩ := ofBundles_ok h
  have names : modules.map Prod.fst =
      ((Bundle.sortOn Bundle.schema bundles).map Bundle.schema).map (· ++ ".py") := by
    rw [List.map_map]
    exact map_eq_of_forall₂ (fun _ _ ⟨_, _, file⟩ => file ▸ rfl) made
  refine mem_foldl_insert ?_ ?_
  · rw [names]
    refine List.Nodup.map (fun s t same => (String.append_left_inj _).mp same) ?_
    exact ((Bundle.sortOn_perm Bundle.schema bundles).map _).symm.nodup distinct
  · obtain ⟨file, mem, lines', rendered', rfl⟩ := exists_of_forall₂ (List.Forall₂.flip made)
      (Bundle.mem_sortOn.mpr hb)
    rw [rendered] at rendered'
    cases rendered'
    exact mem

end Package

namespace Bundle

theorem infix_titled (heading : String) {blocks : List (List String)} {block : List String}
    (mem : block ∈ blocks) : block <:+: titled heading blocks := by
  have here : ["", ""] ++ block <:+: blocks.flatMap (["", ""] ++ ·) :=
    List.infix_of_mem_flatten (List.mem_map_of_mem mem)
  rw [titled, if_neg (by simpa using List.ne_nil_of_mem mem)]
  exact (List.suffix_append _ _).isInfix.trans (here.trans (List.suffix_append _ _).isInfix)

/-- The class of a table type stands in the module of its bundle. -/
theorem tableType_infix {b : Bundle} {lines : List String} (rendered : b.render = .ok lines)
    {t : TableType} (ht : t ∈ b.tableTypes) : t.render <:+: lines := by
  obtain ⟨procedures, _, h⟩ := bind_eq_ok.mp rendered
  obtain ⟨functions, _, h⟩ := bind_eq_ok.mp h
  obtain ⟨getters, _, h⟩ := bind_eq_ok.mp h
  cases h
  have within : t.render <:+: titled "User-Defined Table Types" (b.tableTypes.map TableType.render) :=
    infix_titled _ (List.mem_map_of_mem ht)
  -- the section of the table types comes after the imports and before three other sections
  refine .trans ?_ (List.prefix_append _ _).isInfix
  refine .trans ?_ (List.prefix_append _ _).isInfix
  refine .trans ?_ (List.prefix_append _ _).isInfix
  exact within.trans (List.suffix_append _ _).isInfix

end Bundle

end SqlBindings
