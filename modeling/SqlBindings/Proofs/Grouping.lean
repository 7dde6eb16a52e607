import Mathlib.Data.List.Perm.Basic
import SqlBindings.Proofs.Sorting

namespace SqlBindings.Bundle

section

variable {T : List TableType} {P F G : List Command} {b : Bundle}

theorem mem_schemas {s : String} :
    s ∈ schemas T P F G ↔ (∃ t ∈ T, t.schema = s) ∨ ∃ c ∈ P ++ F ++ G, c.schema = s := by
  simp only [schemas, List.mem_eraseDups, List.mem_append, List.mem_map]

theorem mem_group : b ∈ group T P F G ↔ ∃ s ∈ schemas T P F G, ofSchema T P F G s = b := by
  simp only [group, List.mem_map, mem_sortOn]

theorem mem_tableTypes (hb : b ∈ group T P F G) {t : TableType} :
    t ∈ b.tableTypes ↔ t ∈ T ∧ t.schema = b.schema := by
  obtain ⟨s, _, rfl⟩ := mem_group.mp hb
  simp [ofSchema, make]

theorem mem_storedProcedures (hb : b ∈ group T P F G) {c : Command} :
    c ∈ b.storedProcedures ↔ c ∈ P ∧ c.schema = b.schema := by
  obtain ⟨s, _, rfl⟩ := mem_group.mp hb
  simp [ofSchema, make]

theorem mem_functions (hb : b ∈ group T P F G) {c : Command} :
    c ∈ b.functions ↔ c ∈ F ∧ c.schema = b.schema := by
  obtain ⟨s, _, rfl⟩ := mem_group.mp hb
  simp [ofSchema, make]

theorem mem_tableGetters (hb : b ∈ group T P F G) {c : Command} :
    c ∈ b.tableGetters ↔ c ∈ G ∧ c.schema = b.schema := by
  obtain ⟨s, _, rfl⟩ := mem_group.mp hb
  simp [ofSchema, make]

theorem mem_commands (hb : b ∈ group T P F G) {c : Command} :
    c ∈ b.commands ↔ c ∈ P ++ F ++ G ∧ c.schema = b.schema := by
  simp only [commands, List.mem_append, mem_storedProcedures hb, mem_functions hb,
    mem_tableGetters hb, or_and_right]

theorem cases_of_mem_commands (hb : b ∈ group T P F G) {c : Command} (hc : c ∈ b.commands) :
    c ∈ P ∨ c ∈ F ∨ c ∈ G := by
  have mem := ((mem_commands hb).mp hc).1
  rw [List.mem_append, List.mem_append] at mem
  exact or_assoc.mp mem

theorem exists_mem_commands {c : Command} (hc : c ∈ P ++ F ++ G) :
    ∃ b ∈ group T P F G, c ∈ b.commands := by
  have hs : c.schema ∈ schemas T P F G := mem_schemas.mpr (.inr ⟨c, hc, rfl⟩)
  have hb := mem_group.mpr ⟨c.schema, hs, rfl⟩
  exact ⟨_, hb, (mem_commands hb).mpr ⟨hc, rfl⟩⟩

theorem exists_mem_tableTypes {t : TableType} (ht : t ∈ T) :
    ∃ b ∈ group T P F G, t ∈ b.tableTypes := by
  have hs : t.schema ∈ schemas T P F G := mem_schemas.mpr (.inl ⟨t, ht, rfl⟩)
  have hb := mem_group.mpr ⟨t.schema, hs, rfl⟩
  exact ⟨_, hb, (mem_tableTypes hb).mpr ⟨ht, rfl⟩⟩

theorem group_nonempty (hb : b ∈ group T P F G) : b.tableTypes ≠ [] ∨ b.commands ≠ [] := by
  obtain ⟨s, hs, rfl⟩ := mem_group.mp hb
  rcases mem_schemas.mp hs with ⟨t, ht, hts⟩ | ⟨c, hc, hcs⟩
  · exact .inl (List.ne_nil_of_mem ((mem_tableTypes hb).mpr ⟨ht, hts⟩))
  · exact .inr (List.ne_nil_of_mem ((mem_commands hb).mpr ⟨hc, hcs⟩))

theorem group_schemas (T : List TableType) (P F G : List Command) :
    (group T P F G).map Bundle.schema = sortOn id (schemas T P F G) := by
  rw [group, List.map_map]
  exact List.map_id _

theorem schemas_nodup (T : List TableType) (P F G : List Command) : (schemas T P F G).Nodup :=
  nodup_eraseDups _

theorem group_schemas_nodup (T : List TableType) (P F G : List Command) :
    ((group T P F G).map Bundle.schema).Nodup := by
  rw [group_schemas]
  exact (sortOn_perm id _).symm.nodup (schemas_nodup T P F G)

/-- The bundles come in the order of their schemas. -/
theorem group_ascending (T : List TableType) (P F G : List Command) :
    (group T P F G).Pairwise fun a b => a.schema < b.schema := by
  have distinct : ((schemas T P F G).map id).Nodup := by
    rw [List.map_id]
    exact schemas_nodup T P F G
  have ascending := sortOn_strict distinct
  rw [← group_schemas, List.pairwise_map] at ascending
  exact ascending

/-- A category whose part in each bundle is what belongs to the schema of the bundle, in the order of
the names, is the whole of it. -/
theorem category_perm {α : Type} {schemaOf name : α → String} {category : Bundle → List α}
    {entries : List α}
    (parts : ∀ s, category (ofSchema T P F G s) = sortOn name (entries.filter (schemaOf · == s)))
    (covered : ∀ x ∈ entries, schemaOf x ∈ schemas T P F G) :
    ((group T P F G).flatMap category).Perm entries := by
  have keys : (sortOn id (schemas T P F G)).Nodup :=
    (sortOn_perm id _).symm.nodup (schemas_nodup T P F G)
  rw [group, List.flatMap_map]
  have unsorted := List.Perm.flatMap_left (sortOn id (schemas T P F G)) fun s _ =>
    parts s ▸ sortOn_perm name (entries.filter (schemaOf · == s))
  exact unsorted.trans (flatMap_filter_perm keys fun x hx => mem_sortOn.mpr (covered x hx))

theorem tableTypes_perm (T : List TableType) (P F G : List Command) :
    ((group T P F G).flatMap Bundle.tableTypes).Perm T :=
  category_perm (fun _ => rfl) fun t ht => mem_schemas.mpr (.inl ⟨t, ht, rfl⟩)

theorem storedProcedures_perm (T : List TableType) (P F G : List Command) :
    ((group T P F G).flatMap Bundle.storedProcedures).Perm P :=
  category_perm (fun _ => rfl) fun c hc => mem_schemas.mpr (.inr ⟨c, by simp [hc], rfl⟩)

theorem functions_perm (T : List TableType) (P F G : List Command) :
    ((group T P F G).flatMap Bundle.functions).Perm F :=
  category_perm (fun _ => rfl) fun c hc => mem_schemas.mpr (.inr ⟨c, by simp [hc], rfl⟩)

theorem tableGetters_perm (T : List TableType) (P F G : List Command) :
    ((group T P F G).flatMap Bundle.tableGetters).Perm G :=
  category_perm (fun _ => rfl) fun c hc => mem_schemas.mpr (.inr ⟨c, by simp [hc], rfl⟩)

end

/-- Of objects known by schema and name, those of one schema are known by their name. -/
theorem filter_names_nodup {α : Type} {schemaOf name : α → String} {xs : List α}
    (distinct : (xs.map fun x => (schemaOf x, name x)).Nodup) (s : String) :
    ((xs.filter (schemaOf · == s)).map name).Nodup := by
  refine List.Nodup.map_on ?_ (distinct.of_map.filter _)
  intro x hx y hy same
  obtain ⟨hx, hxs⟩ := List.mem_filter.mp hx
  obtain ⟨hy, hys⟩ := List.mem_filter.mp hy
  have schemas : schemaOf x = schemaOf y := (beq_iff_eq.mp hxs).trans (beq_iff_eq.mp hys).symm
  exact List.inj_on_of_nodup_map distinct hx hy (Prod.ext schemas same)

theorem sortOn_filter_eq_of_perm {α : Type} {schemaOf name : α → String} {xs ys : List α}
    (perm : xs.Perm ys) (distinct : (xs.map fun x => (schemaOf x, name x)).Nodup) (s : String) :
    sortOn name (xs.filter (schemaOf · == s)) = sortOn name (ys.filter (schemaOf · == s)) :=
  sortOn_eq_of_perm (perm.filter _) (filter_names_nodup distinct s)

/-- The order of the objects leaves no trace in the bundles. -/
theorem group_eq_of_perm {T T' : List TableType} {P P' F F' G G' : List Command}
    (permT : T.Perm T') (permP : P.Perm P') (permF : F.Perm F') (permG : G.Perm G')
    (distinctT : (T.map fun t => (t.schema, t.name)).Nodup)
    (distinctP : (P.map fun c => (c.schema, c.name)).Nodup)
    (distinctF : (F.map fun c => (c.schema, c.name)).Nodup)
    (distinctG : (G.map fun c => (c.schema, c.name)).Nodup) :
    group T P F G = group T' P' F' G' := by
  have members (s : String) : s ∈ schemas T P F G ↔ s ∈ schemas T' P' F' G' := by
    simp only [mem_schemas, permT.mem_iff, ((permP.append permF).append permG).mem_iff]
  have schemas : (schemas T P F G).Perm (schemas T' P' F' G') :=
    (List.perm_ext_iff_of_nodup (schemas_nodup T P F G) (schemas_nodup T' P' F' G')).mpr members
  have order : sortOn id (Bundle.schemas T P F G) = sortOn id (Bundle.schemas T' P' F' G') :=
    sortOn_eq_of_perm schemas (by rw [List.map_id]; exact schemas_nodup T P F G)
  have bundles : ofSchema T P F G = ofSchema T' P' F' G' := by
    funext s
    simp only [ofSchema, make, sortOn_filter_eq_of_perm permT distinctT,
      sortOn_filter_eq_of_perm permP distinctP, sortOn_filter_eq_of_perm permF distinctF,
      sortOn_filter_eq_of_perm permG distinctG]
  rw [group, group, order, bundles]

end SqlBindings.Bundle
