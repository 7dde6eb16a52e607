import SqlBindings.Proofs.Aliases
import SqlBindings.Proofs.Completeness
import SqlBindings.Proofs.ForeignSchemas

namespace SqlBindings

open Catalog

/-- The names of the classes of a module. The getters share one class. -/
def Bundle.classNames (b : Bundle) : List String :=
  b.tableTypes.map TableType.name ++ b.storedProcedures.map Command.name ++
    b.functions.map Command.name ++ if b.tableGetters = [] then [] else ["TableGetters"]

/-- The schema that owns the table type a parameter takes, if it is another one. -/
def Catalog.Parameter.foreignOwner? (schema : String) (p : Parameter) : Option String :=
  if p.isTableType then p.typeSchema.filter (· != schema) else none

namespace Introspection

def Listing.classNames (l : Listing) (schema : String) : List String :=
  (l.keptTableTypes.filter (·.schema == schema)).map (·.name) ++
    (l.keptProcedures.filter (·.schema == schema)).map (·.name) ++
    (l.keptFunctions.filter (·.schema == schema)).map (·.name) ++
    if l.keptTables.filter (·.schema == schema) = [] then [] else ["TableGetters"]

def Listing.parameters (l : Listing) (schema : String) : List Parameter :=
  (l.keptProcedures.filter (·.schema == schema)).flatMap (·.parameters) ++
    (l.keptFunctions.filter (·.schema == schema)).flatMap (·.parameters)

/-- The other schemas that own table types which the routines of a schema take. -/
def Listing.foreignSchemas (l : Listing) (schema : String) : List String :=
  (l.parameters schema).filterMap (·.foreignOwner? schema)

/-- Objects and entries that agree in schema and value have the same values in each schema. -/
theorem values_of_keys {α β γ : Type} {made : List α} {kept : List β} {schemaOf : α → String}
    {schemaOf' : β → String} {value : α → γ} {value' : β → γ}
    (keys : made.map (fun x => (schemaOf x, value x)) = kept.map fun y => (schemaOf' y, value' y))
    (schema : String) :
    (made.filter (schemaOf · == schema)).map value =
      (kept.filter (schemaOf' · == schema)).map value' := by
  have valued := congrArg (fun keys => (keys.filter (·.1 == schema)).map Prod.snd) keys
  simpa only [List.filter_map, List.map_map, Function.comp_def] using valued

theorem foreignOwner?_of_ofParameter {q : Parameter} {a : Attribute}
    (h : Attribute.ofParameter q = .ok a) (schema : String) :
    a.type.foreignOwner? schema = q.foreignOwner? schema := by
  obtain ⟨type, typed, h⟩ := bind_eq_ok.mp h
  obtain ⟨_, _, h⟩ := bind_eq_ok.mp h
  rw [Attribute.type_of_derive h]
  unfold Attribute.typeOfParameter at typed
  unfold Parameter.foreignOwner?
  split at typed
  · cases typed
    rw [if_pos ‹_›]
    rfl
  · rw [if_neg ‹_›, SqlType.foreignOwner?_of_scalar (SqlType.isTable_of_ofNative typed)]

/-- Parameters and the attributes made of them name the same schemas. -/
theorem foreignOwners_of_mapM {parameters : List Parameter} {attributes : List Attribute}
    (h : parameters.mapM Attribute.ofParameter = .ok attributes) (schema : String) :
    Attribute.foreignOwners attributes schema = parameters.filterMap (·.foreignOwner? schema) := by
  have same : attributes.map (fun a => a.type.foreignOwner? schema) =
      parameters.map (·.foreignOwner? schema) :=
    map_eq_of_forall₂ (fun q a (made : Attribute.ofParameter q = .ok a) =>
      foreignOwner?_of_ofParameter made schema) (mapM_eq_ok.mp h)
  have owners := congrArg (List.filterMap id) same
  simpa only [Attribute.foreignOwners, List.filterMap_map, Function.id_comp] using owners

namespace Objects.MadeFrom

variable {l : Listing} {o : Objects} {b : Bundle}

theorem eq_ofSchema (hb : b ∈ o.bundles) :
    b = Bundle.ofSchema o.tableTypes o.storedProcedures o.functions o.tableGetters b.schema := by
  obtain ⟨_, _, rfl⟩ := Bundle.mem_group.mp hb
  rfl

theorem classNames_perm (h : o.MadeFrom l) (hb : b ∈ o.bundles) :
    b.classNames.Perm (l.classNames b.schema) := by
  have own := eq_ofSchema hb
  generalize b.schema = schema at own ⊢
  subst own
  have getters := values_of_keys h.tableGetters_keys schema
  have none : Bundle.sortOn Command.name (o.tableGetters.filter (·.schema == schema)) = [] ↔
      l.keptTables.filter (·.schema == schema) = [] := by
    rw [← List.map_eq_nil_iff (f := TableEntry.name), ← getters, List.map_eq_nil_iff]
    exact ⟨fun empty => List.nil_perm.mp (empty ▸ Bundle.sortOn_perm _ _),
      fun empty => List.perm_nil.mp (empty ▸ Bundle.sortOn_perm _ _)⟩
  unfold Bundle.classNames Listing.classNames
  simp only [Bundle.ofSchema, Bundle.make, none]
  rw [← values_of_keys h.tableTypes_keys, ← values_of_keys h.storedProcedures_keys,
    ← values_of_keys h.functions_keys]
  exact (((Bundle.sortOn_perm _ _).map _).append ((Bundle.sortOn_perm _ _).map _)).append
    ((Bundle.sortOn_perm _ _).map _) |>.append_right _

/-- Commands are executed under their names in SQL. -/
theorem qualifiedName (h : o.MadeFrom l) :
    ∀ c ∈ o.storedProcedures ++ o.functions ++ o.tableGetters,
      c.qualifiedName = Sql.qualifiedName c.schema c.name := by
  simp only [List.forall_mem_append]
  refine ⟨⟨?_, ?_⟩, ?_⟩
  · intro c hc
    obtain ⟨_, _, _, _, _, made⟩ := exists_of_forall₂ h.storedProcedures hc
    obtain ⟨_, _, _, _, _, rfl⟩ := describedCommand_ok made
    rfl
  · intro c hc
    obtain ⟨_, _, made⟩ := exists_of_mem_mapM h.functions hc
    obtain ⟨_, _, _, _, _, _, _, rfl⟩ := functionCommand_ok made
    rfl
  · intro c hc
    obtain ⟨_, _, made⟩ := exists_of_mem_mapM h.tableGetters hc
    obtain ⟨_, _, _, _, _, rfl⟩ := tableGetter_ok made
    rfl

/-- The routines of a schema and their commands name the same other schemas. -/
theorem procedures_owners (h : o.MadeFrom l) (schema : String) :
    (o.storedProcedures.filter (·.schema == schema)).map
        (fun c => Attribute.foreignOwners c.parameters schema) =
      (l.keptProcedures.filter (·.schema == schema)).map fun p =>
        p.parameters.filterMap (·.foreignOwner? schema) := by
  refine values_of_keys ?_ schema
  rw [keptProcedures_eq]
  refine map_eq_of_forall₂ ?_ h.storedProcedures
  rintro p c ⟨parameters, _, converted, made⟩
  obtain ⟨_, _, _, _, _, rfl⟩ := describedCommand_ok made
  rw [foreignOwners_of_mapM converted]

theorem functions_owners (h : o.MadeFrom l) (schema : String) :
    (o.functions.filter (·.schema == schema)).map
        (fun c => Attribute.foreignOwners c.parameters schema) =
      (l.keptFunctions.filter (·.schema == schema)).map fun f =>
        f.parameters.filterMap (·.foreignOwner? schema) := by
  refine values_of_keys ?_ schema
  rw [keptFunctions_eq]
  refine map_eq_of_forall₂ ?_ (mapM_eq_ok.mp h.functions)
  intro f c made
  obtain ⟨_, _, converted, _, _, _, _, rfl⟩ := functionCommand_ok made
  rw [foreignOwners_of_mapM converted]

theorem mem_foreignSchemas (h : o.MadeFrom l) (hb : b ∈ o.bundles) {s : String} :
    s ∈ b.foreignSchemas ↔ s ∈ l.foreignSchemas b.schema := by
  have getters : ∀ c ∈ o.tableGetters, c.parameters = [] := by
    intro c hc
    obtain ⟨_, _, made⟩ := exists_of_mem_mapM h.tableGetters hc
    obtain ⟨_, _, _, _, _, rfl⟩ := tableGetter_ok made
    rfl
  have listed : l.foreignSchemas b.schema =
      (((o.storedProcedures ++ o.functions).filter (·.schema == b.schema)).map fun c =>
        Attribute.foreignOwners c.parameters b.schema).flatten := by
    rw [List.filter_append, List.map_append, h.procedures_owners, h.functions_owners,
      Listing.foreignSchemas, Listing.parameters, List.filterMap_append, List.filterMap_flatMap,
      List.filterMap_flatMap, List.flatten_append, List.flatMap_def, List.flatMap_def]
  rw [listed, Bundle.mem_foreignSchemas]
  simp only [← Attribute.mem_foreignOwners, List.mem_flatten, List.mem_map, List.mem_filter,
    Bundle.mem_commands hb, List.mem_append, beq_iff_eq]
  constructor
  · rintro ⟨c, ⟨command | getter, own⟩, mem⟩
    · exact ⟨_, ⟨c, ⟨command, own⟩, rfl⟩, mem⟩
    · rw [getters c getter] at mem
      exact absurd mem List.not_mem_nil
  · rintro ⟨_, ⟨c, ⟨command, own⟩, rfl⟩, mem⟩
    exact ⟨c, ⟨.inl command, own⟩, mem⟩

end Objects.MadeFrom

/-- A catalog held in memory has one listing. -/
theorem eq_listing_of_readFrom {m : Memory} {l : Listing} (h : l.ReadFrom m.source) :
    l = m.listing := by
  obtain ⟨tableTypes, functions, procedures, tables⟩ := l
  obtain ⟨⟨_, _, ht⟩, ⟨_, _, hf⟩, ⟨_, _, hp⟩, ⟨_, _, hg⟩⟩ := h
  cases ht
  cases hf
  cases hp
  cases hg
  rfl

theorem schema_of_shop {b : Bundle} (hb : b ∈ Memory.shopObjects.bundles) :
    b.schema ∈ ["sales", "dbo"] := by
  obtain ⟨schema, mem, rfl⟩ := Bundle.mem_group.mp hb
  have listed : ∀ schema ∈ Bundle.schemas Memory.shopObjects.tableTypes
      Memory.shopObjects.storedProcedures Memory.shopObjects.functions
      Memory.shopObjects.tableGetters, schema ∈ ["sales", "dbo"] := by
    decide +kernel
  exact listed schema mem

end Introspection

end SqlBindings
