import SqlBindings.Proofs.Construction
import SqlBindings.Proofs.Grouping
import SqlBindings.Proofs.Introspection

namespace SqlBindings.Introspection

open Catalog

/-- A dry run of the procedure, with the parameters it declares. -/
def IsDryRunOf (p : ProcedureEntry) (d : Description) : Prop :=
  d.qualifiedName = Sql.qualifiedName p.schema p.name ∧
    p.parameters.mapM Attribute.ofParameter = .ok d.parameters

/-- Table types that take part. -/
def Listing.keptTableTypes (l : Listing) : List TableTypeEntry :=
  l.tableTypes.filter fun t => t.schema ∉ excludedSchemas

/-- Functions that take part: those that the system brings along do not. -/
def Listing.keptFunctions (l : Listing) : List FunctionEntry :=
  l.functions.filter fun f => f.schema ∉ excludedSchemas ∧ ¬ "fn_".toList <+: f.name.toList

/-- Stored procedures that take part: those that the system brings along do not. -/
def Listing.keptProcedures (l : Listing) : List ProcedureEntry :=
  l.procedures.filter fun p => p.schema ∉ excludedSchemas ∧ ¬ "sp_".toList <+: p.name.toList

/-- Tables that take part. -/
def Listing.keptTables (l : Listing) : List TableEntry :=
  l.tables.filter fun t => t.schema ∉ excludedSchemas ∧ t.name ≠ "sysdiagrams"

/-- Bundles that hold the objects of a listing: none is lost, invented or held twice, and each is in
the one bundle of its schema, in its category. -/
structure Accounted (l : Listing) (bundles : List Bundle) : Prop where
  tableTypes : ((bundles.flatMap Bundle.tableTypes).map fun t => (t.schema, t.name)).Perm
    (l.keptTableTypes.map fun t => (t.schema, t.name))
  functions : ((bundles.flatMap Bundle.functions).map fun c => (c.schema, c.name)).Perm
    (l.keptFunctions.map fun f => (f.schema, f.name))
  storedProcedures : ((bundles.flatMap Bundle.storedProcedures).map fun c => (c.schema, c.name)).Perm
    (l.keptProcedures.map fun p => (p.schema, p.name))
  tableGetters : ((bundles.flatMap Bundle.tableGetters).map fun c => (c.schema, c.name)).Perm
    (l.keptTables.map fun t => (t.schema, t.name))
  schemas : ∀ b ∈ bundles, (∀ t ∈ b.tableTypes, t.schema = b.schema) ∧
    ∀ c ∈ b.commands, c.schema = b.schema
  kinds : ∀ b ∈ bundles, (∀ c ∈ b.functions, c.kind = .function) ∧
    (∀ c ∈ b.storedProcedures, c.kind = .storedProcedure) ∧
    ∀ c ∈ b.tableGetters, c.kind = .tableGetter
  nonempty : ∀ b ∈ bundles, b.tableTypes ≠ [] ∨ b.commands ≠ []
  nodup : (bundles.map Bundle.schema).Nodup

section

variable (l : Listing)

theorem keptTableTypes_eq : l.keptTableTypes = l.tableTypes.filter isRelevantTableType := by
  refine List.filter_congr fun t _ => ?_
  simp [isRelevantTableType, isRelevantSchema]

theorem keptFunctions_eq : l.keptFunctions = l.functions.filter isRelevantFunction := by
  refine List.filter_congr fun f _ => Bool.eq_iff_iff.mpr ?_
  simp [isRelevantFunction, isRelevantSchema]

theorem keptProcedures_eq : l.keptProcedures = l.procedures.filter isRelevantProcedure := by
  refine List.filter_congr fun p _ => Bool.eq_iff_iff.mpr ?_
  simp [isRelevantProcedure, isRelevantSchema]

theorem keptTables_eq : l.keptTables = l.tables.filter isRelevantTable := by
  refine List.filter_congr fun t _ => ?_
  simp [isRelevantTable, isRelevantSchema, excludedTables, Bool.decide_and]

end

namespace Objects.MadeFrom

variable {l : Listing} {o : Objects}

theorem tableTypes_keys (h : o.MadeFrom l) :
    o.tableTypes.map (fun t => (t.schema, t.name)) =
      l.keptTableTypes.map fun t => (t.schema, t.name) := by
  rw [keptTableTypes_eq]
  refine map_eq_of_forall₂ ?_ (mapM_eq_ok.mp h.tableTypes)
  intro e t made
  obtain ⟨_, _, _, _, rfl⟩ := TableType.ofEntry_eq_ok.mp made
  rfl

theorem functions_keys (h : o.MadeFrom l) :
    o.functions.map (fun c => (c.schema, c.name)) =
      l.keptFunctions.map fun f => (f.schema, f.name) := by
  rw [keptFunctions_eq]
  refine map_eq_of_forall₂ ?_ (mapM_eq_ok.mp h.functions)
  intro f c made
  obtain ⟨_, _, _, _, _, _, _, rfl⟩ := functionCommand_ok made
  rfl

theorem storedProcedures_keys (h : o.MadeFrom l) :
    o.storedProcedures.map (fun c => (c.schema, c.name)) =
      l.keptProcedures.map fun p => (p.schema, p.name) := by
  rw [keptProcedures_eq]
  refine map_eq_of_forall₂ ?_ h.storedProcedures
  rintro p c ⟨_, _, _, made⟩
  obtain ⟨_, _, _, _, _, rfl⟩ := describedCommand_ok made
  rfl

theorem tableGetters_keys (h : o.MadeFrom l) :
    o.tableGetters.map (fun c => (c.schema, c.name)) =
      l.keptTables.map fun t => (t.schema, t.name) := by
  rw [keptTables_eq]
  refine map_eq_of_forall₂ ?_ (mapM_eq_ok.mp h.tableGetters)
  intro t c made
  obtain ⟨_, _, _, _, _, rfl⟩ := tableGetter_ok made
  rfl

theorem functions_kind (h : o.MadeFrom l) : ∀ c ∈ o.functions, c.kind = .function := by
  intro c hc
  obtain ⟨_, _, made⟩ := exists_of_mem_mapM h.functions hc
  obtain ⟨_, _, _, _, _, _, _, rfl⟩ := functionCommand_ok made
  rfl

theorem storedProcedures_kind (h : o.MadeFrom l) :
    ∀ c ∈ o.storedProcedures, c.kind = .storedProcedure := by
  intro c hc
  obtain ⟨_, _, _, _, _, made⟩ := exists_of_forall₂ h.storedProcedures hc
  obtain ⟨_, _, _, _, _, rfl⟩ := describedCommand_ok made
  rfl

theorem tableGetters_kind (h : o.MadeFrom l) : ∀ c ∈ o.tableGetters, c.kind = .tableGetter := by
  intro c hc
  obtain ⟨_, _, made⟩ := exists_of_mem_mapM h.tableGetters hc
  obtain ⟨_, _, _, _, _, rfl⟩ := tableGetter_ok made
  rfl

theorem accounted (h : o.MadeFrom l) : Accounted l o.bundles where
  tableTypes := h.tableTypes_keys ▸ (Bundle.tableTypes_perm ..).map _
  functions := h.functions_keys ▸ (Bundle.functions_perm ..).map _
  storedProcedures := h.storedProcedures_keys ▸ (Bundle.storedProcedures_perm ..).map _
  tableGetters := h.tableGetters_keys ▸ (Bundle.tableGetters_perm ..).map _
  schemas := by
    intro b hb
    exact ⟨fun t ht => ((Bundle.mem_tableTypes hb).mp ht).2,
      fun c hc => ((Bundle.mem_commands hb).mp hc).2⟩
  kinds := by
    intro b hb
    refine ⟨fun c hc => ?_, fun c hc => ?_, fun c hc => ?_⟩
    · exact h.functions_kind c ((Bundle.mem_functions hb).mp hc).1
    · exact h.storedProcedures_kind c ((Bundle.mem_storedProcedures hb).mp hc).1
    · exact h.tableGetters_kind c ((Bundle.mem_tableGetters hb).mp hc).1
  nonempty := fun _ hb => Bundle.group_nonempty hb
  nodup := Bundle.group_schemas_nodup ..

end Objects.MadeFrom

end SqlBindings.Introspection

namespace SqlBindings.Catalog.Memory

open Introspection

variable {m : Memory}

theorem objects_madeFrom {o : Objects} (h : m.objects = .ok o) : o.MadeFrom m.listing := by
  obtain ⟨tableTypes, madeTypes, h⟩ := bind_eq_ok.mp h
  obtain ⟨functions, madeFunctions, h⟩ := bind_eq_ok.mp h
  obtain ⟨procedures, madeProcedures, h⟩ := bind_eq_ok.mp h
  obtain ⟨getters, madeGetters, h⟩ := bind_eq_ok.mp h
  cases h
  refine ⟨madeTypes, madeFunctions, ?_, madeGetters⟩
  refine (mapM_eq_ok.mp madeProcedures).imp fun p c made => ?_
  obtain ⟨d, hd, made⟩ := bind_eq_ok.mp made
  obtain ⟨columns, _, made⟩ := bind_eq_ok.mp made
  obtain ⟨parameters, converted, hd⟩ := bind_eq_ok.mp hd
  cases hd
  exact ⟨parameters, columns, converted, made⟩

theorem isDryRunOf_description {p : ProcedureEntry} {d : Description} (h : description p = .ok d) :
    IsDryRunOf p d := by
  obtain ⟨parameters, converted, h⟩ := bind_eq_ok.mp h
  cases h
  exact ⟨rfl, converted⟩

/-- Dry runs are asked for one procedure after another. -/
theorem dryRuns_prefix (m : Memory) (ps : List ProcedureEntry) :
    ∃ asked, asked <+: ps ∧ List.Forall₂ IsDryRunOf asked (m.dryRuns ps) := by
  -- a procedure whose parameters cannot be converted is not run, one whose command fails is the last
  induction ps with
  | nil => exact ⟨[], List.nil_prefix, .nil⟩
  | cons p ps ih =>
    rw [dryRuns]
    cases hd : description p with
    | error e => exact ⟨[], List.nil_prefix, .nil⟩
    | ok d =>
      have here := isDryRunOf_description hd
      cases m.command p with
      | error e => exact ⟨[p], ⟨ps, rfl⟩, .cons here .nil⟩
      | ok c =>
        obtain ⟨asked, before, runs⟩ := ih
        exact ⟨p :: asked, (List.prefix_cons_inj p).mpr before, .cons here runs⟩

/-- If no command fails, there is a dry run for every procedure. -/
theorem dryRuns_of_commands {ps : List ProcedureEntry} {cs : List Command}
    (h : ps.mapM m.command = .ok cs) : List.Forall₂ IsDryRunOf ps (m.dryRuns ps) := by
  have commands := mapM_eq_ok.mp h
  clear h
  induction commands with
  | nil => exact .nil
  | cons made _ ih =>
    obtain ⟨d, hd, _⟩ := bind_eq_ok.mp made
    rw [dryRuns, hd, made]
    exact .cons (isDryRunOf_description hd) ih

theorem calls_prefix (m : Memory) :
    ∃ asked, asked <+: m.listing.keptProcedures ∧ List.Forall₂ IsDryRunOf asked m.calls := by
  rw [keptProcedures_eq, calls]
  split
  · exact m.dryRuns_prefix _
  · exact ⟨[], List.nil_prefix, .nil⟩

theorem calls_of_objects {o : Objects} (h : m.objects = .ok o) :
    List.Forall₂ IsDryRunOf m.listing.keptProcedures m.calls := by
  obtain ⟨_, madeTypes, h⟩ := bind_eq_ok.mp h
  obtain ⟨_, madeFunctions, h⟩ := bind_eq_ok.mp h
  obtain ⟨_, madeProcedures, _⟩ := bind_eq_ok.mp h
  rw [keptProcedures_eq, calls, madeTypes, madeFunctions]
  exact dryRuns_of_commands madeProcedures

/-- An introspection that succeeds accounts for every entry, after one dry run for each procedure
that takes part, in the order of the procedures. One that fails has asked for the first of them. -/
theorem introspect_accounted (m : Memory) :
    (∀ bundles t, (introspect m.source).start [] = (.ok bundles, t) →
      Accounted m.listing bundles ∧ List.Forall₂ IsDryRunOf m.listing.keptProcedures t.state) ∧
    ∀ e t, (introspect m.source).start [] = (.error e, t) →
      ∃ asked, asked <+: m.listing.keptProcedures ∧ List.Forall₂ IsDryRunOf asked t.state := by
  constructor
  · intro bundles t run
    obtain ⟨o, made, rfl⟩ := objects_of_introspect run
    have calls := (introspect_start run).2
    exact ⟨(objects_madeFrom made).accounted, calls ▸ calls_of_objects made⟩
  · intro e t run
    have calls := (introspect_start run).2
    exact calls ▸ m.calls_prefix

/-- The shop, where the dry run of the first procedure is refused. -/
def refusingShop : Memory :=
  { shop with results := [("[dbo].[Touch]", .error "permission denied")] }

theorem refusingShop_objects : ∃ e, refusingShop.objects = .error e := by
  have functions : refusingShop.functions.filter isRelevantFunction = _ := shop_functions
  have procedures : refusingShop.procedures.filter isRelevantProcedure = _ := shop_procedures
  rw [objects, functions, procedures]
  exact ⟨_, rfl⟩

theorem introspect_accounted_shop :
    (∃ bundles t, (introspect shop.source).start [] = (.ok bundles, t) ∧
      Accounted shop.listing bundles ∧
      List.Forall₂ IsDryRunOf shop.listing.keptProcedures t.state) ∧
    ∃ e t, (introspect refusingShop.source).start [] = (.error e, t) ∧
      ∃ asked, asked <+: refusingShop.listing.keptProcedures ∧
        List.Forall₂ IsDryRunOf asked t.state := by
  constructor
  · obtain ⟨t, run⟩ := exists_shop_run
    exact ⟨_, t, run, (introspect_accounted shop).1 _ t run⟩
  · obtain ⟨e, failed⟩ := refusingShop_objects
    obtain ⟨t, run, _⟩ := refusingShop.exists_introspect_start
    rw [failed] at run
    exact ⟨e, t, run, (introspect_accounted refusingShop).2 e t run⟩

end SqlBindings.Catalog.Memory
