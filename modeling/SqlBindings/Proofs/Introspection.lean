import SqlBindings.Introspection
import SqlBindings.Proofs.Result
import SqlBindings.Proofs.Run

namespace SqlBindings.Introspection

open Catalog Run

/-- The entries of a catalog. -/
structure Listing where
  tableTypes : List TableTypeEntry
  functions : List FunctionEntry
  procedures : List ProcedureEntry
  tables : List TableEntry

/-- The objects made from a listing, each category in the order of its entries. -/
structure Objects where
  tableTypes : List TableType
  functions : List Command
  storedProcedures : List Command
  tableGetters : List Command

def Objects.bundles (o : Objects) : List Bundle :=
  Bundle.group o.tableTypes o.storedProcedures o.functions o.tableGetters

/-- The command is that of the procedure, for some columns that a dry run may have reported. -/
def MadeFromProcedure (p : ProcedureEntry) (c : Command) : Prop :=
  ∃ parameters columns, p.parameters.mapM Attribute.ofParameter = .ok parameters ∧
    describedCommand p parameters columns = .ok c

/-- Each entry that takes part is made into one object, and there are no others. -/
structure Objects.MadeFrom (o : Objects) (l : Listing) : Prop where
  tableTypes : (l.tableTypes.filter isRelevantTableType).mapM TableType.ofEntry = .ok o.tableTypes
  functions : (l.functions.filter isRelevantFunction).mapM functionCommand = .ok o.functions
  storedProcedures :
    List.Forall₂ MadeFromProcedure (l.procedures.filter isRelevantProcedure) o.storedProcedures
  tableGetters : (l.tables.filter isRelevantTable).mapM tableGetter = .ok o.tableGetters

section

variable {σ : Type} {source : Source σ}

/-- Each list of entries is an answer of the source. -/
structure Listing.ReadFrom (l : Listing) (source : Source σ) : Prop where
  tableTypes : ∃ t u, source.tableTypes.ending t = (.ok l.tableTypes, u)
  functions : ∃ t u, source.functions.ending t = (.ok l.functions, u)
  procedures : ∃ t u, source.procedures.ending t = (.ok l.procedures, u)
  tables : ∃ t u, source.tables.ending t = (.ok l.tables, u)

theorem procedureCommand_ok {p : ProcedureEntry} {c : Command} {t u : Traced σ}
    (h : (procedureCommand source p).ending t = (.ok c, u)) : MadeFromProcedure p c := by
  obtain ⟨parameters, _, converted, h⟩ := ending_bind_eq_ok.mp h
  obtain ⟨columns, _, _, made⟩ := ending_bind_eq_ok.mp h
  exact ⟨parameters, columns, result_of_ofExcept converted, result_of_ofExcept made⟩

/-- How an introspection begins: after the version, the table types are asked for. -/
def enumerateTableTypes (source : Source σ) : Run σ (List TableTypeEntry) := do
  info ("Server version: " ++ (← source.serverVersion).display)
  source.tableTypes

/-- A successful run has read a listing and returns the objects made from it, in bundles. -/
theorem introspect_enumerated_ok {bundles : List Bundle} {t u : Traced σ}
    (h : (introspect source).ending t = (.ok bundles, u)) :
    ∃ (l : Listing) (o : Objects),
      (∃ v, (enumerateTableTypes source).ending t = (.ok l.tableTypes, v)) ∧
      l.ReadFrom source ∧ o.MadeFrom l ∧ bundles = o.bundles := by
  unfold introspect at h
  obtain ⟨version, _, readVersion, h⟩ := ending_bind_eq_ok.mp h
  obtain ⟨_, _, logged, h⟩ := ending_bind_eq_ok.mp h
  obtain ⟨typeEntries, _, readTypes, h⟩ := ending_bind_eq_ok.mp h
  obtain ⟨types, _, madeTypes, h⟩ := ending_bind_eq_ok.mp h
  obtain ⟨functionEntries, _, readFunctions, h⟩ := ending_bind_eq_ok.mp h
  obtain ⟨functions, _, madeFunctions, h⟩ := ending_bind_eq_ok.mp h
  obtain ⟨procedureEntries, _, readProcedures, h⟩ := ending_bind_eq_ok.mp h
  obtain ⟨procedures, _, madeProcedures, h⟩ := ending_bind_eq_ok.mp h
  obtain ⟨tableEntries, _, readTables, h⟩ := ending_bind_eq_ok.mp h
  obtain ⟨getters, _, madeGetters, h⟩ := ending_bind_eq_ok.mp h
  obtain ⟨_, _, _, h⟩ := ending_bind_eq_ok.mp h
  cases h
  refine ⟨⟨typeEntries, functionEntries, procedureEntries, tableEntries⟩,
    ⟨types, functions, procedures, getters⟩, ?_, ?_, ?_, rfl⟩
  · exact ⟨_, ending_bind_eq_ok.mpr ⟨version, _, readVersion,
      ending_bind_eq_ok.mpr ⟨(), _, logged, readTypes⟩⟩⟩
  · exact ⟨⟨_, _, readTypes⟩, ⟨_, _, readFunctions⟩, ⟨_, _, readProcedures⟩, ⟨_, _, readTables⟩⟩
  · exact ⟨result_of_ofExcept madeTypes, result_of_ofExcept madeFunctions,
      (ending_mapM_ok madeProcedures).imp fun _ _ ⟨_, _, hc⟩ => procedureCommand_ok hc,
      result_of_ofExcept madeGetters⟩

theorem introspect_ok {bundles : List Bundle} {t u : Traced σ}
    (h : (introspect source).ending t = (.ok bundles, u)) :
    ∃ (l : Listing) (o : Objects), l.ReadFrom source ∧ o.MadeFrom l ∧ bundles = o.bundles := by
  obtain ⟨l, o, _, rest⟩ := introspect_enumerated_ok h
  exact ⟨l, o, rest⟩

end

end SqlBindings.Introspection

namespace SqlBindings.Catalog.Memory

open Introspection Run

def listing (m : Memory) : Listing := ⟨m.tableTypes, m.functions, m.procedures, m.tables⟩

/-- The dry run that a stored procedure calls for. -/
def description (p : ProcedureEntry) : Except Failure Description := do
  return ⟨Sql.qualifiedName p.schema p.name, ← p.parameters.mapM Attribute.ofParameter⟩

/-- The command of a stored procedure under the recorded answers. -/
def command (m : Memory) (p : ProcedureEntry) : Except Failure Command := do
  let d ← description p
  describedCommand p d.parameters (← m.answer d.qualifiedName)

/-- The objects of the catalog. -/
def objects (m : Memory) : Except Failure Objects := do
  let tableTypes ← (m.tableTypes.filter isRelevantTableType).mapM TableType.ofEntry
  let functions ← (m.functions.filter isRelevantFunction).mapM functionCommand
  let storedProcedures ← (m.procedures.filter isRelevantProcedure).mapM m.command
  let tableGetters ← (m.tables.filter isRelevantTable).mapM tableGetter
  return ⟨tableTypes, functions, storedProcedures, tableGetters⟩

/-- The dry runs asked for while commands are made: none after the first failure. -/
def dryRuns (m : Memory) : List ProcedureEntry → List Description
  | [] => []
  | p :: rest => match description p, m.command p with
    | .error _, _ => []
    | .ok d, .error _ => [d]
    | .ok d, .ok _ => d :: m.dryRuns rest

section

variable (m : Memory)

@[simp] theorem source_serverVersion : m.source.serverVersion = pure (.text "memory") := rfl

@[simp] theorem source_tableTypes : m.source.tableTypes = pure m.tableTypes := rfl

@[simp] theorem source_functions : m.source.functions = pure m.functions := rfl

@[simp] theorem source_procedures : m.source.procedures = pure m.procedures := rfl

@[simp] theorem source_tables : m.source.tables = pure m.tables := rfl

end

theorem describe_ending (m : Memory) (qualifiedName : String) (parameters : List Attribute)
    (t : Traced (List Description)) :
    (m.describe qualifiedName parameters).ending t =
      (m.answer qualifiedName, { t with state := t.state ++ [⟨qualifiedName, parameters⟩] }) :=
  rfl

theorem procedureCommand_ending (m : Memory) (p : ProcedureEntry) (t : Traced (List Description)) :
    (procedureCommand m.source p).ending t = (m.command p, match description p with
      | .ok d => { t with state := t.state ++ [d] }
      | .error _ => t) := by
  cases hp : p.parameters.mapM Attribute.ofParameter with
  | error e => simp [procedureCommand, ending_bind, command, description, hp]
  | ok parameters =>
    have described := m.describe_ending (Sql.qualifiedName p.schema p.name) parameters t
    cases ha : m.answer (Sql.qualifiedName p.schema p.name) <;>
      simp [procedureCommand, ending_bind, command, description, hp, ha, described, source]

theorem procedureCommands_ending (m : Memory) (ps : List ProcedureEntry)
    (t : Traced (List Description)) :
    (ps.mapM (procedureCommand m.source)).ending t =
      (ps.mapM m.command, { t with state := t.state ++ m.dryRuns ps }) := by
  induction ps generalizing t with
  | nil => simp [dryRuns]
  | cons p ps ih =>
    rw [List.mapM_cons, List.mapM_cons, ending_bind, procedureCommand_ending, dryRuns]
    cases hd : description p with
    | error e =>
      have hc : m.command p = .error e := by simp [command, hd]
      simp [hc]
    | ok d =>
      cases hc : m.command p with
      | error e => simp
      | ok c =>
        simp only [ending_bind, ih]
        cases ps.mapM m.command <;> simp

/-- The dry runs asked for in a whole run. -/
def calls (m : Memory) : List Description :=
  match (m.tableTypes.filter isRelevantTableType).mapM TableType.ofEntry,
      (m.functions.filter isRelevantFunction).mapM functionCommand with
  | .ok _, .ok _ => m.dryRuns (m.procedures.filter isRelevantProcedure)
  | _, _ => []

theorem introspect_ending (m : Memory) (t : Traced (List Description)) :
    ((introspect m.source).ending t).1 = m.objects.map Objects.bundles ∧
      ((introspect m.source).ending t).2.state = t.state ++ m.calls := by
  unfold introspect objects calls
  simp only [ending_bind, source_serverVersion, source_tableTypes, source_functions,
    source_procedures, source_tables, ending_pure, info, ending_log, ending_ofExcept,
    procedureCommands_ending]
  cases (m.tableTypes.filter isRelevantTableType).mapM TableType.ofEntry with
  | error e => simp [Except.map]
  | ok tableTypes =>
    cases (m.functions.filter isRelevantFunction).mapM functionCommand with
    | error e => simp [Except.map]
    | ok functions =>
      cases (m.procedures.filter isRelevantProcedure).mapM m.command with
      | error e => simp [Except.map]
      | ok procedures =>
        cases (m.tables.filter isRelevantTable).mapM tableGetter <;>
          simp [Except.map, Objects.bundles]

theorem exists_introspect_start (m : Memory) :
    ∃ t, (introspect m.source).start [] = (m.objects.map Objects.bundles, t) ∧ t.state = m.calls := by
  obtain ⟨result, state⟩ := m.introspect_ending ⟨[], []⟩
  exact ⟨_, Prod.ext result rfl, state⟩

theorem introspect_start {m : Memory} {result : Except Failure (List Bundle)}
    {t : Traced (List Description)} (run : (introspect m.source).start [] = (result, t)) :
    result = m.objects.map Objects.bundles ∧ t.state = m.calls := by
  obtain ⟨u, run', calls⟩ := m.exists_introspect_start
  rw [run, Prod.mk.injEq] at run'
  exact ⟨run'.1, run'.2 ▸ calls⟩

theorem objects_of_introspect {m : Memory} {bundles : List Bundle} {t : Traced (List Description)}
    (run : (introspect m.source).start [] = (.ok bundles, t)) :
    ∃ o, m.objects = .ok o ∧ bundles = o.bundles := by
  have result := (introspect_start run).1
  cases made : m.objects with
  | error e =>
    rw [made] at result
    cases result
  | ok o =>
    rw [made] at result
    cases result
    exact ⟨o, rfl, rfl⟩

/-- A catalog with objects of every kind, some of which take no part. -/
def shop : Memory where
  tableTypes := [⟨"sales", "ids", [⟨"id", "int", false, 1⟩]⟩,
    ⟨"dbo", "ids", [⟨"id", "int", false, 1⟩, ⟨"from", "datetime", true, 2⟩]⟩]
  functions := [⟨"dbo", "fn_diagrams", "FN", some "int", [], []⟩,
    ⟨"sales", "total", "FN", some "decimal", [⟨"@orders", "ids", true, some "dbo", none, 1⟩], []⟩]
  procedures := [⟨"dbo", "sp_help", []⟩,
    ⟨"dbo", "Touch", [⟨"@order", "int", false, none, none, 1⟩]⟩, ⟨"dbo", "Archive", []⟩]
  tables := [⟨"dbo", "sysdiagrams", []⟩, ⟨"dbo", "Orders", [⟨"id", "int", false, 1⟩]⟩,
    ⟨"old", "Orders", []⟩]
  results := [("[dbo].[Touch]", .ok [⟨some "id", .int, some 10, false⟩, ⟨none, .str, none, true⟩])]

def shopTotal : Command :=
  ⟨"sales", "total", "[sales].[total]", [⟨"orders", .table "ids" (some "dbo"), false, "@orders"⟩],
    .single (.plain .decimal) true, .function⟩

/-- What is made of the shop. -/
def shopObjects : Objects where
  tableTypes := [⟨"sales", "ids", [⟨"id", .plain .int32, false, "@id"⟩]⟩,
    ⟨"dbo", "ids", [⟨"id", .plain .int32, false, "@id"⟩, ⟨"from_", .plain .dateTime, true, "@from"⟩]⟩]
  functions := [shopTotal]
  storedProcedures := [⟨"dbo", "Touch", "[dbo].[Touch]",
      [⟨"order", .plain .int32, false, "@order"⟩],
      .table [⟨"id", .plain .int32, false, "@id"⟩, ⟨"Value1", .plain .string, true, "@Value1"⟩],
      .storedProcedure⟩,
    ⟨"dbo", "Archive", "[dbo].[Archive]", [], .nothing, .storedProcedure⟩]
  tableGetters := [⟨"dbo", "Orders", "[dbo].[Orders]", [],
    .table [⟨"id", .plain .int32, false, "@id"⟩], .tableGetter⟩]

theorem shop_functions : shop.functions.filter isRelevantFunction = shop.functions.drop 1 := by
  decide +kernel

theorem shop_procedures : shop.procedures.filter isRelevantProcedure = shop.procedures.drop 1 := by
  decide +kernel

theorem shop_objects : shop.objects = .ok shopObjects := by
  rw [objects, shop_functions, shop_procedures]
  rfl

theorem exists_shop_run :
    ∃ t, (introspect shop.source).start [] = (.ok shopObjects.bundles, t) := by
  obtain ⟨t, run, _⟩ := shop.exists_introspect_start
  rw [shop_objects] at run
  exact ⟨t, run⟩

end SqlBindings.Catalog.Memory
