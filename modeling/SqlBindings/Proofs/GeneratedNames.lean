import SqlBindings.Proofs.Construction
import SqlBindings.Proofs.Grouping
import SqlBindings.Proofs.Introspection

namespace SqlBindings

open Catalog Introspection

theorem Attribute.derived_of_mapM {α : Type} {f : α → Except Failure Attribute}
    (each : ∀ x a, f x = .ok a → a.IsDerived) {xs : List α} {attributes : List Attribute}
    (h : xs.mapM f = .ok attributes) (nodup : (attributes.map name).Nodup) :
    Derived attributes := by
  refine ⟨?_, nodup⟩
  intro a ha
  obtain ⟨x, _, made⟩ := exists_of_mem_mapM h ha
  exact each x a made

/-- The class name stands as it is in SQL; the names of the columns come from SQL. -/
structure TableType.Named (t : TableType) : Prop where
  className : Name.IsClassName t.name
  columns : Attribute.Derived t.columns

/-- The class name stands as it is in SQL; the names of the parameters and those of the columns, if
there are any, come from SQL. -/
structure Command.Named (c : Command) : Prop where
  className : Name.IsClassName c.name
  parameters : Attribute.Derived c.parameters
  columns : ∀ columns, c.returns = .table columns → Attribute.Derived columns

theorem TableType.named_of_ofEntry {e : TableTypeEntry} {t : TableType} (h : ofEntry e = .ok t) :
    t.Named := by
  obtain ⟨columns, converted, className, nodup, rfl⟩ := ofEntry_eq_ok.mp h
  exact ⟨className, Attribute.derived_of_mapM (fun _ _ => Attribute.isDerived_of_ofColumn)
    converted nodup⟩

namespace Introspection

theorem named_of_functionCommand {f : FunctionEntry} {c : Command} (h : functionCommand f = .ok c) :
    c.Named := by
  obtain ⟨parameters, returns, converted, hr, _, className, nodup, rfl⟩ := functionCommand_ok h
  refine ⟨className, ?_, ?_⟩
  · exact Attribute.derived_of_mapM (fun _ _ => Attribute.isDerived_of_ofParameter) converted nodup
  · intro columns table
    cases table
    rcases functionReturns_ok hr with ⟨_, _, single⟩ | ⟨declared, read, _, distinct, table⟩
    · cases single
    · cases table
      exact Attribute.derived_of_mapM (fun _ _ => Attribute.isDerived_of_ofColumn) read distinct

theorem named_of_madeFromProcedure {p : ProcedureEntry} {c : Command} (h : MadeFromProcedure p c) :
    c.Named := by
  obtain ⟨parameters, reported, converted, made⟩ := h
  obtain ⟨attributes, read, distinct, className, nodup, rfl⟩ := describedCommand_ok made
  refine ⟨className, ?_, ?_⟩
  · exact Attribute.derived_of_mapM (fun _ _ => Attribute.isDerived_of_ofParameter) converted nodup
  · intro columns table
    split at table
    · cases table
    · cases table
      exact ⟨Attribute.isDerived_of_resultAttributes read, distinct⟩

theorem named_of_tableGetter {t : TableEntry} {c : Command} (h : tableGetter t = .ok c) :
    c.Named := by
  obtain ⟨declared, read, _, distinct, className, rfl⟩ := tableGetter_ok h
  refine ⟨className, ⟨fun _ mem => absurd mem List.not_mem_nil, .nil⟩, ?_⟩
  intro columns table
  cases table
  exact Attribute.derived_of_mapM (fun _ _ => Attribute.isDerived_of_ofColumn) read distinct

theorem Objects.MadeFrom.named {l : Listing} {o : Objects} (h : o.MadeFrom l) :
    ∀ b ∈ o.bundles, (∀ t ∈ b.tableTypes, t.Named) ∧ ∀ c ∈ b.commands, c.Named := by
  intro b hb
  constructor
  · intro t ht
    obtain ⟨made, _⟩ := (Bundle.mem_tableTypes hb).mp ht
    obtain ⟨e, _, ofEntry⟩ := exists_of_mem_mapM h.tableTypes made
    exact TableType.named_of_ofEntry ofEntry
  · intro c hc
    rcases Bundle.cases_of_mem_commands hb hc with procedure | function | getter
    · obtain ⟨p, _, made⟩ := exists_of_forall₂ h.storedProcedures procedure
      exact named_of_madeFromProcedure made
    · obtain ⟨f, _, made⟩ := exists_of_mem_mapM h.functions function
      exact named_of_functionCommand made
    · obtain ⟨t, _, made⟩ := exists_of_mem_mapM h.tableGetters getter
      exact named_of_tableGetter made

section

variable {σ : Type} {source : Source σ} {state : σ} {bundles : List Bundle} {t : Traced σ}

theorem introspect_named (run : (introspect source).start state = (.ok bundles, t)) :
    ∀ b ∈ bundles, (∀ t ∈ b.tableTypes, t.Named) ∧ ∀ c ∈ b.commands, c.Named := by
  rw [Run.start_eq_ending] at run
  obtain ⟨_, o, _, made, rfl⟩ := introspect_ok run
  exact made.named

/-- Whatever a catalog answers, the classes in the bundles have valid names, and the parameters and
columns have names that are valid, free and distinct, in generated code and in SQL. -/
theorem introspect_wellNamed (run : (introspect source).start state = (.ok bundles, t)) :
    ∀ b ∈ bundles,
      (∀ type ∈ b.tableTypes, Name.IsClassName type.name ∧ Attribute.WellNamed type.columns) ∧
      ∀ c ∈ b.commands, Name.IsClassName c.name ∧ Attribute.WellNamed c.parameters ∧
        ∀ columns, c.returns = .table columns → Attribute.WellNamed columns := by
  intro b hb
  obtain ⟨types, commands⟩ := introspect_named run b hb
  constructor
  · intro type ht
    exact ⟨(types type ht).className, (types type ht).columns.wellNamed⟩
  · intro c hc
    have named := commands c hc
    exact ⟨named.className, named.parameters.wellNamed,
      fun columns table => (named.columns columns table).wellNamed⟩

theorem exists_shopTotal_bundle :
    ∃ b ∈ Memory.shopObjects.bundles, Memory.shopTotal ∈ b.commands :=
  Bundle.exists_mem_commands (by decide)

theorem introspect_wellNamed_shop : ∃ bundles t,
    (introspect Memory.shop.source).start [] = (.ok bundles, t) ∧
      (∃ b ∈ bundles, Memory.shopTotal ∈ b.commands) ∧
      ∀ b ∈ bundles,
        (∀ type ∈ b.tableTypes, Name.IsClassName type.name ∧ Attribute.WellNamed type.columns) ∧
        ∀ c ∈ b.commands, Name.IsClassName c.name ∧ Attribute.WellNamed c.parameters ∧
          ∀ columns, c.returns = .table columns → Attribute.WellNamed columns := by
  obtain ⟨t, run⟩ := Memory.exists_shop_run
  exact ⟨_, t, run, exists_shopTotal_bundle, introspect_wellNamed run⟩

end

end Introspection

end SqlBindings
