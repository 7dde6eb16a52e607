import SqlBindings.Proofs.ReturnedTypes
import SqlBindings.Proofs.Verdicts

namespace SqlBindings

open Catalog Introspection

namespace Attribute

/-- The record of the attribute as which a single value is read. -/
def singleRecord (type : SqlType) (nullable : Bool) : Datum :=
  .record [("name", .text "Value"), ("db_type", type.toDatum), ("nullable", .bool nullable)]

def ofSingle (type : SqlType) (nullable : Bool) : Attribute := ⟨"Value", type, nullable, "@Value"⟩

theorem withBindName_single (type : SqlType) (nullable : Bool) :
    withBindName [("name", .text "Value"), ("db_type", type.toDatum), ("nullable", .bool nullable)] =
      .ok [("name", .text "Value"), ("bind_name", .text "@Value"), ("db_type", type.toDatum),
        ("nullable", .bool nullable)] := by
  have name : Name.attributeName "Value" = .ok "Value" :=
    Name.attributeName_eq_ok.mpr ⟨by decide +kernel, by decide +kernel⟩
  change (Name.attributeName "Value" >>= fun _ => _) >>= _ = _
  rw [name]
  rfl

/-- The record is accepted, and its name is not escaped. -/
theorem check_single (type : SqlType) (nullable : Bool) :
    check.run .namedAttribute (singleRecord type nullable) = .ok (ofSingle type nullable) := by
  rw [Check.run_eq_ok, check, singleRecord, Check.record, withBindName_single, ok_bind,
    Check.required_eq_accepted rfl rfl, ok_bind,
    Check.required_eq_accepted rfl (SqlType.check_toDatum type), ok_bind,
    Check.required_eq_accepted rfl rfl, ok_bind, Check.required_eq_accepted rfl rfl, ok_bind]
  rfl

end Attribute

/-- A single value is read as that attribute is. -/
theorem Command.readResult_single {c : Command} {type : SqlType} {nullable : Bool}
    (single : c.returns = .single type nullable) :
    c.readResult.getLast? =
      some ("return " ++ (Attribute.ofSingle type nullable).readValue "row" 0 (some c.schema)) := by
  rw [readResult, single]
  rfl

/-- A single value that is returned is read as an attribute that is a valid one. -/
def Command.ReadsSingle (c : Command) : Prop :=
  ∀ type nullable, c.returns = .single type nullable →
    ∃ value, Attribute.check.run .namedAttribute (Attribute.singleRecord type nullable) = .ok value ∧
      c.readResult.getLast? = some ("return " ++ value.readValue "row" 0 (some c.schema))

theorem Command.readsSingle (c : Command) : c.ReadsSingle := by
  intro type nullable single
  exact ⟨_, Attribute.check_single type nullable, readResult_single single⟩

namespace Returns

/-- Rows with at least one column. -/
def IsTable (r : Returns) : Prop := ∃ columns, columns ≠ [] ∧ r = .table columns

def IsSingle (r : Returns) : Prop := ∃ type nullable, r = .single type nullable

end Returns

/-- What rendering relies on, category by category. -/
structure Bundle.Renderable (b : Bundle) : Prop where
  functions : ∀ c ∈ b.functions, c.kind = .function ∧ (c.returns.IsSingle ∨ c.returns.IsTable)
  storedProcedures : ∀ c ∈ b.storedProcedures,
    c.kind = .storedProcedure ∧ (c.returns = .nothing ∨ c.returns.IsTable)
  tableGetters : ∀ c ∈ b.tableGetters,
    c.kind = .tableGetter ∧ c.parameters = [] ∧ c.returns.IsTable
  notRaw : ∀ c ∈ b.commands, c.kind.text? = none
  scalarColumns : ∀ t ∈ b.tableTypes, ∀ a ∈ t.columns, a.type.isTable = false
  scalarResults : ∀ c ∈ b.commands, c.returns.Scalar
  texts : ∀ c ∈ b.commands, ∃ query, c.text = .ok query
  singles : ∀ c ∈ b.commands, c.ReadsSingle

namespace Introspection

theorem returns_of_functionCommand {f : FunctionEntry} {c : Command}
    (h : functionCommand f = .ok c) : c.returns.IsSingle ∨ c.returns.IsTable := by
  obtain ⟨_, returns, _, hr, _, _, _, rfl⟩ := functionCommand_ok h
  rcases functionReturns_ok hr with ⟨type, _, rfl⟩ | ⟨columns, _, some, _, rfl⟩
  · exact .inl ⟨type, true, rfl⟩
  · exact .inr ⟨columns, some, rfl⟩

theorem returns_of_madeFromProcedure {p : ProcedureEntry} {c : Command} (h : MadeFromProcedure p c) :
    c.returns = .nothing ∨ c.returns.IsTable := by
  obtain ⟨_, _, _, made⟩ := h
  obtain ⟨attributes, _, _, _, _, rfl⟩ := describedCommand_ok made
  by_cases none : attributes = []
  · exact .inl (if_pos none)
  · exact .inr ⟨attributes, none, if_neg none⟩

theorem returns_of_tableGetter {t : TableEntry} {c : Command} (h : tableGetter t = .ok c) :
    c.parameters = [] ∧ c.returns.IsTable := by
  obtain ⟨columns, _, some, _, _, rfl⟩ := tableGetter_ok h
  exact ⟨rfl, columns, some, rfl⟩

/-- Whatever objects are made of, their bundles can be rendered. -/
theorem Objects.MadeFrom.renderable {l : Listing} {o : Objects} (h : o.MadeFrom l) :
    ∀ b ∈ o.bundles, b.Renderable := by
  intro b hb
  obtain ⟨columns, results⟩ := h.scalarTypes b hb
  have kinds : ∀ c ∈ b.commands, c.kind.text? = none := by
    intro c hc
    rcases Bundle.cases_of_mem_commands hb hc with procedure | function | getter
    · rw [h.storedProcedures_kind c procedure]
      rfl
    · rw [h.functions_kind c function]
      rfl
    · rw [h.tableGetters_kind c getter]
      rfl
  refine ⟨?_, ?_, ?_, kinds, columns, results, ?_, fun c _ => c.readsSingle⟩
  · intro c hc
    obtain ⟨mem, _⟩ := (Bundle.mem_functions hb).mp hc
    obtain ⟨f, _, made⟩ := exists_of_mem_mapM h.functions mem
    exact ⟨h.functions_kind c mem, returns_of_functionCommand made⟩
  · intro c hc
    obtain ⟨mem, _⟩ := (Bundle.mem_storedProcedures hb).mp hc
    obtain ⟨p, _, made⟩ := exists_of_forall₂ h.storedProcedures mem
    exact ⟨h.storedProcedures_kind c mem, returns_of_madeFromProcedure made⟩
  · intro c hc
    obtain ⟨mem, _⟩ := (Bundle.mem_tableGetters hb).mp hc
    obtain ⟨t, _, made⟩ := exists_of_mem_mapM h.tableGetters mem
    exact ⟨h.tableGetters_kind c mem, returns_of_tableGetter made⟩
  · intro c hc
    exact Command.exists_text_ok (h.isCallable b hb c hc)

section

variable {σ : Type} {source : Source σ} {state : σ} {bundles : List Bundle} {t : Traced σ}

/-- Whatever a catalog answers, if bundles are made of it, then each of them has the shape that
rendering relies on, and they are rendered without an error. -/
theorem introspect_renderable (run : (introspect source).start state = (.ok bundles, t)) :
    (∃ files, Package.ofBundles bundles = .ok files) ∧ ∀ b ∈ bundles, b.Renderable := by
  rw [Run.start_eq_ending] at run
  obtain ⟨l, o, _, made, rfl⟩ := introspect_ok run
  exact ⟨Package.exists_ofBundles_ok made.isCallable, made.renderable⟩

theorem introspect_renderable_shop : ∃ bundles t,
    (introspect Memory.shop.source).start [] = (.ok bundles, t) ∧
      (∃ files, Package.ofBundles bundles = .ok files) ∧ ∀ b ∈ bundles, b.Renderable := by
  obtain ⟨t, run⟩ := Memory.exists_shop_run
  exact ⟨_, t, run, introspect_renderable run⟩

end

end Introspection

end SqlBindings
