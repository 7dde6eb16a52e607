import SqlBindings.Proofs.Completeness
import SqlBindings.Proofs.Rendering

namespace SqlBindings

open Catalog Introspection

namespace SqlType

theorem isTable_of_ofNative {name : String} {t : SqlType} (h : ofNative name = .ok t) :
    t.isTable = false := by
  unfold ofNative at h
  split at h <;> cases h
  rfl

theorem isTable_of_ofValueType {value : ValueType} {precision : Option Int} {t : SqlType}
    (h : ofValueType value precision = .ok t) : t.isTable = false := by
  unfold ofValueType at h
  split at h
  · cases h
    rfl
  · split at h <;> cases h
    rfl

end SqlType

namespace Attribute

theorem type_of_derive {sqlName : String} {type : SqlType} {nullable : Bool} {a : Attribute}
    (h : derive sqlName type nullable = .ok a) : a.type = type := by
  obtain ⟨_, rfl⟩ := derive_eq_ok.mp h
  rfl

theorem isTable_of_ofColumn {c : Column} {a : Attribute} (h : ofColumn c = .ok a) :
    a.type.isTable = false := by
  obtain ⟨type, native, h⟩ := bind_eq_ok.mp h
  rw [type_of_derive h]
  exact SqlType.isTable_of_ofNative native

theorem isTable_of_ofResultColumn {c : ResultColumn} {position : Nat} {a : Attribute}
    (h : ofResultColumn c position = .ok a) : a.type.isTable = false := by
  obtain ⟨type, reported, h⟩ := bind_eq_ok.mp h
  rw [type_of_derive h]
  exact SqlType.isTable_of_ofValueType reported

theorem type_of_numbered {taken : List String} {base : String} {type : SqlType} {nullable : Bool}
    {suffix tries : Nat} {a : Attribute}
    (h : numbered taken base type nullable suffix tries = .ok a) : a.type = type := by
  -- a number makes another name, never another type
  induction tries generalizing suffix with
  | zero => exact type_of_derive h
  | succ tries ih =>
    obtain ⟨b, hb, h⟩ := bind_eq_ok.mp h
    split at h
    · exact ih h
    · cases h
      exact type_of_derive hb

theorem isTable_of_resultAttribute {taken : List String} {c : ResultColumn} {position : Nat}
    {a : Attribute} (h : resultAttribute taken c position = .ok a) : a.type.isTable = false := by
  obtain ⟨b, hb, h⟩ := bind_eq_ok.mp h
  have scalar := isTable_of_ofResultColumn hb
  split at h
  · rw [type_of_numbered h]
    exact scalar
  · cases h
    exact scalar

theorem isTable_of_resultAttributesFrom {taken : List String} {position : Nat}
    {columns : List ResultColumn} {attributes : List Attribute}
    (h : resultAttributesFrom taken position columns = .ok attributes) :
    ∀ a ∈ attributes, a.type.isTable = false := by
  induction columns generalizing taken position attributes with
  | nil =>
    cases h
    exact fun _ mem => absurd mem List.not_mem_nil
  | cons c rest ih =>
    obtain ⟨a, ha, h⟩ := bind_eq_ok.mp h
    obtain ⟨others, hothers, h⟩ := bind_eq_ok.mp h
    cases h
    exact List.forall_mem_cons.mpr ⟨isTable_of_resultAttribute ha, ih hothers⟩

theorem isTable_of_mapM_ofColumn {columns : List Column} {attributes : List Attribute}
    (h : columns.mapM ofColumn = .ok attributes) : ∀ a ∈ attributes, a.type.isTable = false := by
  intro a ha
  obtain ⟨c, _, made⟩ := exists_of_mem_mapM h ha
  exact isTable_of_ofColumn made

end Attribute

/-- The types of the values that are returned. -/
def Returns.types : Returns → List SqlType
  | nothing => []
  | single type _ => [type]
  | table columns => columns.map Attribute.type

/-- No value that is returned is a table. -/
def Returns.Scalar (r : Returns) : Prop := ∀ type ∈ r.types, type.isTable = false

theorem Returns.scalar_table {columns : List Attribute} :
    (table columns).Scalar ↔ ∀ a ∈ columns, a.type.isTable = false := by
  simp [Scalar, types]

namespace Introspection

theorem scalar_of_functionCommand {f : FunctionEntry} {c : Command} (h : functionCommand f = .ok c) :
    c.returns.Scalar := by
  obtain ⟨_, returns, _, hr, _, _, _, rfl⟩ := functionCommand_ok h
  rcases functionReturns_ok hr with ⟨type, native, rfl⟩ | ⟨columns, read, _, _, rfl⟩
  · simpa [Returns.Scalar, Returns.types] using SqlType.isTable_of_ofNative native
  · exact Returns.scalar_table.mpr (Attribute.isTable_of_mapM_ofColumn read)

theorem scalar_of_madeFromProcedure {p : ProcedureEntry} {c : Command}
    (h : MadeFromProcedure p c) : c.returns.Scalar := by
  obtain ⟨_, _, _, made⟩ := h
  obtain ⟨attributes, read, _, _, _, rfl⟩ := describedCommand_ok made
  have scalar := Attribute.isTable_of_resultAttributesFrom read
  by_cases none : attributes = []
  · simp [none, Returns.Scalar, Returns.types]
  · simpa [none] using Returns.scalar_table.mpr scalar

theorem scalar_of_tableGetter {t : TableEntry} {c : Command} (h : tableGetter t = .ok c) :
    c.returns.Scalar := by
  obtain ⟨columns, read, _, _, _, rfl⟩ := tableGetter_ok h
  exact Returns.scalar_table.mpr (Attribute.isTable_of_mapM_ofColumn read)

namespace Objects.MadeFrom

variable {l : Listing} {o : Objects}

theorem scalarTypes (h : o.MadeFrom l) : ∀ b ∈ o.bundles,
    (∀ t ∈ b.tableTypes, ∀ a ∈ t.columns, a.type.isTable = false) ∧
      ∀ c ∈ b.commands, c.returns.Scalar := by
  intro b hb
  constructor
  · intro t ht
    obtain ⟨made, _⟩ := (Bundle.mem_tableTypes hb).mp ht
    obtain ⟨e, _, ofEntry⟩ := exists_of_mem_mapM h.tableTypes made
    obtain ⟨columns, read, _, _, rfl⟩ := TableType.ofEntry_eq_ok.mp ofEntry
    exact Attribute.isTable_of_mapM_ofColumn read
  · intro c hc
    rcases Bundle.cases_of_mem_commands hb hc with procedure | function | getter
    · obtain ⟨p, _, made⟩ := exists_of_forall₂ h.storedProcedures procedure
      exact scalar_of_madeFromProcedure made
    · obtain ⟨f, _, made⟩ := exists_of_mem_mapM h.functions function
      exact scalar_of_functionCommand made
    · obtain ⟨t, _, made⟩ := exists_of_mem_mapM h.tableGetters getter
      exact scalar_of_tableGetter made

theorem functions_return (h : o.MadeFrom l) : ∀ c ∈ o.functions, c.returns ≠ .nothing := by
  intro c hc
  obtain ⟨_, _, made⟩ := exists_of_mem_mapM h.functions hc
  obtain ⟨_, _, _, _, some, _, _, rfl⟩ := functionCommand_ok made
  exact some

theorem isCallable (h : o.MadeFrom l) : ∀ b ∈ o.bundles, ∀ c ∈ b.commands, c.IsCallable := by
  intro b hb c hc function
  rcases Bundle.cases_of_mem_commands hb hc with procedure | made | getter
  · rw [h.storedProcedures_kind c procedure] at function
    cases function
  · exact h.functions_return c made
  · rw [h.tableGetters_kind c getter] at function
    cases function

end Objects.MadeFrom

end Introspection

end SqlBindings
