import SqlBindings.Proofs.Attributes

namespace SqlBindings

open Catalog

namespace Returns

variable {columns : List Attribute} {r : Returns}

theorem ofColumns_eq_ok : ofColumns columns = .ok r ↔
    columns ≠ [] ∧ (columns.map Attribute.name).Nodup ∧ r = .table columns := by
  cases columns with
  | nil => simp [ofColumns]
  | cons a rest =>
    simp [ofColumns, check_bind_eq_ok, Attribute.checkDistinct_eq_ok, @eq_comm Returns r]

theorem tableOrNothing_eq_ok : tableOrNothing columns = .ok r ↔
    (columns.map Attribute.name).Nodup ∧
      r = if columns = [] then .nothing else .table columns := by
  cases columns with
  | nil => simp [tableOrNothing, eq_comm]
  | cons a rest => simp [tableOrNothing, ofColumns_eq_ok]

end Returns

namespace Command

variable {schema name : String} {parameters : List Attribute} {returns : Returns}
  {kind : CommandKind} {c : Command}

theorem make_eq_ok : make schema name parameters returns kind = .ok c ↔
    Name.IsClassName name ∧ (parameters.map Attribute.name).Nodup ∧
      c = ⟨schema, name, Sql.qualifiedName schema name, parameters, returns, kind⟩ := by
  simp [make, check_bind_eq_ok, Name.checkClassName_eq_ok, Attribute.checkDistinct_eq_ok,
    @eq_comm Command c]

theorem ofFunction_eq_ok : ofFunction schema name parameters returns = .ok c ↔
    returns ≠ .nothing ∧ make schema name parameters returns .function = .ok c := by
  cases returns <;> simp [ofFunction]

end Command

namespace TableType

variable {t : TableType}

theorem make_eq_ok {schema name : String} {columns : List Attribute} :
    make schema name columns = .ok t ↔
      Name.IsClassName name ∧ (columns.map Attribute.name).Nodup ∧ t = ⟨schema, name, columns⟩ := by
  simp [make, check_bind_eq_ok, Name.checkClassName_eq_ok, Attribute.checkDistinct_eq_ok,
    @eq_comm TableType t]

theorem ofEntry_eq_ok {e : TableTypeEntry} :
    ofEntry e = .ok t ↔ ∃ columns, e.columns.mapM Attribute.ofColumn = .ok columns ∧
      Name.IsClassName e.name ∧ (columns.map Attribute.name).Nodup ∧
      t = ⟨e.schema, e.name, columns⟩ := by
  simp only [ofEntry, bind_eq_ok, make_eq_ok]

end TableType

namespace Introspection

/-- A function returns a nullable scalar, or a table with the declared columns. -/
theorem functionReturns_ok {f : FunctionEntry} {r : Returns} (h : functionReturns f = .ok r) :
    (∃ type, SqlType.ofNative (f.returnType.getD "") = .ok type ∧ r = .single type true) ∨
      ∃ columns, f.columns.mapM Attribute.ofColumn = .ok columns ∧ columns ≠ [] ∧
        (columns.map Attribute.name).Nodup ∧ r = .table columns := by
  unfold functionReturns at h
  split at h
  · obtain ⟨type, ht, h⟩ := bind_eq_ok.mp h
    cases h
    exact .inl ⟨type, ht, rfl⟩
  · split at h
    · obtain ⟨columns, hc, h⟩ := bind_eq_ok.mp h
      exact .inr ⟨columns, hc, Returns.ofColumns_eq_ok.mp h⟩
    · cases h

theorem functionCommand_ok {f : FunctionEntry} {c : Command} (h : functionCommand f = .ok c) :
    ∃ parameters returns, f.parameters.mapM Attribute.ofParameter = .ok parameters ∧
      functionReturns f = .ok returns ∧ returns ≠ .nothing ∧ Name.IsClassName f.name ∧
      (parameters.map Attribute.name).Nodup ∧
      c = ⟨f.schema, f.name, Sql.qualifiedName f.schema f.name, parameters, returns, .function⟩ := by
  obtain ⟨parameters, hp, h⟩ := bind_eq_ok.mp h
  obtain ⟨returns, hr, h⟩ := bind_eq_ok.mp h
  obtain ⟨some, made⟩ := Command.ofFunction_eq_ok.mp h
  exact ⟨parameters, returns, hp, hr, some, Command.make_eq_ok.mp made⟩

theorem describedCommand_ok {p : ProcedureEntry} {parameters : List Attribute}
    {columns : List ResultColumn} {c : Command}
    (h : describedCommand p parameters columns = .ok c) :
    ∃ attributes, resultAttributes columns = .ok attributes ∧
      (attributes.map Attribute.name).Nodup ∧ Name.IsClassName p.name ∧
      (parameters.map Attribute.name).Nodup ∧
      c = ⟨p.schema, p.name, Sql.qualifiedName p.schema p.name, parameters,
        if attributes = [] then .nothing else .table attributes, .storedProcedure⟩ := by
  obtain ⟨attributes, ha, h⟩ := bind_eq_ok.mp h
  obtain ⟨returns, hr, h⟩ := bind_eq_ok.mp h
  obtain ⟨distinct, rfl⟩ := Returns.tableOrNothing_eq_ok.mp hr
  exact ⟨attributes, ha, distinct, Command.make_eq_ok.mp h⟩

theorem tableGetter_ok {t : TableEntry} {c : Command} (h : tableGetter t = .ok c) :
    ∃ columns, t.columns.mapM Attribute.ofColumn = .ok columns ∧ columns ≠ [] ∧
      (columns.map Attribute.name).Nodup ∧ Name.IsClassName t.name ∧
      c = ⟨t.schema, t.name, Sql.qualifiedName t.schema t.name, [], .table columns,
        .tableGetter⟩ := by
  obtain ⟨columns, hc, h⟩ := bind_eq_ok.mp h
  obtain ⟨returns, hr, h⟩ := bind_eq_ok.mp h
  obtain ⟨some, distinct, rfl⟩ := Returns.ofColumns_eq_ok.mp hr
  obtain ⟨className, _, made⟩ := Command.make_eq_ok.mp h
  exact ⟨columns, hc, some, distinct, className, made⟩

end Introspection

end SqlBindings
