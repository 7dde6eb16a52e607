import SqlBindings.Proofs.Completeness
import SqlBindings.Proofs.Construction

namespace SqlBindings

/-- The documented causes for which an introspection is given up. -/
inductive Cause where
  | unsupportedType | invalidName | unknownFunctionShape | dryRun
deriving DecidableEq, Repr

/-- The cause that a failure counts under. Rejected records and whatever lies outside of the catalog
count under none. -/
@[simp] def Failure.cause? : Failure → Option Cause
  | emptyName | notIdentifier _ | emptyParameterName _ | parameterNotIdentifier _
  | keywordClassName _ | duplicateAttribute _ => some .invalidName
  | unknownSqlType _ | unknownValueType _ => some .unsupportedType
  | functionWithoutReturn _ | unknownFunctionKind _ _ => some .unknownFunctionShape
  | dryRun _ _ | dryRunRefused _ => some .dryRun
  | _ => none

/-- A step that, if it fails, fails for a documented cause. -/
def Accountable {α : Type} (step : Except Failure α) : Prop :=
  ∀ e, step = .error e → ∃ cause, e.cause? = some cause

section

variable {α β : Type} {step : Except Failure α} {next : α → Except Failure β}
  {f : α → Except Failure β} {xs : List α}

@[simp] theorem accountable_ok (a : α) : Accountable (.ok a) := fun _ h => nomatch h

@[simp] theorem accountable_error_iff {e : Failure} :
    Accountable (.error e : Except Failure α) ↔ ∃ cause, e.cause? = some cause := by
  simp [Accountable]

theorem accountable_bind_iff :
    Accountable (step >>= next) ↔
      Accountable step ∧ ∀ a, step = .ok a → Accountable (next a) := by
  cases step <;> simp

theorem Accountable.bind (first : Accountable step) (rest : ∀ a, Accountable (next a)) :
    Accountable (step >>= next) :=
  accountable_bind_iff.mpr ⟨first, fun a _ => rest a⟩

theorem accountable_map_iff {g : α → β} : Accountable (step.map g) ↔ Accountable step := by
  cases step <;> simp [Except.map]

/-- Only the first step that fails matters. -/
theorem accountable_mapM_iff :
    Accountable (xs.mapM f) ↔ ∀ before x after, xs = before ++ x :: after →
      (∀ y ∈ before, ∃ b, f y = .ok b) → Accountable (f x) := by
  induction xs with
  | nil => simp
  | cons first xs ih =>
    rw [List.mapM_cons, accountable_bind_iff]
    constructor
    · rintro ⟨here, rest⟩ before x after split each
      cases before with
      | nil =>
        cases split
        exact here
      | cons y before =>
        cases split
        obtain ⟨b, converted⟩ := each first List.mem_cons_self
        have later := (accountable_bind_iff.mp (rest b converted)).1
        exact ih.mp later before x after rfl fun y mem => each y (List.mem_cons_of_mem _ mem)
    · intro each
      refine ⟨each [] first xs rfl (by simp), fun b converted => .bind ?_ fun _ => by simp⟩
      refine ih.mpr fun before x after split earlier => ?_
      refine each (first :: before) x after (split ▸ rfl) ?_
      exact List.forall_mem_cons.mpr ⟨⟨b, converted⟩, earlier⟩

theorem accountable_mapM (each : ∀ x ∈ xs, Accountable (f x)) : Accountable (xs.mapM f) := by
  refine accountable_mapM_iff.mpr fun before x after split _ => each x ?_
  rw [split]
  simp

end

namespace Name

variable (name : String)

theorem accountable_escapeKeyword : Accountable (escapeKeyword name) := by
  unfold escapeKeyword
  split
  · simp
  · split <;> simp

theorem accountable_attributeName : Accountable (attributeName name) :=
  (accountable_escapeKeyword name).bind fun _ => accountable_ok _

theorem accountable_checkClassName : Accountable (checkClassName name) := by
  refine (accountable_escapeKeyword name).bind fun escaped => ?_
  split
  · exact accountable_error_iff.mpr ⟨_, rfl⟩
  · exact accountable_ok _

theorem accountable_ofParameter : Accountable (ofParameter name) := by
  unfold ofParameter
  split
  · simp
  · dsimp only
    split <;> simp

end Name

theorem SqlType.accountable_ofNative (name : String) : Accountable (ofNative name) := by
  unfold ofNative
  split <;> simp

theorem SqlType.accountable_ofValueType (t : ValueType) (precision : Option Int) :
    Accountable (ofValueType t precision) := by
  unfold ofValueType
  split
  · simp
  · split <;> simp

namespace Attribute

open Catalog

theorem accountable_derive (sqlName : String) (type : SqlType) (nullable : Bool) :
    Accountable (derive sqlName type nullable) :=
  (Name.accountable_attributeName sqlName).bind fun _ => accountable_ok _

theorem accountable_ofColumn (c : Column) : Accountable (ofColumn c) :=
  (SqlType.accountable_ofNative c.dataType).bind fun _ => accountable_derive _ _ _

theorem accountable_typeOfParameter (p : Parameter) : Accountable (typeOfParameter p) := by
  unfold typeOfParameter
  split
  · simp
  · exact SqlType.accountable_ofNative _

theorem accountable_ofParameter (p : Parameter) : Accountable (ofParameter p) :=
  (accountable_typeOfParameter p).bind fun _ =>
    (Name.accountable_ofParameter p.name).bind fun _ => accountable_derive _ _ _

theorem accountable_ofResultColumn (c : ResultColumn) (position : Nat) :
    Accountable (ofResultColumn c position) :=
  (SqlType.accountable_ofValueType _ _).bind fun _ => accountable_derive _ _ _

theorem accountable_checkDistinct (attributes : List Attribute) :
    Accountable (checkDistinct attributes) := by
  unfold checkDistinct
  generalize ([] : List String) = seen
  induction attributes generalizing seen with
  | nil => simp [checkDistinct.go]
  | cons a rest ih =>
    unfold checkDistinct.go
    split
    · simp
    · exact ih _

end Attribute

/-- The check that a table has columns is the one that rejects a record. -/
theorem Returns.accountable_ofColumns_iff {columns : List Attribute} :
    Accountable (ofColumns columns) ↔ columns ≠ [] := by
  cases columns with
  | nil => simp [ofColumns]
  | cons a rest =>
    refine iff_of_true ?_ (List.cons_ne_nil a rest)
    exact (Attribute.accountable_checkDistinct _).bind fun _ => accountable_ok _

theorem Returns.accountable_tableOrNothing (columns : List Attribute) :
    Accountable (tableOrNothing columns) := by
  cases columns with
  | nil => exact accountable_ok _
  | cons a rest => exact accountable_ofColumns_iff.mpr (List.cons_ne_nil a rest)

theorem Command.accountable_make (schema name : String) (parameters : List Attribute)
    (returns : Returns) (kind : CommandKind) :
    Accountable (make schema name parameters returns kind) :=
  (Name.accountable_checkClassName name).bind fun _ =>
    (Attribute.accountable_checkDistinct parameters).bind fun _ => accountable_ok _

theorem Command.accountable_ofFunction (schema name : String) (parameters : List Attribute)
    (returns : Returns) : Accountable (ofFunction schema name parameters returns) := by
  unfold ofFunction
  split
  · simp
  · exact accountable_make _ _ _ _ _

theorem TableType.accountable_ofEntry (e : Catalog.TableTypeEntry) : Accountable (ofEntry e) :=
  (accountable_mapM fun c _ => Attribute.accountable_ofColumn c).bind fun columns =>
    (Name.accountable_checkClassName e.name).bind fun _ =>
      (Attribute.accountable_checkDistinct columns).bind fun _ => accountable_ok _

namespace Introspection

open Catalog

theorem accountable_numbered (taken : List String) (base : String) (type : SqlType)
    (nullable : Bool) (suffix tries : Nat) :
    Accountable (numbered taken base type nullable suffix tries) := by
  induction tries generalizing suffix with
  | zero => exact Attribute.accountable_derive _ _ _
  | succ tries ih =>
    refine (Attribute.accountable_derive _ _ _).bind fun a => ?_
    split
    · exact ih _
    · exact accountable_ok _

theorem accountable_resultAttribute (taken : List String) (c : ResultColumn) (position : Nat) :
    Accountable (resultAttribute taken c position) := by
  refine (Attribute.accountable_ofResultColumn c position).bind fun a => ?_
  split
  · exact accountable_numbered _ _ _ _ _ _
  · exact accountable_ok _

theorem accountable_resultAttributes (columns : List ResultColumn) :
    Accountable (resultAttributes columns) := by
  unfold resultAttributes
  generalize ([] : List String) = taken, (0 : Nat) = position
  induction columns generalizing taken position with
  | nil => exact accountable_ok _
  | cons c rest ih =>
    exact (accountable_resultAttribute taken c position).bind fun a =>
      (ih _ _).bind fun _ => accountable_ok _

theorem accountable_describedCommand (p : ProcedureEntry) (parameters : List Attribute)
    (columns : List ResultColumn) : Accountable (describedCommand p parameters columns) :=
  (accountable_resultAttributes columns).bind fun attributes =>
    (Returns.accountable_tableOrNothing attributes).bind fun _ => Command.accountable_make _ _ _ _ _

/-- Columns that convert are as many as the declared ones, so it is those that decide. -/
theorem accountable_columns_iff {columns : List Column} {α : Type}
    {next : List Attribute → Except Failure α}
    (decides : ∀ attributes, Accountable (next attributes) ↔ attributes ≠ []) :
    Accountable (columns.mapM Attribute.ofColumn >>= next) ↔ columns ≠ [] := by
  rw [accountable_bind_iff]
  constructor
  · rintro ⟨_, each⟩ rfl
    exact (decides []).mp (each [] rfl) rfl
  · intro some
    refine ⟨accountable_mapM fun c _ => Attribute.accountable_ofColumn c, fun attributes h => ?_⟩
    refine (decides attributes).mpr fun none => some ?_
    rw [none, mapM_eq_ok] at h
    exact List.forall₂_nil_right_iff.mp h

/-- A table-valued function for which no columns are listed. Its parameters are in order. -/
structure LacksColumns (f : FunctionEntry) : Prop where
  parameters : ∀ p ∈ f.parameters, ∃ a, Attribute.ofParameter p = .ok a
  tableValued : f.kind ∈ ["IF", "TF", "FT"]
  columns : f.columns = []

theorem accountable_functionReturns_iff {f : FunctionEntry} :
    Accountable (functionReturns f) ↔ ¬ (f.kind ∈ ["IF", "TF", "FT"] ∧ f.columns = []) := by
  have apart : ∀ kind ∈ ["FN", "FS"], kind ∉ ["IF", "TF", "FT"] := by decide
  simp only [functionReturns, List.contains_iff_mem]
  by_cases scalar : f.kind ∈ ["FN", "FS"]
  · rw [if_pos scalar]
    refine iff_of_true ?_ fun h => apart f.kind scalar h.1
    exact (SqlType.accountable_ofNative _).bind fun _ => accountable_ok _
  · rw [if_neg scalar]
    by_cases table : f.kind ∈ ["IF", "TF", "FT"]
    · rw [if_pos table, accountable_columns_iff fun _ => Returns.accountable_ofColumns_iff]
      exact not_congr (and_iff_right table).symm
    · rw [if_neg table]
      exact iff_of_true (accountable_error_iff.mpr ⟨_, rfl⟩) fun h => table h.1

theorem accountable_functionCommand_iff {f : FunctionEntry} :
    Accountable (functionCommand f) ↔ ¬ LacksColumns f := by
  have converts : Accountable (f.parameters.mapM Attribute.ofParameter) :=
    accountable_mapM fun p _ => Attribute.accountable_ofParameter p
  have made (parameters : List Attribute) :
      Accountable (do Command.ofFunction f.schema f.name parameters (← functionReturns f)) ↔
        ¬ (f.kind ∈ ["IF", "TF", "FT"] ∧ f.columns = []) := by
    rw [accountable_bind_iff, accountable_functionReturns_iff]
    exact and_iff_left fun _ _ => Command.accountable_ofFunction _ _ _ _
  unfold functionCommand
  rw [accountable_bind_iff]
  simp only [converts, true_and, made]
  constructor
  · rintro each ⟨parameters, tableValued, columns⟩
    obtain ⟨ps, converted⟩ := exists_mapM_ok parameters
    exact each ps converted ⟨tableValued, columns⟩
  · rintro enough ps converted ⟨tableValued, columns⟩
    exact enough ⟨exists_mapM_ok_iff.mp ⟨ps, converted⟩, tableValued, columns⟩

theorem accountable_tableGetter_iff {t : TableEntry} :
    Accountable (tableGetter t) ↔ t.columns ≠ [] := by
  refine accountable_columns_iff fun attributes => ?_
  unfold Command.ofTable
  rw [accountable_bind_iff, Returns.accountable_ofColumns_iff]
  exact and_iff_left fun _ _ => Command.accountable_make _ _ _ _ _

end Introspection

namespace Catalog.Memory

open Introspection Run

theorem accountable_answer (m : Memory) (qualifiedName : String) :
    Accountable (m.answer qualifiedName) := by
  unfold answer
  split <;> simp

theorem accountable_command (m : Memory) (p : ProcedureEntry) : Accountable (m.command p) := by
  have described : Accountable (description p) :=
    (accountable_mapM fun p _ => Attribute.accountable_ofParameter p).bind fun _ => accountable_ok _
  exact described.bind fun d => (m.accountable_answer _).bind fun _ =>
    accountable_describedCommand _ _ _

/-- The first entry that cannot be converted is one that yields a table and has no columns. -/
inductive StopsWithoutColumns (m : Memory) : Prop
  | atFunction (before after : List FunctionEntry) (f : FunctionEntry)
      (tableTypes : ∀ t ∈ m.listing.keptTableTypes, ∃ made, TableType.ofEntry t = .ok made)
      (split : m.listing.keptFunctions = before ++ f :: after)
      (earlier : ∀ g ∈ before, ∃ c, functionCommand g = .ok c)
      (lacking : LacksColumns f)
  | atTable (before after : List TableEntry) (t : TableEntry)
      (tableTypes : ∀ t ∈ m.listing.keptTableTypes, ∃ made, TableType.ofEntry t = .ok made)
      (functions : ∀ f ∈ m.listing.keptFunctions, ∃ c, functionCommand f = .ok c)
      (procedures : ∀ p ∈ m.listing.keptProcedures, ∃ c, m.command p = .ok c)
      (split : m.listing.keptTables = before ++ t :: after)
      (earlier : ∀ u ∈ before, ∃ c, tableGetter u = .ok c)
      (lacking : t.columns = [])

theorem accountable_objects_iff (m : Memory) :
    Accountable m.objects ↔ ¬ m.StopsWithoutColumns := by
  have typesConvert : Accountable (m.listing.keptTableTypes.mapM TableType.ofEntry) :=
    accountable_mapM fun t _ => TableType.accountable_ofEntry t
  have proceduresConvert : Accountable (m.listing.keptProcedures.mapM m.command) :=
    accountable_mapM fun p _ => m.accountable_command p
  have steps : m.objects = do
      let tableTypes ← m.listing.keptTableTypes.mapM TableType.ofEntry
      let functions ← m.listing.keptFunctions.mapM functionCommand
      let storedProcedures ← m.listing.keptProcedures.mapM m.command
      let tableGetters ← m.listing.keptTables.mapM tableGetter
      return ⟨tableTypes, functions, storedProcedures, tableGetters⟩ := by
    rw [keptTableTypes_eq, keptFunctions_eq, keptProcedures_eq, keptTables_eq]
    rfl
  rw [steps]
  simp only [accountable_bind_iff, typesConvert, proceduresConvert, pure_eq_ok, accountable_ok,
    true_and, and_true, implies_true, accountable_mapM_iff, accountable_functionCommand_iff,
    accountable_tableGetter_iff]
  constructor
  · rintro each (⟨before, after, f, tableTypes, split, earlier, lacking⟩ |
      ⟨before, after, t, tableTypes, functions, procedures, split, earlier, lacking⟩)
    · obtain ⟨types, madeTypes⟩ := exists_mapM_ok tableTypes
      exact (each types madeTypes).1 before f after split earlier lacking
    · obtain ⟨types, madeTypes⟩ := exists_mapM_ok tableTypes
      obtain ⟨fs, madeFunctions⟩ := exists_mapM_ok functions
      obtain ⟨ps, madeProcedures⟩ := exists_mapM_ok procedures
      exact (each types madeTypes).2 fs madeFunctions ps madeProcedures before t after split earlier
        lacking
  · intro never types madeTypes
    have tableTypes := exists_mapM_ok_iff.mp ⟨types, madeTypes⟩
    refine ⟨fun before f after split earlier lacking => ?_, ?_⟩
    · exact never (.atFunction before after f tableTypes split earlier lacking)
    · intro fs madeFunctions ps madeProcedures before t after split earlier lacking
      exact never (.atTable before after t tableTypes (exists_mapM_ok_iff.mp ⟨fs, madeFunctions⟩)
        (exists_mapM_ok_iff.mp ⟨ps, madeProcedures⟩) split earlier lacking)

/-- An introspection is given up for a documented cause, unless it comes to a table or a table-valued
function without columns before it comes to anything else that it must refuse. -/
theorem introspect_accountable_iff (m : Memory) :
    Accountable ((introspect m.source).start []).1 ↔ ¬ m.StopsWithoutColumns := by
  obtain ⟨t, run, _⟩ := m.exists_introspect_start
  rw [run, accountable_map_iff, accountable_objects_iff]

/-- A catalog with one function, which yields a table without columns. -/
def hollowCatalog : Memory where
  tableTypes := []
  functions := [⟨"dbo", "Hollow", "IF", none, [], []⟩]
  procedures := []
  tables := []
  results := []

/-- The function is refused by the check of a record. -/
theorem introspect_rejects :
    ((introspect hollowCatalog.source).start []).1 =
        .error (.rejected .tableReturn [⟨[.field "columns"], .tooShort⟩]) ∧
      (Failure.rejected .tableReturn [⟨[.field "columns"], .tooShort⟩]).cause? = none := by
  have kept : hollowCatalog.functions.filter isRelevantFunction = hollowCatalog.functions := by
    decide +kernel
  obtain ⟨t, run, _⟩ := hollowCatalog.exists_introspect_start
  rw [run, objects, kept]
  exact ⟨rfl, rfl⟩

end Catalog.Memory

end SqlBindings
