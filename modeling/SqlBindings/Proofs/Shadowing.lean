import SqlBindings.Proofs.GeneratedNames

namespace SqlBindings

namespace SqlType

/-- The name that a reference to a table type begins with, in the module of a schema. -/
def leadingName? (schema : String) : SqlType → Option String
  | scalar _ _ => none
  | table name none => some name
  | table name (some owner) => some (if owner = schema then name else Name.schemaAlias owner)

/-- A parameter with this name in SQL hides the name that a reference to the type begins with. -/
inductive Hides (schema : String) : String → SqlType → Prop
  /-- The class is called like the parameter. -/
  | plain (name : String) (owner : Option String) (here : owner = none ∨ owner = some schema)
      (stands : ¬ Name.NeedsEscape name) : Hides schema name (.table name owner)
  /-- The class is called like the parameter is after escaping. -/
  | escaped (name : String) (owner : Option String) (here : owner = none ∨ owner = some schema)
      (escapes : Name.NeedsEscape name) : Hides schema name (.table (name ++ "_") owner)
  /-- The schema of the type has a trailing underscore, and the parameter is called like the alias
  of the schema without it. -/
  | foreign (stem name : String) (elsewhere : stem ++ "_" ≠ schema) :
      Hides schema (Name.schemaAlias stem) (.table name (some (stem ++ "_")))

theorem hides_of_class {schema sqlName : String} {owner : Option String}
    (here : owner = none ∨ owner = some schema) :
    Hides schema sqlName (.table (Name.escape sqlName) owner) := by
  unfold Name.escape
  split
  · exact .escaped sqlName owner here ‹_›
  · exact .plain sqlName owner here ‹_›

theorem leadingName?_own {schema name : String} {owner : Option String}
    (here : owner = none ∨ owner = some schema) :
    (table name owner).leadingName? schema = some name := by
  rcases here with rfl | rfl
  · rfl
  · rw [leadingName?, if_pos rfl]

theorem leadingName?_eq_escape {schema sqlName : String} {type : SqlType} :
    type.leadingName? schema = some (Name.escape sqlName) ↔ Hides schema sqlName type := by
  constructor
  · intro h
    cases type with
    | scalar kind owner => cases h
    | table name owner =>
      cases owner with
      | none =>
        cases h
        exact hides_of_class (.inl rfl)
      | some owner =>
        rw [leadingName?] at h
        by_cases own : owner = schema
        · rw [if_pos own] at h
          cases h
          exact hides_of_class (.inr (congrArg some own))
        · rw [if_neg own] at h
          obtain ⟨stem, rfl, rfl⟩ := Name.escape_eq_schemaAlias.mp (Option.some.inj h).symm
          exact .foreign stem name own
  · intro h
    cases h with
    | plain _ owner here stands => rw [leadingName?_own here, Name.escape, if_neg stands]
    | escaped _ owner here escapes => rw [leadingName?_own here, Name.escape, if_pos escapes]
    | foreign stem name elsewhere =>
      rw [leadingName?, if_neg elsewhere, Name.escape_eq_schemaAlias.mpr ⟨stem, rfl, rfl⟩]

end SqlType

namespace Introspection

open Catalog

/-- A parameter is called like the name that the reference to a table type begins with exactly if its
name in SQL is one that hides it. -/
theorem introspect_hides_iff {σ : Type} {source : Source σ} {state : σ} {bundles : List Bundle}
    {t : Traced σ} (run : (introspect source).start state = (.ok bundles, t)) :
    ∀ b ∈ bundles, ∀ c ∈ b.commands, ∀ p ∈ c.parameters, ∀ q ∈ c.parameters,
      q.type.leadingName? c.schema = some p.name ↔
        ∃ sqlName, p.bindName = "@" ++ sqlName ∧ q.type.Hides c.schema sqlName := by
  intro b hb c hc p hp q hq
  have derived := ((introspect_named run b hb).2 c hc).parameters.isDerived p hp
  obtain ⟨sqlName, _, named, bound⟩ := derived
  rw [named, SqlType.leadingName?_eq_escape]
  constructor
  · exact fun hides => ⟨sqlName, bound, hides⟩
  · rintro ⟨other, same, hides⟩
    rw [bound] at same
    rw [(String.append_right_inj _).mp same]
    exact hides

theorem introspect_hides_iff_shop : ∃ bundles t,
    (introspect Memory.shop.source).start [] = (.ok bundles, t) ∧
      ∃ b ∈ bundles, Memory.shopTotal ∈ b.commands ∧
        ∃ p ∈ Memory.shopTotal.parameters, p.type.isTable = true ∧
          (p.type.leadingName? "sales" = some p.name ↔
            ∃ sqlName, p.bindName = "@" ++ sqlName ∧ p.type.Hides "sales" sqlName) := by
  obtain ⟨t, run⟩ := Memory.exists_shop_run
  obtain ⟨b, hb, hc⟩ := exists_shopTotal_bundle
  have hp : Memory.shopTotal.parameters.head (List.cons_ne_nil _ _) ∈
      Memory.shopTotal.parameters :=
    List.head_mem _
  exact ⟨_, t, run, b, hb, hc, _, hp, rfl, introspect_hides_iff run b hb _ hc _ hp _ hp⟩

def touchEntry : ProcedureEntry := ⟨"dbo", "Touch", [⟨"@ids", "ids", true, some "dbo", none, 1⟩]⟩

def moveEntry : ProcedureEntry :=
  ⟨"dbo", "Move", [⟨"@_schema_sales", "ids", true, some "sales_", none, 1⟩]⟩

/-- A catalog with a procedure for each way to hide a table type: by the name of its class, and by
the alias of its module. -/
def hidingCatalog : Memory where
  tableTypes := [⟨"dbo", "ids", [⟨"id", "int", false, 1⟩]⟩,
    ⟨"sales_", "ids", [⟨"id", "int", false, 1⟩]⟩]
  functions := []
  procedures := [touchEntry, moveEntry]
  tables := []
  results := []

def touch : Command :=
  ⟨"dbo", "Touch", "[dbo].[Touch]", [⟨"ids", .table "ids" (some "dbo"), false, "@ids"⟩], .nothing,
    .storedProcedure⟩

def move : Command :=
  ⟨"dbo", "Move", "[dbo].[Move]",
    [⟨"_schema_sales_", .table "ids" (some "sales_"), false, "@_schema_sales"⟩], .nothing,
    .storedProcedure⟩

theorem touch_command : hidingCatalog.command touchEntry = .ok touch := rfl

theorem move_command : hidingCatalog.command moveEntry = .ok move := by
  -- the comparison of prefixes does not compute, so the name goes through the rule for escaping
  have derived : Attribute.derive "_schema_sales" (.table "ids" (some "sales_")) false =
      .ok ⟨"_schema_sales_", .table "ids" (some "sales_"), false, "@_schema_sales"⟩ :=
    Attribute.derive_eq_ok.mpr ⟨by decide, rfl⟩
  have converted : moveEntry.parameters.mapM Attribute.ofParameter = .ok move.parameters :=
    mapM_eq_ok.mpr (.cons derived .nil)
  rw [Memory.command, Memory.description, converted]
  rfl

theorem hidingCatalog_objects :
    ∃ o, hidingCatalog.objects = .ok o ∧ o.storedProcedures = [touch, move] := by
  have kept : hidingCatalog.procedures.filter isRelevantProcedure = hidingCatalog.procedures := by
    decide +kernel
  have made : hidingCatalog.procedures.mapM hidingCatalog.command = .ok [touch, move] :=
    mapM_eq_ok.mpr (.cons touch_command (.cons move_command .nil))
  rw [Memory.objects, kept, made]
  exact ⟨_, rfl, rfl⟩

theorem introspect_hides : ∃ bundles t,
    (introspect hidingCatalog.source).start [] = (.ok bundles, t) ∧
      (∃ b ∈ bundles, touch ∈ b.commands) ∧ (∃ b ∈ bundles, move ∈ b.commands) ∧
      ∀ c ∈ [touch, move], ∃ p ∈ c.parameters, ∃ q ∈ c.parameters,
        q.type.isTable = true ∧ q.type.leadingName? c.schema = some p.name := by
  obtain ⟨o, made, procedures⟩ := hidingCatalog_objects
  obtain ⟨t, run, _⟩ := hidingCatalog.exists_introspect_start
  rw [made] at run
  refine ⟨o.bundles, t, run, ?_, ?_, ?_⟩
  · exact Bundle.exists_mem_commands (by simp [procedures])
  · exact Bundle.exists_mem_commands (by simp [procedures])
  · decide

end Introspection

end SqlBindings
