import SqlBindings.Proofs.Completeness
import SqlBindings.Proofs.Grouping
import SqlBindings.Proofs.Verdicts

/-!
# Records that are read back

Checking a record may change what it says: names are escaped, categories are sorted. `Valid` is what
a value has gone through then, whether it was checked or made by a constructor, and a valid value is
its own result when its record is checked.

* `Returns.Accepted`, `TableType.Accepted`, `Command.Accepted`, `Bundle.Accepted`: the ways in which
  a value can come about;
* `Bundle.Accepted.valid` and its siblings: each of them makes a valid value;
* `Bundle.Valid.check_toDatum` and its siblings: a valid value is read back from its record;
* `accepted_readBack`: so is every value, however it came about.
-/

namespace SqlBindings

open Catalog

section

variable {α : Type} {check : Check α} {write : α → Datum} {xs : List α}

/-- What is read back one by one is read back as a list. -/
theorem forall₂_map_write (each : ∀ x ∈ xs, check (write x) = .ok (.accepted x)) :
    List.Forall₂ (fun d a => check d = .ok (.accepted a)) (xs.map write) xs :=
  List.forall₂_map_left_iff.mpr (List.forall₂_same.mpr each)

theorem Check.listOf_map_write {rule : Rule}
    (each : ∀ x ∈ xs, check (write x) = .ok (.accepted x)) :
    listOf rule check (.list (xs.map write)) = .ok (.accepted xs) :=
  listOf_eq_accepted.mpr ⟨_, rfl, forall₂_map_write each⟩

end

namespace Attribute

/-- A record with a bound name is taken as it is, so a name is not escaped again. -/
theorem check_toDatum (a : Attribute) : check a.toDatum = .ok (.accepted a) := by
  have bound : withBindName [("name", .text a.name), ("db_type", a.type.toDatum),
      ("nullable", .bool a.nullable), ("bind_name", .text a.bindName)] = .ok _ := rfl
  rw [check, toDatum, Check.record, bound, ok_bind, Check.required_eq_accepted rfl rfl, ok_bind,
    Check.required_eq_accepted rfl (SqlType.check_toDatum a.type), ok_bind,
    Check.required_eq_accepted rfl rfl, ok_bind, Check.required_eq_accepted rfl rfl, ok_bind]
  rfl

variable {attributes : List Attribute}

theorem check_list_toDatum (distinct : (attributes.map name).Nodup) :
    Check.ensuring (.listOf .tupleExpected check) checkDistinct (.list (attributes.map toDatum)) =
      .ok (.accepted attributes) :=
  Check.ensuring_eq_accepted.mpr
    ⟨Check.listOf_map_write fun a _ => a.check_toDatum, checkDistinct_eq_ok.mpr distinct⟩

end Attribute

namespace Returns

/-- The ways in which a shape comes about. -/
inductive Accepted : Returns → Prop where
  | checked {d : Datum} {r : Returns} : check d = .ok (.accepted r) → Accepted r
  /-- The record of one shape is checked as such. -/
  | shapeChecked {label : String} {kind : RecordKind} {shape : Check Returns} {d : Datum}
      {r : Returns} :
      checkOfLabel? label = some (kind, shape) → shape.run kind d = .ok r → Accepted r
  | nothing : Accepted .nothing
  | single (type : SqlType) (nullable : Bool) : Accepted (.single type nullable)
  | ofColumns {columns : List Attribute} {r : Returns} : ofColumns columns = .ok r → Accepted r
  | tableOrNothing {columns : List Attribute} {r : Returns} :
      tableOrNothing columns = .ok r → Accepted r

/-- Rows have a column, and no two columns of one name. -/
def Valid : Returns → Prop
  | .table columns => columns ≠ [] ∧ (columns.map Attribute.name).Nodup
  | _ => True

variable {r : Returns}

theorem valid_of_checkTable {d : Datum} (accepted : checkTable d = .ok (.accepted r)) :
    r.Valid := by
  obtain ⟨values, read⟩ := Check.exists_of_record accepted
  obtain ⟨_, required, made⟩ := bind_eq_ok.mp read
  obtain ⟨columns, rfl, rfl⟩ := Verdict.map_eq_accepted.mp (Except.ok.inj made)
  obtain ⟨_, checked⟩ := Check.exists_of_required required
  obtain ⟨items, passed⟩ := Check.ensuring_eq_accepted.mp checked
  exact ⟨(Check.someOf_eq_accepted.mp items).1, Attribute.checkDistinct_eq_ok.mp passed⟩

theorem valid_of_checkSingle {d : Datum} (accepted : checkSingle d = .ok (.accepted r)) :
    r.Valid := by
  obtain ⟨values, read⟩ := Check.exists_of_record accepted
  obtain ⟨_, _, read⟩ := bind_eq_ok.mp read
  obtain ⟨_, _, made⟩ := bind_eq_ok.mp read
  obtain ⟨_, _, typed, _, rfl⟩ := Verdict.seq_eq_accepted.mp (Except.ok.inj made)
  obtain ⟨_, _, rfl⟩ := Verdict.map_eq_accepted.mp typed
  trivial

theorem valid_of_checkOfLabel? {label : String} {kind : RecordKind} {shape : Check Returns}
    {d : Datum} (found : checkOfLabel? label = some (kind, shape))
    (accepted : shape d = .ok (.accepted r)) : r.Valid := by
  unfold checkOfLabel? at found
  split at found
  · cases found
    obtain ⟨_, made⟩ := Check.exists_of_record accepted
    cases made
    trivial
  · cases found
    exact valid_of_checkSingle accepted
  · cases found
    exact valid_of_checkTable accepted
  · cases found

theorem valid_of_check {d : Datum} (accepted : check d = .ok (.accepted r)) : r.Valid := by
  unfold check at accepted
  split at accepted
  · split at accepted
    · cases accepted
    · split at accepted
      · split at accepted
        · rename_i found
          obtain ⟨verdict, read, made⟩ := bind_eq_ok.mp accepted
          obtain rfl := Verdict.under_eq_accepted.mp (Except.ok.inj made)
          exact valid_of_checkOfLabel? found read
        · cases accepted
      · cases accepted
  · cases accepted

theorem Accepted.valid (accepted : r.Accepted) : r.Valid := by
  cases accepted with
  | checked read => exact valid_of_check read
  | shapeChecked found read => exact valid_of_checkOfLabel? found (Check.run_eq_ok.mp read)
  | nothing => trivial
  | single => trivial
  | ofColumns made =>
    obtain ⟨some, distinct, rfl⟩ := ofColumns_eq_ok.mp made
    exact ⟨some, distinct⟩
  | tableOrNothing made =>
    obtain ⟨distinct, rfl⟩ := tableOrNothing_eq_ok.mp made
    split
    · trivial
    · rename_i some
      exact ⟨some, distinct⟩

theorem checkSingle_toDatum (type : SqlType) (nullable : Bool) :
    checkSingle (toDatum (.single type nullable)) = .ok (.accepted (.single type nullable)) := by
  rw [checkSingle, toDatum, Check.record,
    Check.required_eq_accepted rfl (SqlType.check_toDatum type), ok_bind,
    Check.required_eq_accepted rfl rfl, ok_bind]
  rfl

theorem checkTable_toDatum {columns : List Attribute} (valid : Valid (.table columns)) :
    checkTable (toDatum (.table columns)) = .ok (.accepted (.table columns)) := by
  have items := Check.someOf_eq_accepted.mpr
    ⟨valid.1, _, rfl, forall₂_map_write fun a _ => Attribute.check_toDatum a⟩
  have distinct := Attribute.checkDistinct_eq_ok.mpr valid.2
  rw [checkTable, toDatum, Check.record,
    Check.required_eq_accepted rfl (Check.ensuring_eq_accepted.mpr ⟨items, distinct⟩), ok_bind]
  rfl

/-- A shape is found again by its label, and its own check takes its record. -/
theorem Valid.checkOfLabel?_toDatum (valid : r.Valid) :
    ∃ kind shape, checkOfLabel? r.label = some (kind, shape) ∧
      shape r.toDatum = .ok (.accepted r) := by
  cases r with
  | nothing => exact ⟨_, _, rfl, rfl⟩
  | single type nullable => exact ⟨_, _, rfl, checkSingle_toDatum type nullable⟩
  | table columns => exact ⟨_, _, rfl, checkTable_toDatum valid⟩

theorem exists_fields_toDatum (r : Returns) :
    ∃ fields, r.toDatum = .record fields ∧ fields.lookup "shape" = some (.text r.label) := by
  cases r <;> exact ⟨_, rfl, rfl⟩

theorem Valid.check_toDatum (valid : r.Valid) : check r.toDatum = .ok (.accepted r) := by
  obtain ⟨kind, shape, found, read⟩ := valid.checkOfLabel?_toDatum
  obtain ⟨fields, written, named⟩ := r.exists_fields_toDatum
  rw [written] at read ⊢
  simp only [check, named, found, read, ok_bind]
  rfl

end Returns

namespace TableType

variable {t : TableType}

/-- The ways in which a table type comes about. -/
inductive Accepted : TableType → Prop where
  | checked {d : Datum} {t : TableType} : check.run .tableTypeDefinition d = .ok t → Accepted t
  | make {schema name : String} {columns : List Attribute} {t : TableType} :
      make schema name columns = .ok t → Accepted t
  | ofEntry {e : TableTypeEntry} {t : TableType} : ofEntry e = .ok t → Accepted t

/-- What the rules on the name and the columns make sure of. -/
structure Valid (t : TableType) : Prop where
  className : Name.IsClassName t.name
  distinct : (t.columns.map Attribute.name).Nodup

theorem valid_of_check {d : Datum} (accepted : check d = .ok (.accepted t)) : t.Valid := by
  obtain ⟨values, read⟩ := Check.exists_of_record accepted
  obtain ⟨_, _, read⟩ := bind_eq_ok.mp read
  obtain ⟨_, named, read⟩ := bind_eq_ok.mp read
  obtain ⟨_, columns, made⟩ := bind_eq_ok.mp read
  simp only [pure_eq_ok, Except.ok.injEq, Verdict.seq_eq_accepted, Verdict.map_eq_accepted] at made
  obtain ⟨_, _, ⟨_, _, ⟨_, rfl, rfl⟩, rfl, rfl⟩, rfl, rfl⟩ := made
  obtain ⟨_, checked⟩ := Check.exists_of_required named
  obtain ⟨_, className⟩ := Check.ensuring_eq_accepted.mp checked
  obtain ⟨_, checked⟩ := Check.exists_of_required columns
  obtain ⟨_, distinct⟩ := Check.ensuring_eq_accepted.mp checked
  exact ⟨Name.checkClassName_eq_ok.mp className, Attribute.checkDistinct_eq_ok.mp distinct⟩

theorem Accepted.valid (accepted : t.Accepted) : t.Valid := by
  cases accepted with
  | checked read => exact valid_of_check (Check.run_eq_ok.mp read)
  | make made =>
    obtain ⟨className, distinct, rfl⟩ := make_eq_ok.mp made
    exact ⟨className, distinct⟩
  | ofEntry made =>
    obtain ⟨_, _, className, distinct, rfl⟩ := ofEntry_eq_ok.mp made
    exact ⟨className, distinct⟩

theorem Valid.check_toDatum (valid : t.Valid) : check t.toDatum = .ok (.accepted t) := by
  have className := Name.checkClassName_eq_ok.mpr valid.className
  rw [check, toDatum, Check.record, Check.required_eq_accepted rfl rfl, ok_bind,
    Check.required_eq_accepted rfl (Check.ensuring_eq_accepted.mpr ⟨rfl, className⟩), ok_bind,
    Check.required_eq_accepted rfl (Attribute.check_list_toDatum valid.distinct), ok_bind]
  rfl

end TableType

namespace CommandKind

/-- A kind is recovered from its label and its text. -/
theorem check_label (kind : CommandKind) : ∃ found,
    Check.oneOf kinds (.text kind.label) = .ok (.accepted found) ∧
      ofParts found kind.text? = .accepted kind := by
  cases kind <;> exact ⟨_, rfl, rfl⟩

end CommandKind

namespace Command

variable {c : Command}

/-- The ways in which a command comes about. -/
inductive Accepted : Command → Prop where
  | checked {d : Datum} {c : Command} : check.run .command d = .ok c → Accepted c
  /-- All fields are given, the qualified name too. -/
  | given {c : Command} : Name.checkClassName c.name = .ok () →
      Attribute.checkDistinct c.parameters = .ok () → c.returns.Accepted → Accepted c
  | ofFunction {schema name : String} {parameters : List Attribute} {returns : Returns}
      {c : Command} :
      returns.Accepted → ofFunction schema name parameters returns = .ok c → Accepted c
  | ofStoredProcedure {schema name : String} {parameters : List Attribute} {returns : Returns}
      {c : Command} :
      returns.Accepted → ofStoredProcedure schema name parameters returns = .ok c → Accepted c
  | ofTable {schema name : String} {columns : List Attribute} {c : Command} :
      ofTable schema name columns = .ok c → Accepted c

/-- What the rules on the name, the parameters and the result make sure of. -/
structure Valid (c : Command) : Prop where
  className : Name.IsClassName c.name
  distinct : (c.parameters.map Attribute.name).Nodup
  returns : c.returns.Valid

theorem valid_of_check {d : Datum} (accepted : check d = .ok (.accepted c)) : c.Valid := by
  obtain ⟨values, read⟩ := Check.exists_of_record accepted
  -- the fields in their order, of which the kind and its text are in order by their types
  obtain ⟨_, _, read⟩ := bind_eq_ok.mp read
  obtain ⟨_, named, read⟩ := bind_eq_ok.mp read
  obtain ⟨_, _, read⟩ := bind_eq_ok.mp read
  obtain ⟨_, parameters, read⟩ := bind_eq_ok.mp read
  obtain ⟨_, returns, read⟩ := bind_eq_ok.mp read
  obtain ⟨_, _, read⟩ := bind_eq_ok.mp read
  obtain ⟨_, _, made⟩ := bind_eq_ok.mp read
  obtain ⟨_, parts, whole⟩ := Verdict.andThen_eq_accepted.mp (Except.ok.inj made)
  obtain ⟨_, _, rfl⟩ := Verdict.map_eq_accepted.mp whole
  simp only [Verdict.seq_eq_accepted, Verdict.map_eq_accepted] at parts
  obtain ⟨_, _, ⟨_, _, ⟨_, _, ⟨_, _, ⟨_, _, ⟨_, _, ⟨_, rfl, rfl⟩, rfl, rfl⟩, rfl, rfl⟩, rfl, rfl⟩,
    rfl, rfl⟩, rfl, rfl⟩, rfl, rfl⟩ := parts
  obtain ⟨_, checked⟩ := Check.exists_of_required named
  obtain ⟨_, className⟩ := Check.ensuring_eq_accepted.mp checked
  obtain ⟨_, shape⟩ := Check.exists_of_required returns
  refine ⟨Name.checkClassName_eq_ok.mp className, ?_, Returns.valid_of_check shape⟩
  rcases Check.exists_of_optional parameters with rfl | ⟨_, listed⟩
  · exact List.nodup_nil
  · exact Attribute.checkDistinct_eq_ok.mp (Check.ensuring_eq_accepted.mp listed).2

theorem valid_of_make {schema name : String} {parameters : List Attribute} {returns : Returns}
    {kind : CommandKind} (shape : returns.Valid)
    (made : make schema name parameters returns kind = .ok c) : c.Valid := by
  obtain ⟨className, distinct, rfl⟩ := make_eq_ok.mp made
  exact ⟨className, distinct, shape⟩

theorem Accepted.valid (accepted : c.Accepted) : c.Valid := by
  cases accepted with
  | checked read => exact valid_of_check (Check.run_eq_ok.mp read)
  | given className distinct returns =>
    exact ⟨Name.checkClassName_eq_ok.mp className, Attribute.checkDistinct_eq_ok.mp distinct,
      returns.valid⟩
  | ofFunction returns made => exact valid_of_make returns.valid (ofFunction_eq_ok.mp made).2
  | ofStoredProcedure returns made => exact valid_of_make returns.valid made
  | ofTable made =>
    obtain ⟨returns, columns, made⟩ := bind_eq_ok.mp made
    exact valid_of_make (Returns.Accepted.ofColumns columns).valid made

theorem Valid.check_toDatum (valid : c.Valid) : check c.toDatum = .ok (.accepted c) := by
  have className := Name.checkClassName_eq_ok.mpr valid.className
  obtain ⟨found, labelled, same⟩ := c.kind.check_label
  rw [check, toDatum, Check.record, Check.required_eq_accepted rfl rfl, ok_bind,
    Check.required_eq_accepted rfl (Check.ensuring_eq_accepted.mpr ⟨rfl, className⟩), ok_bind,
    Check.required_eq_accepted rfl rfl, ok_bind,
    Check.optional_eq_accepted rfl (Attribute.check_list_toDatum valid.distinct), ok_bind,
    Check.required_eq_accepted rfl valid.returns.check_toDatum, ok_bind,
    Check.required_eq_accepted rfl labelled, ok_bind,
    Check.optional_eq_accepted rfl (Check.orNull_ofText? c.kind.text?), ok_bind]
  refine congrArg Except.ok (Verdict.andThen_eq_accepted.mpr ⟨_, rfl, ?_⟩)
  exact Verdict.map_eq_accepted.mpr ⟨_, same, rfl⟩

end Command

namespace Bundle

variable {b : Bundle}

/-- Entries of one category: valid, and in the order of their names. -/
structure ValidCategory {α : Type} (valid : α → Prop) (name : α → String) (entries : List α) :
    Prop where
  each : ∀ x ∈ entries, valid x
  ordered : entries.Pairwise fun x y => name x ≤ name y

structure Valid (b : Bundle) : Prop where
  tableTypes : ValidCategory TableType.Valid TableType.name b.tableTypes
  storedProcedures : ValidCategory Command.Valid Command.name b.storedProcedures
  functions : ValidCategory Command.Valid Command.name b.functions
  tableGetters : ValidCategory Command.Valid Command.name b.tableGetters

/-- The ways in which a bundle comes about. -/
inductive Accepted : Bundle → Prop where
  | checked {d : Datum} {b : Bundle} : check.run .bundle d = .ok b → Accepted b
  | make {schema : String} {T : List TableType} {P F G : List Command} :
      (∀ t ∈ T, t.Accepted) → (∀ c ∈ P ++ F ++ G, c.Accepted) → Accepted (make schema T P F G)
  | grouped {T : List TableType} {P F G : List Command} {b : Bundle} :
      (∀ t ∈ T, t.Accepted) → (∀ c ∈ P ++ F ++ G, c.Accepted) → b ∈ group T P F G → Accepted b

section

variable {α : Type} {valid : α → Prop} {name : α → String} {entries : List α}

theorem validCategory_sortOn (each : ∀ x ∈ entries, valid x) :
    ValidCategory valid name (sortOn name entries) :=
  ⟨fun x mem => each x (mem_sortOn.mp mem), sortOn_pairwise name entries⟩

theorem validCategory_of_optional {check : Check α} {fields : List (String × Datum)}
    {field : String} (each : ∀ {d x}, check d = .ok (.accepted x) → valid x)
    (accepted : Check.optional fields field [] (.listOf .tupleExpected check) =
      .ok (.accepted entries)) : ValidCategory valid name (sortOn name entries) := by
  refine validCategory_sortOn fun x mem => ?_
  rcases Check.exists_of_optional accepted with rfl | ⟨_, listed⟩
  · exact absurd mem List.not_mem_nil
  · obtain ⟨_, _, items⟩ := Check.listOf_eq_accepted.mp listed
    obtain ⟨_, _, read⟩ := exists_of_forall₂ items mem
    exact each read

end

theorem valid_of_check {d : Datum} (accepted : check d = .ok (.accepted b)) : b.Valid := by
  obtain ⟨values, read⟩ := Check.exists_of_record accepted
  obtain ⟨_, _, read⟩ := bind_eq_ok.mp read
  obtain ⟨_, tableTypes, read⟩ := bind_eq_ok.mp read
  obtain ⟨_, procedures, read⟩ := bind_eq_ok.mp read
  obtain ⟨_, functions, read⟩ := bind_eq_ok.mp read
  obtain ⟨_, getters, made⟩ := bind_eq_ok.mp read
  simp only [pure_eq_ok, Except.ok.injEq, Verdict.seq_eq_accepted, Verdict.map_eq_accepted] at made
  obtain ⟨_, _, ⟨_, _, ⟨_, _, ⟨_, _, ⟨_, rfl, rfl⟩, rfl, rfl⟩, rfl, rfl⟩, rfl, rfl⟩, rfl, rfl⟩ :=
    made
  exact ⟨validCategory_of_optional TableType.valid_of_check tableTypes,
    validCategory_of_optional Command.valid_of_check procedures,
    validCategory_of_optional Command.valid_of_check functions,
    validCategory_of_optional Command.valid_of_check getters⟩

theorem valid_make {schema : String} {T : List TableType} {P F G : List Command}
    (tableTypes : ∀ t ∈ T, t.Accepted) (commands : ∀ c ∈ P ++ F ++ G, c.Accepted) :
    (make schema T P F G).Valid := by
  simp only [List.forall_mem_append] at commands
  obtain ⟨⟨procedures, functions⟩, getters⟩ := commands
  exact ⟨validCategory_sortOn fun t mem => (tableTypes t mem).valid,
    validCategory_sortOn fun c mem => (procedures c mem).valid,
    validCategory_sortOn fun c mem => (functions c mem).valid,
    validCategory_sortOn fun c mem => (getters c mem).valid⟩

theorem Accepted.valid (accepted : b.Accepted) : b.Valid := by
  cases accepted with
  | checked read => exact valid_of_check (Check.run_eq_ok.mp read)
  | make tableTypes commands => exact valid_make tableTypes commands
  | grouped tableTypes commands mem =>
    obtain ⟨schema, _, rfl⟩ := mem_group.mp mem
    refine valid_make (fun t own => tableTypes t (List.mem_filter.mp own).1) fun c own => ?_
    rw [← List.filter_append, ← List.filter_append] at own
    exact commands c (List.mem_filter.mp own).1

/-- What is in order is not moved when it is sorted again. -/
theorem Valid.make_eq (valid : b.Valid) :
    make b.schema b.tableTypes b.storedProcedures b.functions b.tableGetters = b := by
  rw [make, sortOn_eq_self valid.tableTypes.ordered, sortOn_eq_self valid.storedProcedures.ordered,
    sortOn_eq_self valid.functions.ordered, sortOn_eq_self valid.tableGetters.ordered]

theorem Valid.check_toDatum (valid : b.Valid) : check b.toDatum = .ok (.accepted b) := by
  have commands {entries : List Command}
      (category : ValidCategory Command.Valid Command.name entries) :
      Check.listOf .tupleExpected Command.check (.list (entries.map Command.toDatum)) =
        .ok (.accepted entries) :=
    Check.listOf_map_write fun c mem => (category.each c mem).check_toDatum
  have tableTypes : Check.listOf .tupleExpected TableType.check
      (.list (b.tableTypes.map TableType.toDatum)) = .ok (.accepted b.tableTypes) :=
    Check.listOf_map_write fun t mem => (valid.tableTypes.each t mem).check_toDatum
  rw [check, toDatum, Check.record, Check.required_eq_accepted rfl rfl, ok_bind,
    Check.optional_eq_accepted rfl tableTypes, ok_bind,
    Check.optional_eq_accepted rfl (commands valid.storedProcedures), ok_bind,
    Check.optional_eq_accepted rfl (commands valid.functions), ok_bind,
    Check.optional_eq_accepted rfl (commands valid.tableGetters), ok_bind]
  exact congrArg (Except.ok ∘ Verdict.accepted) valid.make_eq

end Bundle

/-- Whatever was accepted by a check or made by a constructor is read back from its record. -/
theorem accepted_readBack :
    (∀ t : SqlType, SqlType.check.run .sqlType t.toDatum = .ok t) ∧
    (∀ a : Attribute, Attribute.check.run .namedAttribute a.toDatum = .ok a) ∧
    (∀ r : Returns, r.Accepted → Returns.check r.toDatum = .ok (.accepted r) ∧
      ∃ kind shape, Returns.checkOfLabel? r.label = some (kind, shape) ∧
        shape.run kind r.toDatum = .ok r) ∧
    (∀ t : TableType, t.Accepted → TableType.check.run .tableTypeDefinition t.toDatum = .ok t) ∧
    (∀ c : Command, c.Accepted → Command.check.run .command c.toDatum = .ok c) ∧
    ∀ b : Bundle, b.Accepted → Bundle.check.run .bundle b.toDatum = .ok b := by
  simp only [Check.run_eq_ok]
  refine ⟨SqlType.check_toDatum, Attribute.check_toDatum, fun r accepted => ?_,
    fun t accepted => accepted.valid.check_toDatum, fun c accepted => accepted.valid.check_toDatum,
    fun b accepted => accepted.valid.check_toDatum⟩
  exact ⟨accepted.valid.check_toDatum, accepted.valid.checkOfLabel?_toDatum⟩

namespace Introspection

theorem returns_accepted {f : FunctionEntry} {r : Returns}
    (h : functionReturns f = .ok r) : r.Accepted := by
  unfold functionReturns at h
  split at h
  · obtain ⟨type, _, h⟩ := bind_eq_ok.mp h
    cases h
    exact .single type true
  · split at h
    · obtain ⟨_, _, h⟩ := bind_eq_ok.mp h
      exact .ofColumns h
    · cases h

/-- What introspection returns is made by the constructors alone. -/
theorem Objects.MadeFrom.accepted {l : Listing} {o : Objects} (h : o.MadeFrom l) :
    ∀ b ∈ o.bundles, b.Accepted := by
  intro b hb
  refine .grouped (fun t ht => ?_) (fun c hc => ?_) hb
  · obtain ⟨_, _, made⟩ := exists_of_mem_mapM h.tableTypes ht
    exact .ofEntry made
  rw [List.mem_append, List.mem_append] at hc
  rcases hc with (procedure | function) | getter
  · obtain ⟨_, _, _, _, _, made⟩ := exists_of_forall₂ h.storedProcedures procedure
    obtain ⟨_, _, made⟩ := bind_eq_ok.mp made
    obtain ⟨_, returns, made⟩ := bind_eq_ok.mp made
    exact .ofStoredProcedure (.tableOrNothing returns) made
  · obtain ⟨_, _, made⟩ := exists_of_mem_mapM h.functions function
    obtain ⟨_, _, made⟩ := bind_eq_ok.mp made
    obtain ⟨_, returns, made⟩ := bind_eq_ok.mp made
    exact .ofFunction (returns_accepted returns) made
  · obtain ⟨_, _, made⟩ := exists_of_mem_mapM h.tableGetters getter
    obtain ⟨_, _, made⟩ := bind_eq_ok.mp made
    exact .ofTable made

/-- Raw SQL has a text, and a qualified name that is not made of its name. -/
def search : Command :=
  ⟨"dbo", "Search", "search", [⟨"from_", .plain .dateTime, true, "@from"⟩],
    .table [⟨"id", .plain .int32, false, "@id"⟩], .rawSql "SELECT id FROM Orders"⟩

/-- So the bundles of the shop are read back, with their escaped names, and so are raw SQL, a shape
and a table type that stand alone. -/
theorem accepted_readBack_shop :
    (∀ b ∈ Memory.shopObjects.bundles, Bundle.check.run .bundle b.toDatum = .ok b) ∧
      Command.check.run .command search.toDatum = .ok search ∧
      Returns.check search.returns.toDatum = .ok (.accepted search.returns) ∧
      ∀ t ∈ Memory.shopObjects.tableTypes,
        TableType.check.run .tableTypeDefinition t.toDatum = .ok t := by
  obtain ⟨_, _, returns, tableTypes, commands, bundles⟩ := accepted_readBack
  have made := Memory.objects_madeFrom Memory.shop_objects
  have rows : Returns.ofColumns [⟨"id", .plain .int32, false, "@id"⟩] = .ok search.returns := rfl
  have className : Name.checkClassName search.name = .ok () := rfl
  refine ⟨fun b hb => bundles b (made.accepted b hb),
    commands _ (.given className rfl (.ofColumns rows)), (returns _ (.ofColumns rows)).1,
    fun t ht => ?_⟩
  obtain ⟨_, _, entry⟩ := exists_of_mem_mapM made.tableTypes ht
  exact tableTypes t (.ofEntry entry)

end Introspection

end SqlBindings
