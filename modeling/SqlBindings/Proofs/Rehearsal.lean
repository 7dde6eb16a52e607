import SqlBindings.Proofs.Exchange
import SqlBindings.Proofs.GeneratedNames
import SqlBindings.Proofs.LineStarts
import SqlBindings.Proofs.StringLiterals

/-!
The dry run of a stored procedure sends what the class that is generated for it will send. The two
texts, the two lists of types and the two forms of a table argument are put together apart.
-/

namespace SqlBindings

open Render Catalog Introspection Run

/-- How the lines of `execute` begin that talk to the cursor. -/
def cursorStart : String := "            await cursor."

/-- How a line begins that announces types. -/
def sizesStart : String := cursorStart ++ "setinputsizes("

/-- How a line begins that sends a query text. -/
def sendStart : String := cursorStart ++ "execute("

/-- The arguments of the statement that announces the types with the given tags. -/
def sizesArguments (tags : List String) : String :=
  "[" ++ ", ".intercalate (tags.map ("pyodbc." ++ ·)) ++ "])"

/-- One line of a class sends a text: it hands over a literal that is read as this text, and then the
values. -/
def Sends (lines : List String) (query : String) (values : List String) : Prop :=
  ∃ arguments, lines.filter (fun line => Begins sendStart line) = [sendStart ++ arguments] ∧
    Text.readLiteral? arguments.toList =
      some (query.toList, (Attribute.afterSeparator values ++ ")").toList)

/-- The value that a line in the body of a class gives to a name. -/
def constant? (name line : String) : Option String :=
  let start := "    " ++ (name ++ (" " ++ "= "))
  if Begins start line then do
    let (value, rest) ← Text.readLiteral? (line.toList.drop start.toList.length)
    if rest = [] then some (String.ofList value) else none
  else none

/-- The values that the class of a table type gives to a name. -/
def TableType.constants (t : TableType) (name : String) : List String :=
  t.render.filterMap (constant? name)

namespace Command

theorem not_begins_heading {c : Command} (named : c.Named) :
    ∀ line ∈ c.heading, ¬ Begins cursorStart line := by
  unfold heading cursorStart
  cases returns : c.returns with
  | nothing =>
    simp only [List.forall_mem_cons, List.not_mem_nil, false_imp_iff, implies_true, and_true,
      String.append_assoc]
    with_reducible exact not_begins_append (by decide) _
  | single type nullable =>
    simp only [List.forall_mem_cons, List.not_mem_nil, false_imp_iff, implies_true, and_true,
      String.append_assoc]
    with_reducible exact not_begins_append (by decide) _
  | table columns =>
    simp only [List.forall_mem_append, List.forall_mem_cons, List.forall_mem_map, List.not_mem_nil,
      false_imp_iff, implies_true, and_true, String.append_assoc]
    refine ⟨⟨⟨?_, ?_⟩, fun a ha => ?_⟩, ?_⟩
    · with_reducible exact not_begins_ofList (by decide)
    · with_reducible exact not_begins_append (by decide) _
    · have identifier := (named.columns columns returns).wellNamed.isIdentifier a ha
      have start : "            await cursor." = "    " ++ ("" ++ (" " ++ "       await cursor.")) := by
        decide +kernel
      rw [start]
      exact Attribute.not_begins_field identifier (by decide) _ _
    · decide

theorem not_begins_executeHead (c : Command) :
    ∀ line ∈ c.executeHead, ¬ Begins cursorStart line := by
  unfold executeHead cursorStart
  simp only [List.forall_mem_cons, List.not_mem_nil, false_imp_iff, implies_true, and_true,
    String.append_assoc]
  and_intros <;> with_reducible
    first | exact not_begins_ofList (by decide) | exact not_begins_append (by decide) _

theorem not_begins_readResult (c : Command) :
    ∀ line ∈ c.readResult, ¬ Begins "await cursor." line := by
  unfold readResult
  cases c.returns <;>
    simp only [List.forall_mem_cons, List.not_mem_nil, false_imp_iff, implies_true, and_true,
      String.append_assoc] <;>
    and_intros <;> with_reducible
      first | exact not_begins_ofList (by decide) | exact not_begins_append (by decide) _

theorem filter_eq_nil {start : String} {lines : List String}
    (h : ∀ line ∈ lines, ¬ Begins start line) (more : String) :
    lines.filter (fun line => Begins (start ++ more) line) = [] := by
  refine List.filter_eq_nil_iff.mpr fun line mem begins => h line mem ?_
  exact (of_decide_eq_true begins).of_append

/-- Only two statements begin with what they do to the cursor. -/
theorem filter_executeBody (c : Command) (query start : String) :
    (c.executeBody query).filter (fun line => Begins ("await cursor." ++ start) line) =
      (c.bindTypes ++ [c.sendText query]).filter fun line =>
        Begins ("await cursor." ++ start) line := by
  have enlist : ∀ line ∈ ["if db.transaction is not None:", "    db.transaction.enlist(cursor)"],
      ¬ Begins "await cursor." line := by
    simp only [List.forall_mem_cons, List.not_mem_nil, false_imp_iff, implies_true, and_true]
    and_intros <;> with_reducible exact not_begins_ofList (by decide)
  rw [executeBody, List.append_assoc (["if db.transaction is not None:", _]), List.filter_append,
    List.filter_append, filter_eq_nil enlist, filter_eq_nil c.not_begins_readResult,
    List.append_nil, List.nil_append]

/-- What a class does to the cursor is what the body of its `execute` does. -/
theorem filter_render {c : Command} (named : c.Named) {lines : List String}
    (rendered : c.render = .ok lines) : ∃ query, c.text = .ok query ∧ ∀ start,
      lines.filter (fun line => Begins (cursorStart ++ start) line) =
        ((c.bindTypes ++ [c.sendText query]).filter fun line =>
          Begins ("await cursor." ++ start) line).map ("            " ++ ·) := by
  obtain ⟨query, text, rfl⟩ := render_eq_ok.mp rendered
  refine ⟨query, text, fun start => ?_⟩
  have margin : String.join (List.replicate 3 indentStep) = "            " := by decide +kernel
  have split : cursorStart ++ start = "            " ++ ("await cursor." ++ start) := by
    rw [← String.append_assoc]
    rfl
  have some : "await cursor." ++ start ≠ "" := fun empty =>
    absurd (String.append_eq_empty_iff.mp empty).1 (by decide)
  have body := filter_indentBy 3 some (c.executeBody query)
  rw [margin, ← split, filter_executeBody] at body
  rw [List.filter_append, List.filter_append, filter_eq_nil (not_begins_heading named),
    filter_eq_nil c.not_begins_executeHead, body]
  rfl

/-- The arguments of the statement that sends a text. -/
def sendArguments (query : String) (values : List String) : String :=
  Text.quote query ++ (Attribute.afterSeparator values ++ ")")

theorem bindTypes_eq (c : Command) : c.bindTypes = if c.parameters = [] then [] else
    ["await cursor." ++ ("setinputsizes(" ++
      sizesArguments (c.parameters.map fun p => p.type.tag))] := by
  have start : "await cursor.setinputsizes([" = "await cursor." ++ ("setinputsizes(" ++ "[") := by
    decide +kernel
  have tags : (c.parameters.map fun p => p.type.tag).map ("pyodbc." ++ ·) =
      c.parameters.map fun p => "pyodbc." ++ p.type.tag := List.map_map
  unfold bindTypes sizesArguments commaSeparated
  rw [tags]
  cases c.parameters with
  | nil => rfl
  | cons p rest =>
    dsimp only [List.isEmpty_cons]
    rw [start, if_neg (List.cons_ne_nil p rest), if_neg Bool.false_ne_true]
    rw [String.append_assoc, String.append_assoc, String.append_assoc, String.append_assoc]

theorem sendText_eq (c : Command) (query : String) :
    c.sendText query = "await cursor." ++ ("execute(" ++
      sendArguments query (c.parameters.map fun p => p.bindValue (some c.schema))) := by
  have start : "await cursor.execute(" = "await cursor." ++ "execute(" := by decide +kernel
  unfold sendText sendArguments
  rw [start, String.append_assoc, String.append_assoc, String.append_assoc]

theorem begins_statement (start rest : String) :
    Begins ("await cursor." ++ start) ("await cursor." ++ (start ++ rest)) :=
  begins_append_right.mpr (begins_append start rest)

theorem margin_statement (start rest : String) :
    "            " ++ ("await cursor." ++ (start ++ rest)) = cursorStart ++ start ++ rest := by
  have margin : "            " ++ "await cursor." = cursorStart := by decide +kernel
  rw [← margin, String.append_assoc, String.append_assoc]

/-- The class announces types exactly if there are parameters, and announces theirs. -/
theorem sizes_of_render {c : Command} (named : c.Named) {lines : List String}
    (rendered : c.render = .ok lines) :
    lines.filter (fun line => Begins sizesStart line) = if c.parameters = [] then []
      else [sizesStart ++ sizesArguments (c.parameters.map fun p => p.type.tag)] := by
  obtain ⟨query, _, filtered⟩ := filter_render named rendered
  have sends : ∀ line ∈ [c.sendText query], ¬ Begins ("await cursor." ++ "setinputsizes(") line := by
    rw [List.forall_mem_singleton, sendText_eq, begins_append_right]
    with_reducible exact not_begins_append (by decide) _
  have announces : ∀ line ∈ c.bindTypes, Begins ("await cursor." ++ "setinputsizes(") line := by
    rw [bindTypes_eq]
    split
    · exact fun _ mem => absurd mem List.not_mem_nil
    · rw [List.forall_mem_singleton]
      exact begins_statement _ _
  rw [sizesStart, filtered, List.filter_append,
    List.filter_eq_self.mpr fun line mem => decide_eq_true (announces line mem),
    List.filter_eq_nil_iff.mpr fun line mem begins => sends line mem (of_decide_eq_true begins),
    List.append_nil, bindTypes_eq]
  split
  · rfl
  · rw [List.map_singleton, margin_statement]

theorem head?_afterSeparator (values : List String) :
    (Attribute.afterSeparator values ++ ")").toList.head? ≠ some '\'' := by
  cases values with
  | nil => decide
  | cons value rest =>
    have comma : ", ".toList = [',', ' '] := by decide
    rw [Attribute.afterSeparator, List.map_cons, String.join_cons, String.append_assoc,
      String.append_assoc, String.toList_append, comma]
    simp

/-- The class sends its query text in one place, with a value for each parameter. -/
theorem sends_of_render {c : Command} (named : c.Named) {lines : List String}
    (rendered : c.render = .ok lines) :
    ∃ query, c.text = .ok query ∧
      Sends lines query (c.parameters.map fun p => p.bindValue (some c.schema)) := by
  obtain ⟨query, text, filtered⟩ := filter_render named rendered
  refine ⟨query, text, sendArguments query (c.parameters.map fun p => p.bindValue (some c.schema)),
    ?_, ?_⟩
  · have sends : ∀ line ∈ [c.sendText query], Begins ("await cursor." ++ "execute(") line := by
      rw [List.forall_mem_singleton, sendText_eq]
      exact begins_statement _ _
    have announces : ∀ line ∈ c.bindTypes, ¬ Begins ("await cursor." ++ "execute(") line := by
      rw [bindTypes_eq]
      split
      · exact fun _ mem => absurd mem List.not_mem_nil
      · rw [List.forall_mem_singleton, begins_append_right]
        with_reducible exact not_begins_append (by decide) _
    rw [sendStart, filtered, List.filter_append,
      List.filter_eq_nil_iff.mpr fun line mem begins => announces line mem (of_decide_eq_true begins),
      List.filter_eq_self.mpr fun line mem => decide_eq_true (sends line mem),
      List.nil_append, List.map_singleton, sendText_eq, margin_statement]
  · rw [sendArguments, String.toList_append, Text.quote, String.toList_ofList]
    exact Text.readLiteral?_quoteChars query.toList (head?_afterSeparator _)

end Command

namespace TableType

theorem constant?_statement (name value : String) :
    constant? name ("    " ++ (name ++ (" " ++ "= ")) ++ Text.quote value) = some value := by
  have rest : ("    " ++ (name ++ (" " ++ "= ")) ++ Text.quote value).toList.drop
      ("    " ++ (name ++ (" " ++ "= "))).toList.length = (Text.quote value).toList := by
    rw [String.toList_append (t := Text.quote value), List.drop_left]
  unfold constant?
  simp only [if_pos (begins_append _ _), rest, Text.readLiteral?_quote, Option.bind_eq_bind,
    Option.bind_some, if_true, String.ofList_toList]

theorem constant?_eq_none {name line : String}
    (h : ¬ Begins ("    " ++ (name ++ (" " ++ "= "))) line) : constant? name line = none :=
  if_neg h

theorem constants_eq_nil {name : String} {lines : List String}
    (h : ∀ line ∈ lines, ¬ Begins ("    " ++ (name ++ (" " ++ "= "))) line) :
    lines.filterMap (constant? name) = [] :=
  List.filterMap_eq_nil_iff.mpr fun line mem => constant?_eq_none (h line mem)

/-- The lines below the two constants. -/
def members (t : TableType) : List String := t.render.drop 4

theorem render_eq (t : TableType) : t.render =
    ["@dataclass(frozen=True)", "class " ++ t.name ++ ":"] ++
      ["    TYPE_NAME = " ++ Text.quote t.name] ++ ["    SCHEMA_NAME = " ++ Text.quote t.schema] ++
      t.members :=
  rfl

theorem not_begins_members {t : TableType} (named : t.Named) {name : String}
    (constant : name = "TYPE_NAME" ∨ name = "SCHEMA_NAME") :
    ∀ line ∈ t.members, ¬ Begins ("    " ++ (name ++ (" " ++ "= "))) line := by
  have fields : ∀ a ∈ t.columns, ¬ Begins ("    " ++ (name ++ (" " ++ "= ")))
      ("    " ++ a.field (some t.schema)) := by
    intro a ha
    have colon : ':' ∉ name.toList := by rcases constant with rfl | rfl <;> decide
    exact Attribute.not_begins_field (named.columns.wellNamed.isIdentifier a ha) colon _ _
  unfold members render
  simp only [List.cons_append, List.drop_succ_cons, List.drop_zero, List.nil_append,
    List.forall_mem_append, List.forall_mem_cons, List.forall_mem_map, String.append_assoc,
    List.not_mem_nil, false_imp_iff, implies_true, and_true]
  rcases constant with rfl | rfl <;> simp only [String.reduceAppend] at fields ⊢ <;>
    and_intros <;> with_reducible
      first
      | exact fields
      | exact not_begins_ofList (by decide)
      | exact not_begins_append (by decide) _

theorem not_begins_opening (t : TableType) (rest : String) :
    ∀ line ∈ ["@dataclass(frozen=True)", "class " ++ t.name ++ ":"],
      ¬ Begins ("    " ++ rest) line := by
  simp only [List.forall_mem_cons, List.not_mem_nil, false_imp_iff, implies_true, and_true,
    String.append_assoc]
  constructor
  · refine mt Begins.of_append ?_
    with_reducible exact not_begins_ofList (by decide)
  · refine mt Begins.of_append ?_
    with_reducible exact not_begins_append (by decide) _

/-- The class of a table type has two constants, the names by which the server knows the type. -/
theorem constants_of_ofEntry {e : TableTypeEntry} {t : TableType} (h : ofEntry e = .ok t) :
    t.constants "TYPE_NAME" = [t.name] ∧ t.constants "SCHEMA_NAME" = [t.schema] := by
  have named := named_of_ofEntry h
  have typeName := constant?_statement "TYPE_NAME" t.name
  have schemaName := constant?_statement "SCHEMA_NAME" t.schema
  simp only [String.reduceAppend] at typeName schemaName
  have noSchema : constant? "TYPE_NAME" ("    SCHEMA_NAME = " ++ Text.quote t.schema) = none := by
    refine constant?_eq_none ?_
    simp only [String.reduceAppend]
    with_reducible exact not_begins_append (by decide) _
  have noType : constant? "SCHEMA_NAME" ("    TYPE_NAME = " ++ Text.quote t.name) = none := by
    refine constant?_eq_none ?_
    simp only [String.reduceAppend]
    with_reducible exact not_begins_append (by decide) _
  unfold constants
  rw [render_eq]
  simp only [List.filterMap_append, List.filterMap_cons, List.filterMap_nil, typeName, schemaName,
    noType, noSchema, constants_eq_nil (t.not_begins_opening _),
    constants_eq_nil (not_begins_members named (.inl rfl)),
    constants_eq_nil (not_begins_members named (.inr rfl)), List.nil_append, List.append_nil,
    and_self]

end TableType

/-- What is bound to a parameter in a dry run: nothing, or a table without rows. Such a table begins
with the two constants of the class of its type. -/
inductive StandsFor : Argument → SqlType → Prop
  | null (kind : Scalar) (owner : Option String) : StandsFor .null (.scalar kind owner)
  | emptyTable (name schema : String)
      (constants : ∀ (e : TableTypeEntry) (t : TableType), TableType.ofEntry e = .ok t →
        t.name = name → t.schema = schema →
          t.constants "TYPE_NAME" = [name] ∧ t.constants "SCHEMA_NAME" = [schema]) :
      StandsFor (.emptyTable name schema) (.table name (some schema))

/-- What a dry run sends. -/
structure Rehearsal where
  tags : List String
  batch : String
  values : List Argument

namespace Rehearsal

/-- The calls of a dry run in which nothing fails. Types are announced if there are any. -/
def calls (r : Rehearsal) : List Call :=
  (if r.tags = [] then [] else [.setInputSizes r.tags]) ++
    [.execute r.batch r.values, .closeCursor, .reset, .closeCursor]

/-- A dry run sends what the class of a command sends: the query text, in the mode that only describes
results, and in the order of the parameters their types and a value for each of them. -/
structure Rehearses (r : Rehearsal) (c : Command) (lines : List String) : Prop where
  batch : ∃ query, c.text = .ok query ∧
    r.batch = "SET NOCOUNT ON; SET FMTONLY ON; " ++ query ∧
    Sends lines query (c.parameters.map fun p => p.bindValue (some c.schema))
  sizes : lines.filter (fun line => Begins sizesStart line) =
    if r.tags = [] then [] else [sizesStart ++ sizesArguments r.tags]
  tags : r.tags.length = c.parameters.length
  values : List.Forall₂ StandsFor r.values (c.parameters.map Attribute.type)

end Rehearsal

/-- A parameter that takes a table says which schema owns the type. -/
def Catalog.Parameter.Owned (p : Parameter) : Prop :=
  p.isTableType = true → ∃ schema, p.typeSchema = some schema ∧ schema ≠ ""

namespace Catalog.Session

variable {driver : Driver}

/-- What is sent in the dry run of a procedure. -/
def rehearsalOf (qualifiedName : String) (parameters : List Attribute) : Rehearsal where
  tags := parameters.map fun p => p.type.tag
  batch := dryRunBatch qualifiedName parameters
  values := parameters.map placeholder

/-- What comes before the reset is all that a dry run sends, unless the types were refused. -/
theorem ProbeOf.calls_eq {qualifiedName : String} {parameters : List Attribute}
    {history inside : List Call} (h : ProbeOf driver qualifiedName parameters history inside) :
    (inside ++ [Call.reset, .closeCursor]).Sublist (rehearsalOf qualifiedName parameters).calls ∧
      (AllAnswered driver history inside →
        inside ++ [.reset, .closeCursor] = (rehearsalOf qualifiedName parameters).calls) := by
  cases h with
  | refused some fails =>
    have tags : parameters.map (fun p => p.type.tag) ≠ [] := mt List.map_eq_nil_iff.mp some
    rw [Rehearsal.calls, rehearsalOf, if_neg tags]
    refine ⟨?_, fun answered => absurd fails answered.1⟩
    exact (List.sublist_cons_self _ _).cons_cons _
  | typed some answered =>
    have tags : parameters.map (fun p => p.type.tag) ≠ [] := mt List.map_eq_nil_iff.mp some
    rw [Rehearsal.calls, rehearsalOf, if_neg tags]
    exact ⟨.refl _, fun _ => rfl⟩
  | untyped none =>
    subst none
    exact ⟨.refl _, fun _ => rfl⟩

/-- Whatever the driver answers, a dry run makes some of its calls in their order, and all of them if
it succeeds. -/
theorem describe_calls (driver : Driver) (qualifiedName : String) (parameters : List Attribute)
    (t : Traced Session) :
    ∃ calls, ((describe driver qualifiedName parameters).ending t).2.state = t.state.after calls ∧
      calls.Sublist (rehearsalOf qualifiedName parameters).calls ∧
      ((∃ columns, ((describe driver qualifiedName parameters).ending t).1 = .ok columns) →
        calls = (rehearsalOf qualifiedName parameters).calls) := by
  rw [describe_eq, ending_bind, requireConnection_ending]
  cases t.state.connected with
  | false => exact ⟨[], (Session.after_nil _).symm, List.nil_sublist _, fun ⟨_, h⟩ => nomatch h⟩
  | true =>
    obtain ⟨_, ⟨inside, rfl, probe⟩, state, answered⟩ :=
      makes_dryRun (makes_probeOf qualifiedName parameters) t
    refine ⟨_, state, probe.calls_eq.1, fun ok => ?_⟩
    exact probe.calls_eq.2 (allAnswered_append.mp (answered ok)).1

end Catalog.Session

namespace Introspection

/-- What stands for the value of a parameter in a dry run is what its type calls for. -/
theorem standsFor_placeholder {p : Parameter} (owned : p.Owned) {a : Attribute}
    (h : Attribute.ofParameter p = .ok a) : StandsFor (Session.placeholder a) a.type := by
  obtain ⟨type, typed, h⟩ := bind_eq_ok.mp h
  obtain ⟨name, _, h⟩ := bind_eq_ok.mp h
  obtain ⟨_, rfl⟩ := Attribute.derive_eq_ok.mp h
  unfold Attribute.typeOfParameter at typed
  split at typed
  · rename_i isTable
    obtain ⟨schema, known, notEmpty⟩ := owned isTable
    cases typed
    have kept : (some schema).filter (· != "") = some schema := by simp [Option.filter, notEmpty]
    simp only [Session.placeholder, known, kept, Option.getD_some]
    refine .emptyTable _ _ fun e t made name own => ?_
    rw [← name, ← own]
    exact TableType.constants_of_ofEntry made
  · unfold SqlType.ofNative at typed
    split at typed
    · cases typed
      exact .null _ _
    · cases typed

/-- A dry run with the parameters of a procedure rehearses any command of the procedure. -/
theorem rehearses_of_madeFromProcedure {p : ProcedureEntry} (owned : ∀ q ∈ p.parameters, q.Owned)
    {parameters : List Attribute} (converted : p.parameters.mapM Attribute.ofParameter = .ok parameters)
    {c : Command} (made : MadeFromProcedure p c) : ∃ lines, c.render = .ok lines ∧
      (Session.rehearsalOf (Sql.qualifiedName p.schema p.name) parameters).Rehearses c lines := by
  have named := named_of_madeFromProcedure made
  obtain ⟨_, reported, same, described⟩ := made
  obtain rfl := Except.ok.inj (converted.symm.trans same)
  obtain ⟨attributes, _, _, _, _, rfl⟩ := describedCommand_ok described
  obtain ⟨lines, rendered⟩ := Command.exists_render_ok (c := ⟨p.schema, p.name,
    Sql.qualifiedName p.schema p.name, parameters,
    if attributes = [] then .nothing else .table attributes, .storedProcedure⟩) (nomatch ·)
  obtain ⟨query, text, sends⟩ := Command.sends_of_render named rendered
  refine ⟨lines, rendered, ⟨query, text, ?_, sends⟩, ?_, List.length_map .., ?_⟩
  · cases text
    cases parameters with
    | nil => exact congrArg (_ ++ ·) String.append_empty
    | cons a rest => exact congrArg (_ ++ ·) (String.append_assoc ..).symm
  · rw [Command.sizes_of_render named rendered]
    simp only [Session.rehearsalOf, List.map_eq_nil_iff]
  · refine List.forall₂_map_left_iff.mpr (List.forall₂_map_right_iff.mpr ?_)
    refine List.forall₂_same.mpr fun a ha => ?_
    obtain ⟨q, hq, made⟩ := exists_of_mem_mapM converted ha
    exact standsFor_placeholder (owned q hq) made

/-- Whatever the driver answers, the dry run of a procedure sends what any class sends that can be
generated for the procedure. It sends all of it if the procedure gets a command. -/
theorem procedureCommand_rehearses {p : ProcedureEntry} (owned : ∀ q ∈ p.parameters, q.Owned)
    {parameters : List Attribute}
    (converted : p.parameters.mapM Attribute.ofParameter = .ok parameters) :
    ∃ r : Rehearsal,
      (∀ c, MadeFromProcedure p c → ∃ lines, c.render = .ok lines ∧ r.Rehearses c lines) ∧
      ∀ (driver : Driver) (t : Traced Session), ∃ calls,
        ((procedureCommand (Session.source driver) p).ending t).2.state = t.state.after calls ∧
        calls.Sublist r.calls ∧
        ∀ c, ((procedureCommand (Session.source driver) p).ending t).1 = .ok c →
          MadeFromProcedure p c ∧ calls = r.calls := by
  refine ⟨_, fun c made => rehearses_of_madeFromProcedure owned converted made, fun driver t => ?_⟩
  obtain ⟨calls, state, sublist, all⟩ :=
    Session.describe_calls driver (Sql.qualifiedName p.schema p.name) parameters t
  have source : (Session.source driver).describe = Session.describe driver := rfl
  unfold procedureCommand
  rw [ending_bind, ending_ofExcept, converted, source]
  dsimp only
  rw [ending_bind]
  rcases described : (Session.describe driver (Sql.qualifiedName p.schema p.name)
    parameters).ending t with ⟨e | columns, u⟩
  · rw [described] at state
    exact ⟨calls, state, sublist, fun _ built => nomatch built⟩
  · rw [described] at state all
    refine ⟨calls, state, sublist, fun c built => ?_⟩
    exact ⟨⟨parameters, columns, converted, built⟩, all ⟨columns, rfl⟩⟩

/-- A procedure that takes a number and a table of another schema. -/
def transfer : ProcedureEntry :=
  ⟨"dbo", "Transfer", [⟨"@id", "int", false, none, none, 1⟩,
    ⟨"@keys", "ids", true, some "sales", none, 2⟩]⟩

def transferParameters : List Attribute :=
  [⟨"id", .plain .int32, false, "@id"⟩, ⟨"keys", .table "ids" (some "sales"), false, "@keys"⟩]

/-- On a connection on which nothing fails the procedure gets a command. -/
theorem procedureCommand_rehearses_transfer : ∃ (c : Command) (lines : List String) (r : Rehearsal),
    let run := (procedureCommand (Session.source (Script.driver {})) transfer).ending
      ⟨{ connected := true }, []⟩
    run.1 = .ok c ∧ c.render = .ok lines ∧ r.Rehearses c lines ∧ run.2.state.calls = r.calls := by
  have owned : ∀ q ∈ transfer.parameters, q.Owned := by simp [transfer, Parameter.Owned]
  obtain ⟨r, rehearses, runs⟩ :=
    @procedureCommand_rehearses transfer owned transferParameters (by rfl)
  obtain ⟨calls, state, _, built⟩ := runs (Script.driver {}) ⟨{ connected := true }, []⟩
  have run : ((procedureCommand (Session.source (Script.driver {})) transfer).ending
      ⟨{ connected := true }, []⟩).1 = describedCommand transfer transferParameters [] := by
    rfl
  cases made : describedCommand transfer transferParameters [] with
  | error e => cases made
  | ok c =>
    rw [made] at run
    obtain ⟨makes, all⟩ := built c run
    obtain ⟨lines, rendered, agrees⟩ := rehearses c makes
    refine ⟨c, lines, r, run, rendered, agrees, ?_⟩
    rw [state, all]
    rfl

end Introspection

end SqlBindings
