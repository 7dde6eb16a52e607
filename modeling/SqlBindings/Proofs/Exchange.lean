import SqlBindings.Catalog.Registry
import SqlBindings.Proofs.Run

/-!
# Exchanges with a driver

* `Makes`: the calls a run makes, which are all answered if the run succeeds;
* `Exchange`, `Dialogue`: a query, or a dry run together with the reset after it; and exchanges one
  after another, none of them after a call that failed;
* `Inquires`: a run made of queries, which is what all operations but dry runs are;
* `introspect_converses`: an introspection of a server is such a dialogue, whatever the driver does.
-/

namespace SqlBindings.Catalog

open Run

/-- The driver answers the call with an error. -/
def Fails (driver : Driver) (history : List Call) (call : Call) : Prop :=
  ∃ e, driver history call = .error e

/-- None of the calls made after others fails. -/
def AllAnswered (driver : Driver) : List Call → List Call → Prop
  | _, [] => True
  | history, call :: rest =>
    ¬ Fails driver history call ∧ AllAnswered driver (history ++ [call]) rest

/-- A batch that switches on the mode in which batches only describe their results. -/
def StartsMode (sql : String) : Prop := "SET FMTONLY ON".toList <:+: sql.toList

/-- A batch in which the mode occurs. -/
def MentionsMode (sql : String) : Prop := "FMTONLY".toList <:+: sql.toList

/-- The batch that switches the mode off. -/
def Call.reset : Call := .execute Query.describeOnlyOff []

/-- The calls of a dry run up to its reset. The types of the parameters, if there are any, are
announced first. -/
inductive Probe (driver : Driver) (history : List Call) : List Call → Prop
  | refused (tags : List String) (fails : Fails driver history (.setInputSizes tags)) :
      Probe driver history [.setInputSizes tags, .closeCursor]
  | typed (tags : List String) (sql : String) (arguments : List Argument)
      (answered : ¬ Fails driver history (.setInputSizes tags)) (starts : StartsMode sql) :
      Probe driver history [.setInputSizes tags, .execute sql arguments, .closeCursor]
  | untyped (sql : String) (arguments : List Argument) (starts : StartsMode sql) :
      Probe driver history [.execute sql arguments, .closeCursor]

/-- What a session does at a stretch: a query, in which the mode does not occur, or a dry run and its
reset. -/
inductive Exchange (driver : Driver) (history : List Call) : List Call → Prop
  | query (sql : String) (arguments : List Argument) (plain : ¬ MentionsMode sql) :
      Exchange driver history [.execute sql arguments, .closeCursor]
  | dryRun (calls : List Call) (probe : Probe driver history calls) :
      Exchange driver history (calls ++ [.reset, .closeCursor])

/-- Exchanges one after another. Another one follows only if every call was answered so far. -/
inductive Dialogue (driver : Driver) : List Call → List Call → Prop
  | nil (history : List Call) : Dialogue driver history []
  | last {history calls : List Call} (exchange : Exchange driver history calls) :
      Dialogue driver history calls
  | next {history calls rest : List Call} (exchange : Exchange driver history calls)
      (answered : AllAnswered driver history calls)
      (dialogue : Dialogue driver (history ++ calls) rest) : Dialogue driver history (calls ++ rest)

/-- The session after further calls. -/
def Session.after (s : Session) (calls : List Call) : Session :=
  { s with calls := s.calls ++ calls }

/-- The run makes calls of the form and leaves the connection as it is. It succeeds only if all its
calls are answered. -/
def Makes {α : Type} (driver : Driver) (form : List Call → List Call → Prop) (run : Run Session α) :
    Prop :=
  ∀ t, ∃ calls, form t.state.calls calls ∧
    (run.ending t).2.state = t.state.after calls ∧
    ((∃ a, (run.ending t).1 = .ok a) → AllAnswered driver t.state.calls calls)

/-- The run speaks with the driver in exchanges only. -/
abbrev Converses {α : Type} (driver : Driver) (run : Run Session α) : Prop :=
  Makes driver (Dialogue driver) run

section

variable {driver : Driver} {history calls rest : List Call}

theorem allAnswered_append : AllAnswered driver history (calls ++ rest) ↔
    AllAnswered driver history calls ∧ AllAnswered driver (history ++ calls) rest := by
  induction calls generalizing history with
  | nil => simp [AllAnswered]
  | cons call calls ih => simp [AllAnswered, ih, and_assoc]

theorem Dialogue.append (first : Dialogue driver history calls)
    (answered : AllAnswered driver history calls)
    (second : Dialogue driver (history ++ calls) rest) :
    Dialogue driver history (calls ++ rest) := by
  induction first with
  | nil => simpa using second
  | last exchange => exact .next exchange answered second
  | next exchange here _ ih =>
    rw [List.append_assoc]
    rw [← List.append_assoc] at second
    exact .next exchange here (ih (allAnswered_append.mp answered).2 second)

end

namespace Session

@[simp] theorem after_calls (s : Session) (calls : List Call) :
    (s.after calls).calls = s.calls ++ calls :=
  rfl

@[simp] theorem after_nil (s : Session) : s.after [] = s := by simp [after]

@[simp] theorem after_after (s : Session) (calls rest : List Call) :
    (s.after calls).after rest = s.after (calls ++ rest) := by
  simp [after]

theorem attempt_ending (driver : Driver) (call : Call) (t : Traced Session) :
    (attempt driver call).ending t =
      ((driver t.state.calls call).mapError .driver, { t with state := t.state.after [call] }) :=
  rfl

theorem requireConnection_ending (t : Traced Session) : requireConnection.ending t =
    (if t.state.connected then .ok () else .error .notConnected, t) := by
  rcases t with ⟨⟨_ | _, _⟩, _⟩ <;> rfl

end Session

section

variable {α β : Type} {driver : Driver} {form : List Call → List Call → Prop}

theorem Makes.mono {form' : List Call → List Call → Prop} {run : Run Session α}
    (h : Makes driver form run) (weaker : ∀ history calls, form history calls → form' history calls) :
    Makes driver form' run := by
  intro t
  obtain ⟨calls, formed, rest⟩ := h t
  exact ⟨calls, weaker _ _ formed, rest⟩

/-- A run that makes no calls makes calls of every form that none are. -/
theorem makes_of_silent {run : Run Session α} (silent : ∀ t, (run.ending t).2.state = t.state) :
    Makes driver (fun _ calls => calls = []) run := by
  intro t
  exact ⟨[], rfl, by simp [silent], fun _ => trivial⟩

/-- The second run follows only if the first one succeeds, that is, after calls that were answered. -/
theorem Makes.andThen {form' : List Call → List Call → Prop} {run : Run Session α}
    {f : α → Run Session β} (first : Makes driver form run) (second : ∀ a, Makes driver form' (f a)) :
    Makes driver (fun history calls => form history calls ∨ ∃ here there, calls = here ++ there ∧
      form history here ∧ AllAnswered driver history here ∧ form' (history ++ here) there)
      (run >>= f) := by
  intro t
  obtain ⟨calls, formed, state, answered⟩ := first t
  rw [ending_bind]
  rcases hr : run.ending t with ⟨_ | a, u⟩
  · rw [hr] at state
    exact ⟨calls, .inl formed, state, fun ⟨_, h⟩ => nomatch h⟩
  · rw [hr] at state answered
    obtain ⟨rest, following, state', answered'⟩ := second a u
    simp only at state
    rw [state, Session.after_calls] at following answered'
    have here := answered ⟨a, rfl⟩
    refine ⟨calls ++ rest, .inr ⟨calls, rest, rfl, formed, here, following⟩, ?_, ?_⟩
    · rw [state', state, Session.after_after]
    · exact fun h => allAnswered_append.mpr ⟨here, answered' h⟩

/-- What follows silently adds no calls. -/
theorem Makes.thenSilent {run : Run Session α} {f : α → Run Session β} (first : Makes driver form run)
    (silent : ∀ a t, ((f a).ending t).2.state = t.state) : Makes driver form (run >>= f) := by
  refine (first.andThen fun a => makes_of_silent (silent a)).mono ?_
  rintro history calls (formed | ⟨here, _, rfl, formed, _, rfl⟩)
  · exact formed
  · simpa using formed

/-- What follows a call is run only if the call is answered. -/
theorem makes_attempt_bind {call : Call} {f : Reply → Run Session β}
    (second : ∀ reply, Makes driver form (f reply)) :
    Makes driver (fun history calls => (Fails driver history call ∧ calls = [call]) ∨
      ∃ there, ¬ Fails driver history call ∧ calls = call :: there ∧ form (history ++ [call]) there)
      (Session.attempt driver call >>= f) := by
  intro t
  have attempted := Session.attempt_ending driver call t
  rw [ending_bind]
  cases hd : driver t.state.calls call with
  | error e =>
    rw [hd] at attempted
    rw [attempted]
    exact ⟨[call], .inl ⟨⟨e, hd⟩, rfl⟩, rfl, fun ⟨_, h⟩ => nomatch h⟩
  | ok reply =>
    rw [hd] at attempted
    rw [attempted]
    have answers : ¬ Fails driver t.state.calls call := fun ⟨_, h⟩ => nomatch hd.symm.trans h
    obtain ⟨there, formed, state, answered⟩ := second reply ⟨t.state.after [call], t.log⟩
    refine ⟨call :: there, .inr ⟨there, answers, rfl, formed⟩, ?_, ?_⟩
    · exact state.trans (Session.after_after ..)
    · exact fun h => ⟨answers, answered h⟩

/-- A call whose reply is only looked at. -/
theorem makes_attempt {call : Call} {f : Reply → Run Session β}
    (silent : ∀ reply t, ((f reply).ending t).2.state = t.state) :
    Makes driver (fun _ calls => calls = [call]) (Session.attempt driver call >>= f) := by
  refine (makes_attempt_bind fun reply => makes_of_silent (silent reply)).mono ?_
  rintro _ _ (⟨_, rfl⟩ | ⟨_, _, rfl, rfl⟩) <;> rfl

/-- What is told the outcome follows also calls that failed. It must fail then. -/
theorem Makes.thenWithOutcome {form' : List Call → List Call → Prop} {run : Run Session α}
    {f : Except Failure α → Run Session β} (first : Makes driver form run)
    (second : ∀ r, Makes driver form' (f r)) (fails : ∀ e t b, ((f (.error e)).ending t).1 ≠ .ok b) :
    Makes driver (fun history calls => ∃ here there, calls = here ++ there ∧ form history here ∧
      form' (history ++ here) there) (run.outcome >>= f) := by
  intro t
  obtain ⟨here, formed, state, answered⟩ := first t
  obtain ⟨there, formed', state', answered'⟩ := second (run.ending t).1 (run.ending t).2
  rw [state, Session.after_calls] at formed' answered'
  rw [ending_bind, ending_outcome]
  refine ⟨here ++ there, ⟨here, there, rfl, formed, formed'⟩, ?_, ?_⟩
  · exact state'.trans (by rw [state, Session.after_after])
  · intro h
    refine allAnswered_append.mpr ⟨?_, answered' h⟩
    cases hr : (run.ending t).1 with
    | ok a => exact answered ⟨a, hr⟩
    | error e =>
      obtain ⟨b, h⟩ := h
      simp only [hr] at h
      exact absurd h (fails e _ b)

theorem Makes.followedAlwaysBy {form' : List Call → List Call → Prop} {body : Run Session α}
    {cleanup : Run Session Unit} (first : Makes driver form body)
    (second : Makes driver form' cleanup) :
    Makes driver (fun history calls => ∃ here there, calls = here ++ there ∧ form history here ∧
      form' (history ++ here) there) (body.followedAlwaysBy cleanup) := by
  refine first.thenWithOutcome (fun r => second.thenSilent fun _ _ => rfl) ?_
  intro e t b
  rw [ending_bind]
  rcases cleanup.ending t with ⟨_ | _, _⟩ <;> exact fun h => nomatch h

theorem makes_withCursor {body : Run Session α} (h : Makes driver form body) :
    Makes driver
      (fun history calls => ∃ inside, calls = inside ++ [.closeCursor] ∧ form history inside)
      (Session.withCursor driver body) := by
  refine (h.followedAlwaysBy (makes_attempt fun _ _ => rfl)).mono ?_
  rintro history _ ⟨inside, _, rfl, formed, rfl⟩
  exact ⟨inside, rfl, formed⟩

theorem converses_of_silent {run : Run Session α} (silent : ∀ t, (run.ending t).2.state = t.state) :
    Converses driver run :=
  (makes_of_silent silent).mono fun history _ none => none ▸ .nil history

theorem converses_ofExcept (result : Except Failure α) : Converses driver (Run.ofExcept result) :=
  converses_of_silent fun _ => rfl

theorem converses_pure (a : α) : Converses driver (pure a : Run Session α) :=
  converses_of_silent fun _ => rfl

theorem converses_log {level : LogLevel} {source : LogSource} {message : String} :
    Converses driver (Run.log level source message : Run Session Unit) :=
  converses_of_silent fun _ => rfl

theorem Makes.bind {run : Run Session α} {f : α → Run Session β} (first : Converses driver run)
    (second : ∀ a, Converses driver (f a)) : Converses driver (run >>= f) := by
  refine (first.andThen second).mono ?_
  rintro history _ (dialogue | ⟨here, there, rfl, dialogue, answered, following⟩)
  · exact dialogue
  · exact dialogue.append answered following

theorem converses_mapM {f : α → Run Session β} (each : ∀ a, Converses driver (f a)) (xs : List α) :
    Converses driver (xs.mapM f) := by
  induction xs with
  | nil => exact converses_pure []
  | cons x xs ih =>
    rw [List.mapM_cons]
    exact (each x).bind fun y => ih.bind fun ys => converses_pure (y :: ys)

end

theorem StartsMode.mentionsMode {sql : String} (h : StartsMode sql) : MentionsMode sql := by
  have here : "FMTONLY".toList <:+: "SET FMTONLY ON".toList := by decide +kernel
  exact here.trans h

theorem mentionsMode_describeOnlyOff : MentionsMode Query.describeOnlyOff := by
  have here : "FMTONLY".toList <:+: "SET FMTONLY OFF".toList := by decide +kernel
  exact here

theorem not_startsMode_describeOnlyOff : ¬ StartsMode Query.describeOnlyOff := by
  have elsewhere : ¬ "SET FMTONLY ON".toList <:+: "SET FMTONLY OFF".toList := by decide +kernel
  exact elsewhere

theorem startsMode_describeOnly (batch : String) : StartsMode (Query.describeOnly batch) := by
  have start : "SET FMTONLY ON".toList <:+: "SET NOCOUNT ON; SET FMTONLY ON; ".toList := by
    decide +kernel
  unfold StartsMode Query.describeOnly
  rw [String.toList_append]
  exact start.trans (List.prefix_append _ _).isInfix

/-- The characters of a literal are not computed from its bytes this way, which takes long. -/
theorem mentionsMode_ofList {cs : List Char} :
    MentionsMode (String.ofList cs) ↔ "FMTONLY".toList <:+: cs :=
  Iff.of_eq (congrArg _ String.toList_ofList)

theorem mentionsMode_append_ofList {as bs cs : List Char} :
    MentionsMode (String.ofList as ++ String.ofList bs ++ String.ofList cs) ↔
      "FMTONLY".toList <:+: as ++ bs ++ cs := by
  rw [← mentionsMode_ofList, String.ofList_append, String.ofList_append]

namespace Query

/-- The queries that an introspection makes. -/
def queries : List String :=
  [serverVersion, tableTypes, tables, parameters, columns, routines functionKinds,
    routines procedureKinds]

set_option maxRecDepth 4000

theorem queries_plain : ∀ sql ∈ queries, ¬ MentionsMode sql := by
  have functions : ", ".intercalate (functionKinds.map fun kind => "'" ++ kind ++ "'") =
      "'FN', 'FS', 'IF', 'TF', 'FT'" := by decide +kernel
  have procedures : ", ".intercalate (procedureKinds.map fun kind => "'" ++ kind ++ "'") = "'P'" := by
    decide +kernel
  unfold queries routines
  rw [functions, procedures]
  simp only [List.forall_mem_cons, List.not_mem_nil, false_imp_iff, implies_true, and_true]
  refine ⟨mt mentionsMode_ofList.mp ?_, mt mentionsMode_ofList.mp ?_, mt mentionsMode_ofList.mp ?_,
    mt mentionsMode_ofList.mp ?_, mt mentionsMode_ofList.mp ?_, mt mentionsMode_append_ofList.mp ?_,
    mt mentionsMode_append_ofList.mp ?_⟩ <;> decide +kernel

end Query

namespace Session

variable {driver : Driver}

/-- What needs a connection makes its calls if there is one. -/
theorem converses_connected {α : Type} {run : Run Session α} (h : Converses driver run) :
    Converses driver (requireConnection >>= fun _ => run) := by
  refine Makes.bind (converses_of_silent fun t => ?_) fun _ => h
  rcases t with ⟨⟨_ | _, _⟩, _⟩ <;> rfl

theorem converses_query {sql : String} (listed : sql ∈ Query.queries) (arguments : List Argument) :
    Converses driver (query driver sql arguments) := by
  refine converses_connected ((makes_withCursor (makes_attempt fun _ _ => rfl)).mono ?_)
  rintro history _ ⟨_, rfl, rfl⟩
  exact .last (.query sql arguments (Query.queries_plain sql listed))

/-- A run made of queries, with steps between them that do not speak with the driver. -/
inductive Inquires (driver : Driver) : {α : Type} → Run Session α → Prop
  | silent {α : Type} {run : Run Session α} (silent : ∀ t, (run.ending t).2.state = t.state) :
      Inquires driver run
  | query {sql : String} (listed : sql ∈ Query.queries) (arguments : List Argument) :
      Inquires driver (Session.query driver sql arguments)
  | bind {α β : Type} {run : Run Session α} {f : α → Run Session β} (first : Inquires driver run)
      (second : ∀ a, Inquires driver (f a)) : Inquires driver (run >>= f)

theorem Inquires.converses {α : Type} {run : Run Session α} (inquires : Inquires driver run) :
    Converses driver run := by
  induction inquires with
  | silent silent => exact converses_of_silent silent
  | query listed arguments => exact converses_query listed arguments
  | bind _ _ first second => exact first.bind second

/-- The tags that are announced before a dry run. -/
def announcement (parameters : List Attribute) : Call :=
  .setInputSizes (parameters.map fun p => p.type.tag)

/-- The batch of a dry run with the values bound in it. -/
def rehearsal (qualifiedName : String) (parameters : List Attribute) : Call :=
  .execute (dryRunBatch qualifiedName parameters) (parameters.map placeholder)

/-- The calls of the dry run of a procedure up to its reset. The batch is not sent if the types are
refused. -/
inductive ProbeOf (driver : Driver) (qualifiedName : String) (parameters : List Attribute)
    (history : List Call) : List Call → Prop
  | refused (some : parameters ≠ []) (fails : Fails driver history (announcement parameters)) :
      ProbeOf driver qualifiedName parameters history [announcement parameters, .closeCursor]
  | typed (some : parameters ≠ []) (answered : ¬ Fails driver history (announcement parameters)) :
      ProbeOf driver qualifiedName parameters history
        [announcement parameters, rehearsal qualifiedName parameters, .closeCursor]
  | untyped (none : parameters = []) :
      ProbeOf driver qualifiedName parameters history
        [rehearsal qualifiedName parameters, .closeCursor]

theorem makes_probeOf (qualifiedName : String) (parameters : List Attribute) :
    Makes driver (ProbeOf driver qualifiedName parameters)
      (probe driver qualifiedName parameters) := by
  have execute : Makes driver _ (do
      return (← attempt driver (rehearsal qualifiedName parameters)).description) :=
    makes_attempt fun _ _ => rfl
  unfold probe
  cases empty : parameters.isEmpty with
  | true =>
    refine (makes_withCursor execute).mono ?_
    rintro history _ ⟨_, rfl, rfl⟩
    exact .untyped (List.isEmpty_iff.mp empty)
  | false =>
    have some : parameters ≠ [] := List.isEmpty_eq_false_iff.mp empty
    refine (makes_withCursor (makes_attempt_bind fun _ => execute)).mono ?_
    rintro history _ ⟨_, rfl, ⟨fails, rfl⟩ | ⟨_, answered, rfl, rfl⟩⟩
    · exact .refused some fails
    · exact .typed some answered

theorem makes_probe (qualifiedName : String) (parameters : List Attribute) :
    Makes driver (Probe driver) (probe driver qualifiedName parameters) := by
  have starts : StartsMode (dryRunBatch qualifiedName parameters) := startsMode_describeOnly _
  refine (makes_probeOf qualifiedName parameters).mono ?_
  rintro history _ (⟨_, fails⟩ | ⟨_, answered⟩ | _)
  · exact .refused _ fails
  · exact .typed _ _ _ answered starts
  · exact .untyped _ _ starts

theorem makes_resetMode :
    Makes driver (fun _ calls => calls = [.reset, .closeCursor]) (resetMode driver) := by
  refine (makes_withCursor (makes_attempt fun _ _ => rfl)).mono ?_
  rintro history _ ⟨_, rfl, rfl⟩
  rfl

/-- What follows a dry run, whether it failed or not. -/
def report (driver : Driver) (qualifiedName : String) :
    Except Failure (List Datum) → Run Session (List ResultColumn)
  | .ok description => do
    resetMode driver
    Run.ofExcept (description.mapM Row.resultColumn)
  | .error failure => do
    if let .error second ← (resetMode driver).outcome then
      log .warning ("Could not reset FMTONLY after dry run of " ++ qualifiedName ++ ": " ++
        second.message)
    throw (.dryRun qualifiedName failure.message)

theorem describe_eq (driver : Driver) (qualifiedName : String) (parameters : List Attribute) :
    describe driver qualifiedName parameters = requireConnection >>= fun _ =>
      (probe driver qualifiedName parameters).outcome >>= report driver qualifiedName :=
  rfl

theorem makes_report (qualifiedName : String) (r : Except Failure (List Datum)) :
    Makes driver (fun _ calls => calls = [.reset, .closeCursor]) (report driver qualifiedName r) := by
  cases r with
  | error e =>
    refine (makes_resetMode.thenWithOutcome (fun r => makes_of_silent fun t => ?_) ?_).mono ?_
    · cases r <;> rfl
    · exact fun _ _ _ h => nomatch h
    · rintro history _ ⟨_, _, rfl, rfl, rfl⟩
      rfl
  | ok description => exact makes_resetMode.thenSilent fun _ _ => rfl

theorem report_fails (qualifiedName : String) (e : Failure) (t : Traced Session)
    (columns : List ResultColumn) :
    ((report driver qualifiedName (.error e)).ending t).1 ≠ .ok columns := by
  rw [report, ending_bind, ending_outcome]
  rcases ((resetMode driver).ending t) with ⟨_ | _, _⟩ <;> exact fun h => nomatch h

/-- The reset follows a dry run in any case, and the failure of the dry run stays one. -/
theorem makes_dryRun {form : List Call → List Call → Prop} {qualifiedName : String}
    {parameters : List Attribute} (h : Makes driver form (probe driver qualifiedName parameters)) :
    Makes driver
      (fun history calls => ∃ inside, calls = inside ++ [.reset, .closeCursor] ∧
        form history inside)
      ((probe driver qualifiedName parameters).outcome >>= report driver qualifiedName) := by
  refine (h.thenWithOutcome (makes_report qualifiedName) (report_fails qualifiedName)).mono ?_
  rintro history _ ⟨inside, _, rfl, formed, rfl⟩
  exact ⟨inside, rfl, formed⟩

theorem converses_describe {qualifiedName : String} {parameters : List Attribute} :
    Converses driver (describe driver qualifiedName parameters) := by
  rw [describe_eq]
  refine converses_connected ((makes_dryRun (makes_probe qualifiedName parameters)).mono ?_)
  rintro history _ ⟨calls, rfl, probe⟩
  exact .last (.dryRun calls probe)

theorem inquires_ofExcept {α : Type} (result : Except Failure α) :
    Inquires driver (Run.ofExcept result) :=
  .silent fun _ => rfl

theorem inquires_pure {α : Type} (a : α) : Inquires driver (pure a) :=
  .silent fun _ => rfl

theorem inquires_mapM {α β : Type} {f : α → Run Session β} (each : ∀ a, Inquires driver (f a))
    (xs : List α) : Inquires driver (xs.mapM f) := by
  induction xs with
  | nil => exact inquires_pure []
  | cons x xs ih =>
    rw [List.mapM_cons]
    exact (each x).bind fun y => ih.bind fun ys => inquires_pure (y :: ys)

theorem inquires_serverVersion : Inquires driver (serverVersion driver) := by
  refine .bind (.query (by simp [Query.queries]) []) fun rows => ?_
  exact inquires_ofExcept _

theorem inquires_fetched {α : Type} {what : String} {entries : List α} :
    Inquires driver (fetched what entries) :=
  .silent fun _ => rfl

theorem inquires_tableTypes : Inquires driver (tableTypes driver) := by
  refine .bind (.query (by simp [Query.queries]) []) fun rows => ?_
  exact (inquires_ofExcept (Row.tableTypes rows)).bind fun _ => inquires_fetched

theorem inquires_tables : Inquires driver (tables driver) := by
  refine .bind (.query (by simp [Query.queries]) []) fun rows => ?_
  exact (inquires_ofExcept (Row.tables rows)).bind fun _ => inquires_fetched

theorem inquires_signature {qualifiedName : String} {routine : Row.Routine} :
    Inquires driver (signature driver qualifiedName routine) := by
  refine (inquires_ofExcept routine.defaults).bind fun defaults => ?_
  refine .bind (.query (by simp [Query.queries]) _) fun rows => ?_
  exact inquires_ofExcept _

theorem inquires_functionColumns {qualifiedName : String} {returnType : Datum} :
    Inquires driver (functionColumns driver qualifiedName returnType) := by
  unfold functionColumns
  split
  · exact inquires_pure []
  · refine .bind (.query (by simp [Query.queries]) _) fun rows => ?_
    exact inquires_ofExcept _

theorem inquires_function (row : Datum) : Inquires driver (function driver row) := by
  refine (inquires_ofExcept (Row.routine row)).bind fun routine => ?_
  refine (inquires_ofExcept routine.qualifiedName).bind fun qualifiedName => ?_
  refine (inquires_ofExcept routine.kindCode).bind fun kind => ?_
  refine inquires_signature.bind fun signature => ?_
  exact inquires_functionColumns.bind fun _ => inquires_ofExcept _

theorem inquires_functions : Inquires driver (functions driver) := by
  refine .bind (.query (by simp [Query.queries]) []) fun rows => ?_
  exact (inquires_mapM inquires_function rows).bind fun _ => inquires_fetched

theorem inquires_procedure (row : Datum) : Inquires driver (procedure driver row) := by
  refine (inquires_ofExcept (Row.routine row)).bind fun routine => ?_
  refine (inquires_ofExcept routine.qualifiedName).bind fun qualifiedName => ?_
  exact inquires_signature.bind fun _ => inquires_ofExcept _

theorem inquires_procedures : Inquires driver (procedures driver) := by
  refine .bind (.query (by simp [Query.queries]) []) fun rows => ?_
  exact (inquires_mapM inquires_procedure rows).bind fun _ => inquires_fetched

end Session

open Introspection

theorem converses_procedureCommand (driver : Driver) (p : ProcedureEntry) :
    Converses driver (procedureCommand (Session.source driver) p) := by
  refine (converses_ofExcept (p.parameters.mapM Attribute.ofParameter)).bind fun parameters => ?_
  exact Session.converses_describe.bind fun _ => converses_ofExcept _

/-- Whatever the driver answers, an introspection is a dialogue with it. -/
theorem introspect_converses (driver : Driver) :
    Converses driver (introspect (Session.source driver)) := by
  unfold introspect
  refine Session.inquires_serverVersion.converses.bind fun _ => converses_log.bind fun _ => ?_
  refine Session.inquires_tableTypes.converses.bind fun _ => (converses_ofExcept _).bind fun _ => ?_
  refine Session.inquires_functions.converses.bind fun _ => (converses_ofExcept _).bind fun _ => ?_
  refine Session.inquires_procedures.converses.bind fun _ => ?_
  refine (converses_mapM (converses_procedureCommand driver) _).bind fun _ => ?_
  refine Session.inquires_tables.converses.bind fun _ => (converses_ofExcept _).bind fun _ => ?_
  exact converses_log.bind fun _ => converses_pure _

end SqlBindings.Catalog
