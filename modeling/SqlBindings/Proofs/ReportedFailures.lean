import SqlBindings.Proofs.Connectedness
import SqlBindings.Proofs.DryRunOutcomes

/-! A cursor has to be closed after a failed batch, and a session reset after a failed dry run. The
failures of that may take the place of the first one. -/

namespace SqlBindings.Catalog

open Run

/-- A call that an operation is about. The closing of a cursor and the reset only follow such
calls. -/
def Call.IsEssential : Call → Prop
  | .setInputSizes _ => True
  | .execute sql arguments => Call.execute sql arguments ≠ .reset
  | _ => False

/-- The error that is left of a call that failed, once its cursor is closed. -/
def outweighing (driver : Driver) (history : List Call) (e : DriverError) : DriverError :=
  match driver history .closeCursor with
  | .ok _ => e
  | .error f => f

/-- After an essential call that failed, the run closes the cursor and ends. Its failure is the
error that is left. -/
def Relays {α : Type} (driver : Driver) (run : Run Session α) : Prop :=
  ∀ t before call after e, (run.ending t).2.state = t.state.after (before ++ call :: after) →
    call.IsEssential → driver (t.state.calls ++ before) call = .error e →
      after = [.closeCursor] ∧ (run.ending t).1 =
        .error (.driver (outweighing driver (t.state.calls ++ before ++ [call]) e))

section

variable {α β : Type} {driver : Driver} {history here there before after : List Call} {call : Call}

theorem afterClosing_error (driver : Driver) (history : List Call) (e : DriverError) :
    (afterClosing driver history (.error e) : Except DriverError α) =
      .error (outweighing driver history e) := by
  unfold outweighing
  cases closing : driver history .closeCursor with
  | error f => exact afterClosing_of_error closing
  | ok reply => exact afterClosing_of_ok closing

theorem onCursor_of_error {e : DriverError} (fails : driver history call = .error e) :
    onCursor driver history call = .error (outweighing driver (history ++ [call]) e) := by
  rw [onCursor, fails, afterClosing_error]

theorem Session.after_inj {s : Session} (same : s.after here = s.after there) : here = there :=
  List.append_cancel_left (congrArg Session.calls same)

theorem Session.ne_after_cons {s : Session} : s ≠ s.after (before ++ call :: after) := by
  intro same
  have none := congrArg Session.calls same
  simp at none

/-- A call that failed does not stand among calls that were answered. -/
theorem split_of_answered (answered : AllAnswered driver history here)
    (split : here ++ there = before ++ call :: after)
    (fails : Fails driver (history ++ before) call) :
    ∃ more, before = here ++ more ∧ there = more ++ call :: after := by
  rcases List.append_eq_append_iff.mp split with ⟨more, rfl, same⟩ | ⟨more, rfl, same⟩
  · exact ⟨more, rfl, same⟩
  · cases more with
    | nil => exact ⟨[], by simp, by simpa using same.symm⟩
    | cons first more =>
      obtain ⟨rfl, -⟩ := List.cons.inj same
      exact absurd fails (allAnswered_append.mp answered).2.1

/-- An essential call stands in front of the calls that only follow. -/
theorem split_of_inert {front back : List Call} (split : front ++ back = before ++ call :: after)
    (inert : ∀ c ∈ back, ¬ c.IsEssential) (essential : call.IsEssential) :
    ∃ more, front = before ++ call :: more ∧ after = more ++ back := by
  have elsewhere : call ∉ back := fun mem => inert call mem essential
  rcases List.append_eq_append_iff.mp split with ⟨more, rfl, rfl⟩ | ⟨more, rfl, same⟩
  · simp at elsewhere
  · cases more with
    | nil =>
      rw [List.nil_append] at same
      rw [← same] at elsewhere
      simp at elsewhere
    | cons first more =>
      obtain ⟨rfl, rfl⟩ := List.cons.inj same
      exact ⟨more, rfl, rfl⟩

theorem isEssential_query {sql : String} (listed : sql ∈ Query.queries)
    (arguments : List Argument) : (Call.execute sql arguments).IsEssential := by
  intro same
  obtain ⟨rfl, -⟩ := Call.execute.inj same
  exact Query.queries_plain _ listed mentionsMode_describeOnlyOff

theorem isEssential_rehearsal (qualifiedName : String) (parameters : List Attribute) :
    (Session.rehearsal qualifiedName parameters).IsEssential := by
  intro same
  have reset : Session.dryRunBatch qualifiedName parameters = Query.describeOnlyOff :=
    (Call.execute.inj same).1
  exact not_startsMode_describeOnlyOff (reset ▸ startsMode_describeOnly _)

theorem relays_of_silent {run : Run Session α} (silent : ∀ t, (run.ending t).2.state = t.state) :
    Relays driver run := by
  intro t before call after e state
  rw [silent] at state
  exact absurd state Session.ne_after_cons

theorem relays_query (sql : String) (arguments : List Argument) :
    Relays driver (Session.query driver sql arguments) := by
  intro t before call after e state essential fails
  cases connected : t.state.connected with
  | false =>
    rw [Session.needsConnection_query sql arguments t connected] at state
    exact absurd state Session.ne_after_cons
  | true =>
    rw [Session.query_ending connected] at state ⊢
    have calls : [.execute sql arguments] ++ [.closeCursor] = before ++ call :: after :=
      Session.after_inj state
    obtain ⟨more, only, rfl⟩ := split_of_inert calls (by simp [Call.IsEssential]) essential
    obtain ⟨rfl, last⟩ | ⟨_, none⟩ := List.singleton_eq_append_iff.mp only
    · obtain ⟨rfl, rfl⟩ := List.cons.inj last
      rw [List.append_nil] at fails ⊢
      rw [onCursor_of_error fails]
      exact ⟨rfl, rfl⟩
    · simp at none

/-- The second run follows only if all calls of the first one were answered. -/
theorem Relays.bind {run : Run Session α} {f : α → Run Session β} (converses : Converses driver run)
    (first : Relays driver run) (goesOn : ∀ a, Converses driver (f a))
    (second : ∀ a, Relays driver (f a)) : Relays driver (run >>= f) := by
  intro t before call after e state essential fails
  obtain ⟨here, -, made, answered⟩ := converses t
  rw [ending_bind] at state ⊢
  rcases ended : run.ending t with ⟨failure | a, u⟩
  · rw [ended] at state
    have relayed := first t before call after e (by rw [ended]; exact state) essential fails
    rw [ended] at relayed
    exact ⟨relayed.1, congrArg Except.error (Except.error.inj relayed.2)⟩
  · rw [ended] at state made answered
    simp only at state made ⊢
    obtain ⟨there, -, last, -⟩ := goesOn a u
    have whole := last
    rw [state, made, Session.after_after] at whole
    obtain ⟨more, rfl, rfl⟩ :=
      split_of_answered (answered ⟨a, rfl⟩) (Session.after_inj whole).symm ⟨e, fails⟩
    rw [← List.append_assoc, ← Session.after_calls, ← made] at fails ⊢
    exact second a u more call after e last essential fails

theorem Session.Inquires.relays {run : Run Session α} (inquires : Session.Inquires driver run) :
    Relays driver run := by
  induction inquires with
  | silent silent => exact relays_of_silent silent
  | query listed arguments => exact relays_query _ arguments
  | bind first second relaysFirst relaysSecond =>
    exact relaysFirst.bind first.converses (fun a => (second a).converses) relaysSecond

end

namespace Session

variable {driver : Driver} {t : Traced Session} {qualifiedName : String}
  {parameters : List Attribute} {before after : List Call} {call : Call}

/-- Nothing but the closing of the cursor follows a call of a dry run that failed. -/
theorem ProbeEnds.outcome_of_error {history calls more : List Call}
    {outcome : Except DriverError Reply} {e : DriverError}
    (ends : ProbeEnds driver qualifiedName parameters history calls outcome)
    (split : calls = (before ++ call :: more) ++ [.closeCursor])
    (fails : driver (history ++ before) call = .error e) :
    more = [] ∧ outcome = .error (outweighing driver (history ++ before ++ [call]) e) := by
  cases ends with
  | refused some second refused =>
    have only : [announcement parameters] = before ++ call :: more := List.append_cancel_right split
    obtain ⟨rfl, last⟩ | ⟨_, none⟩ := List.singleton_eq_append_iff.mp only
    · obtain ⟨rfl, rfl⟩ := List.cons.inj last
      rw [List.append_nil] at fails ⊢
      obtain rfl := Except.error.inj (refused.symm.trans fails)
      exact ⟨rfl, afterClosing_error _ _ _⟩
    · simp at none
  | typed some reply answered =>
    have both : [announcement parameters, rehearsal qualifiedName parameters] =
        before ++ call :: more := List.append_cancel_right split
    cases before with
    | nil =>
      obtain ⟨rfl, -⟩ := List.cons.inj both
      rw [List.append_nil, answered] at fails
      cases fails
    | cons first before =>
      obtain ⟨rfl, only⟩ := List.cons.inj both
      obtain ⟨rfl, last⟩ | ⟨_, none⟩ := List.singleton_eq_append_iff.mp only
      · obtain ⟨rfl, rfl⟩ := List.cons.inj last
        exact ⟨rfl, onCursor_of_error fails⟩
      · simp at none
  | untyped none =>
    have only : [rehearsal qualifiedName parameters] = before ++ call :: more :=
      List.append_cancel_right split
    obtain ⟨rfl, last⟩ | ⟨_, none⟩ := List.singleton_eq_append_iff.mp only
    · obtain ⟨rfl, rfl⟩ := List.cons.inj last
      rw [List.append_nil] at fails ⊢
      exact ⟨rfl, onCursor_of_error fails⟩
    · simp at none

theorem ProbeEnds.exists_front {history calls : List Call} {outcome : Except DriverError Reply}
    (ends : ProbeEnds driver qualifiedName parameters history calls outcome) :
    ∃ front, calls = front ++ [.closeCursor] := by
  cases ends with
  | refused => exact ⟨[_], rfl⟩
  | typed => exact ⟨[_, _], rfl⟩
  | untyped => exact ⟨[_], rfl⟩

theorem report_state (result : Except Failure (List Datum)) (t : Traced Session) :
    ((report driver qualifiedName result).ending t).2.state =
      t.state.after [.reset, .closeCursor] := by
  cases result with
  | error failure => rw [report_ending_of_error]
  | ok description => rw [report_ending_of_ok]

/-- A dry run reports the error that is left of a call that failed, however the reset ends. -/
theorem describe_relays {e : DriverError}
    (state : ((describe driver qualifiedName parameters).ending t).2.state =
      t.state.after (before ++ call :: after))
    (essential : call.IsEssential) (fails : driver (t.state.calls ++ before) call = .error e) :
    after = [.closeCursor, .reset, .closeCursor] ∧
      ((describe driver qualifiedName parameters).ending t).1 = .error (.dryRun qualifiedName
        (outweighing driver (t.state.calls ++ before ++ [call]) e).text) := by
  cases connected : t.state.connected with
  | false =>
    have needs : NeedsConnection (describe driver qualifiedName parameters) :=
      needsConnection_requireConnection.bind _
    rw [needs t connected] at state
    exact absurd state ne_after_cons
  | true =>
    obtain ⟨calls, outcome, ends, described⟩ :=
      describe_ending driver qualifiedName parameters connected
    rw [described] at state ⊢
    rw [report_state, after_after] at state
    obtain ⟨front, rfl⟩ := ends.exists_front
    rw [List.append_assoc] at state
    have inert : ∀ c ∈ [Call.closeCursor, .reset, .closeCursor], ¬ c.IsEssential := by
      simp [Call.IsEssential, Call.reset]
    obtain ⟨more, rfl, rfl⟩ := split_of_inert (after_inj state) inert essential
    obtain ⟨rfl, rfl⟩ := ends.outcome_of_error rfl fails
    exact ⟨rfl, congrArg Prod.fst (report_ending_of_error _ _ _ _)⟩

end Session

namespace Session.Operation

/-- The failure as which an operation reports an error of the driver. A dry run gives its text as
the reason. -/
def asFailure : Operation → DriverError → Failure
  | describe qualifiedName _, e => .dryRun qualifiedName e.text
  | _, e => .driver e

/-- The failure is the error itself, or it is one of a dry run and its message ends with the text of
the error. -/
def Reports : Operation → DriverError → Failure → Prop
  | describe qualifiedName _, e, failure =>
    ∃ reason, failure = .dryRun qualifiedName reason ∧ e.text.toList <:+ failure.message.toList
  | _, e, failure => failure = .driver e

variable {driver : Driver} {operation : Operation} {t : Traced Session} {before after : List Call}
  {call : Call}

theorem reports_asFailure (operation : Operation) (e : DriverError) :
    operation.Reports e (operation.asFailure e) := by
  cases operation with
  | describe qualifiedName parameters =>
    refine ⟨e.text, rfl, ?_⟩
    change e.text.toList <:+ ("Dry run of " ++ qualifiedName ++ " failed: " ++ e.text).toList
    rw [String.toList_append]
    exact List.suffix_append _ _
  | _ => rfl

theorem asFailure_eq_driver
    (notDryRun : ∀ qualifiedName parameters, operation ≠ .describe qualifiedName parameters)
    (e : DriverError) : operation.asFailure e = .driver e := by
  cases operation with
  | describe qualifiedName parameters => exact absurd rfl (notDryRun qualifiedName parameters)
  | _ => rfl

/-- An operation reports the error that is left of an essential call that failed. -/
theorem run_relays (inquiry : operation.isInquiry = true) {e : DriverError}
    (state : ((operation.run driver).ending t).2.state = t.state.after (before ++ call :: after))
    (essential : call.IsEssential) (fails : driver (t.state.calls ++ before) call = .error e) :
    (∃ rest, after = .closeCursor :: rest) ∧ ((operation.run driver).ending t).1 =
      .error (operation.asFailure (outweighing driver (t.state.calls ++ before ++ [call]) e)) := by
  by_cases dryRun : ∃ qualifiedName parameters, operation = .describe qualifiedName parameters
  · obtain ⟨qualifiedName, parameters, rfl⟩ := dryRun
    rw [run, ending_bind] at state ⊢
    rcases described : (Session.describe driver qualifiedName parameters).ending t with
      ⟨failure | columns, u⟩
    · rw [described] at state
      obtain ⟨rfl, result⟩ := describe_relays (by rw [described]; exact state) essential fails
      rw [described] at result
      exact ⟨⟨_, rfl⟩, congrArg Except.error (Except.error.inj result)⟩
    · rw [described] at state
      obtain ⟨-, result⟩ := describe_relays (by rw [described]; exact state) essential fails
      rw [described] at result
      cases result
  · have notDryRun : ∀ qualifiedName parameters, operation ≠ .describe qualifiedName parameters :=
      fun qualifiedName parameters same => dryRun ⟨qualifiedName, parameters, same⟩
    have relays : Relays driver (operation.run driver) := (inquires_run inquiry notDryRun).relays
    obtain ⟨rfl, result⟩ := relays t before call after e state essential fails
    rw [asFailure_eq_driver notDryRun]
    exact ⟨⟨_, rfl⟩, result⟩

/-- The first failure of a query or a dry run is the one reported exactly if the cursor can be closed
after it, or what is reported of the error in closing it is the same. -/
theorem run_reports_iff (driver : Driver) (operation : Operation)
    (inquiry : operation.isInquiry = true) (t : Traced Session) (before after : List Call)
    (call : Call) (e : DriverError)
    (state : ((operation.run driver).ending t).2.state = t.state.after (before ++ call :: after))
    (essential : call.IsEssential) (fails : driver (t.state.calls ++ before) call = .error e) :
    (∃ rest, after = .closeCursor :: rest) ∧
    ((operation.run driver).ending t).1 =
      .error (operation.asFailure (outweighing driver (t.state.calls ++ before ++ [call]) e)) ∧
    ((∃ failure, ((operation.run driver).ending t).1 = .error failure ∧
        operation.Reports e failure) ↔
      ∀ f, driver (t.state.calls ++ before ++ [call]) .closeCursor = .error f →
        operation.Reports e (operation.asFailure f)) := by
  obtain ⟨closes, result⟩ := run_relays inquiry state essential fails
  refine ⟨closes, result, ?_⟩
  simp only [result, Except.error.injEq, exists_eq_left', outweighing]
  cases closing : driver (t.state.calls ++ before ++ [call]) .closeCursor with
  | ok reply => simp [reports_asFailure]
  | error f => simp

def timeout : DriverError := ⟨"Error", "query timeout"⟩

def linkDown : DriverError := ⟨"Error", "link down"⟩

/-- A batch fails, and the cursor cannot be closed after it. -/
def lostLink : Driver :=
  ({ batches := [.error timeout], cursorCloseError := some linkDown } : Script).driver

theorem run_reports_iff_lostLink :
    let batch := Session.rehearsal "[dbo].[P]" []
    let result := (((describe "[dbo].[P]" []).run lostLink).ending connectedSession).1
    batch.IsEssential ∧ lostLink [] batch = .error timeout ∧
    result = .error (.dryRun "[dbo].[P]" "link down") ∧
    ((∃ failure, result = .error failure ∧ (describe "[dbo].[P]" []).Reports timeout failure) ↔
      ∀ f, lostLink [batch] .closeCursor = .error f →
        (describe "[dbo].[P]" []).Reports timeout ((describe "[dbo].[P]" []).asFailure f)) := by
  have essential : (Session.rehearsal "[dbo].[P]" []).IsEssential := isEssential_rehearsal _ _
  exact ⟨essential, rfl, (run_reports_iff lostLink (describe "[dbo].[P]" []) rfl connectedSession []
    [.closeCursor, .reset, .closeCursor] (Session.rehearsal "[dbo].[P]" []) timeout rfl essential
    rfl).2⟩

/-- The error in closing the cursor is reported in place of the one before it, of a query as well as
of a dry run. -/
theorem run_losesFailure :
    let asked := (serverVersion.run lostLink).ending connectedSession
    let described := ((describe "[dbo].[P]" []).run lostLink).ending connectedSession
    let versionQuery := Call.execute Query.serverVersion []
    let batch := Call.execute "SET NOCOUNT ON; SET FMTONLY ON; EXEC [dbo].[P]" []
    (asked.2.state.calls = [versionQuery, .closeCursor] ∧ versionQuery.IsEssential ∧
      lostLink [] versionQuery = .error timeout ∧ asked.1 = .error (.driver linkDown) ∧
      ¬ ∃ failure, asked.1 = .error failure ∧ serverVersion.Reports timeout failure) ∧
    described.2.state.calls = [batch, .closeCursor, .reset, .closeCursor] ∧ batch.IsEssential ∧
      lostLink [] batch = .error timeout ∧
      described.1 = .error (.dryRun "[dbo].[P]" "link down") ∧
      ¬ ∃ failure, described.1 = .error failure ∧
        (describe "[dbo].[P]" []).Reports timeout failure := by
  refine ⟨⟨rfl, isEssential_query (by simp [Query.queries]) [], rfl, rfl, ?_⟩, rfl,
    isEssential_rehearsal "[dbo].[P]" [], rfl, rfl, ?_⟩
  · rintro ⟨failure, reported, same⟩
    obtain rfl := Except.error.inj reported
    exact absurd same (by simp [Reports, timeout, linkDown])
  · rintro ⟨failure, reported, reason, -, ends⟩
    obtain rfl := Except.error.inj reported
    exact absurd ends (by decide +kernel)

end Session.Operation

end SqlBindings.Catalog
