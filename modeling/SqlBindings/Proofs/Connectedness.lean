import Mathlib.Data.List.Induction
import SqlBindings.Proofs.Disconnection

namespace SqlBindings.Catalog.Session

open Run

inductive Operation where
  | connect (settings : List (String × Datum))
  | serverVersion
  | tableTypes
  | functions
  | procedures
  | tables
  | describe (qualifiedName : String) (parameters : List Attribute)
  | close

namespace Operation

def isInquiry : Operation → Bool
  | connect _ | close => false
  | _ => true

/-- The operation without its value. -/
def run (driver : Driver) : Operation → Run Session Unit
  | connect settings => Session.connect driver settings
  | serverVersion => do let _ ← Session.serverVersion driver
  | tableTypes => do let _ ← Session.tableTypes driver
  | functions => do let _ ← Session.functions driver
  | procedures => do let _ ← Session.procedures driver
  | tables => do let _ ← Session.tables driver
  | describe qualifiedName parameters => do
    let _ ← Session.describe driver qualifiedName parameters
  | close => Session.close driver

end Operation

/-- An operation that has ended. -/
structure Event where
  operation : Operation
  result : Except Failure Unit

/-- A connection was opened. -/
def Event.Opens (event : Event) : Prop :=
  (∃ settings, event.operation = .connect settings) ∧ event.result = .ok ()

def Event.Closes (event : Event) : Prop := event.operation = .close

/-- What a session has been through, and how it stands. -/
structure History where
  events : List Event
  present : Traced Session

namespace History

def new : History := ⟨[], ⟨{}, []⟩⟩

def extend (driver : Driver) (history : History) (operation : Operation) : History :=
  let (result, present) := (operation.run driver).ending history.present
  ⟨history.events ++ [⟨operation, result⟩], present⟩

/-- Operations one after another. What the driver answers may depend on all calls made so far. -/
def of (driver : Driver) (operations : List Operation) : History :=
  operations.foldl (extend driver) new

theorem of_concat (driver : Driver) (operations : List Operation) (operation : Operation) :
    of driver (operations ++ [operation]) = (of driver operations).extend driver operation := by
  simp [of]

end History

/-- A connection was opened, and the session was not closed since the last time one was. -/
def LeftOpen (events : List Event) : Prop :=
  ∃ before last after, events = before ++ last :: after ∧ last.Opens ∧
    ∀ event ∈ after, ¬ event.Opens ∧ ¬ event.Closes

theorem not_leftOpen_nil : ¬ LeftOpen [] := by
  rintro ⟨before, last, after, empty, _, _⟩
  simp at empty

theorem leftOpen_concat {events : List Event} {event : Event} :
    LeftOpen (events ++ [event]) ↔ event.Opens ∨ LeftOpen events ∧ ¬ event.Closes := by
  constructor
  · -- the last connection was opened by the new event, or the new event comes after it
    rintro ⟨before, last, after, split, opens, since⟩
    rcases List.eq_nil_or_concat' after with rfl | ⟨after, final, rfl⟩
    · obtain ⟨_, same⟩ := List.append_inj' split rfl
      cases same
      exact .inl opens
    · rw [← List.cons_append, ← List.append_assoc] at split
      obtain ⟨rfl, same⟩ := List.append_inj' split rfl
      cases same
      have stays := (since event (by simp)).2
      exact .inr ⟨⟨before, last, after, rfl, opens, fun e mem => since e (by simp [mem])⟩, stays⟩
  · rintro (opens | ⟨⟨before, last, after, rfl, opens, since⟩, stays⟩)
    · exact ⟨events, event, [], rfl, opens, by simp⟩
    · by_cases again : event.Opens
      · exact ⟨_, event, [], rfl, again, by simp⟩
      · refine ⟨before, last, after ++ [event], by simp, opens, ?_⟩
        intro e mem
        rcases List.mem_append.mp mem with mem | mem
        · exact since e mem
        · rw [List.mem_singleton.mp mem]
          exact ⟨again, stays⟩

/-- Without a connection the run is refused and makes no call. -/
def NeedsConnection {α : Type} (run : Run Session α) : Prop :=
  ∀ t, t.state.connected = false → run.ending t = (.error .notConnected, t)

section

variable {α β : Type} {driver : Driver}

theorem NeedsConnection.bind {run : Run Session α} (h : NeedsConnection run)
    (f : α → Run Session β) : NeedsConnection (run >>= f) := by
  intro t disconnected
  rw [ending_bind, h t disconnected]

theorem needsConnection_requireConnection : NeedsConnection requireConnection := by
  intro t disconnected
  rw [requireConnection_ending, disconnected]
  rfl

theorem needsConnection_query (sql : String) (arguments : List Argument) :
    NeedsConnection (query driver sql arguments) :=
  needsConnection_requireConnection.bind _

end

namespace Operation

variable {driver : Driver} {operation : Operation}

theorem inquires_run (inquiry : operation.isInquiry = true)
    (notDryRun : ∀ qualifiedName parameters, operation ≠ .describe qualifiedName parameters) :
    Inquires driver (operation.run driver) := by
  cases operation with
  | connect settings => cases inquiry
  | serverVersion => exact inquires_serverVersion.bind fun _ => inquires_pure ()
  | tableTypes => exact inquires_tableTypes.bind fun _ => inquires_pure ()
  | functions => exact inquires_functions.bind fun _ => inquires_pure ()
  | procedures => exact inquires_procedures.bind fun _ => inquires_pure ()
  | tables => exact inquires_tables.bind fun _ => inquires_pure ()
  | describe qualifiedName parameters => exact absurd rfl (notDryRun qualifiedName parameters)
  | close => cases inquiry

theorem converses_run (inquiry : operation.isInquiry = true) :
    Converses driver (operation.run driver) := by
  by_cases dryRun : ∃ qualifiedName parameters, operation = .describe qualifiedName parameters
  · obtain ⟨qualifiedName, parameters, rfl⟩ := dryRun
    exact converses_describe.bind fun _ => converses_pure ()
  · have notDryRun : ∀ qualifiedName parameters, operation ≠ .describe qualifiedName parameters :=
      fun qualifiedName parameters same => dryRun ⟨qualifiedName, parameters, same⟩
    exact (inquires_run inquiry notDryRun).converses

theorem needsConnection_run (inquiry : operation.isInquiry = true) :
    NeedsConnection (operation.run driver) := by
  cases operation with
  | connect settings => cases inquiry
  | serverVersion => exact ((needsConnection_query _ _).bind _).bind _
  | tableTypes => exact ((needsConnection_query _ _).bind _).bind _
  | functions => exact ((needsConnection_query _ _).bind _).bind _
  | procedures => exact ((needsConnection_query _ _).bind _).bind _
  | tables => exact ((needsConnection_query _ _).bind _).bind _
  | describe qualifiedName parameters =>
    exact (needsConnection_requireConnection.bind _).bind _
  | close => cases inquiry

/-- What an operation does to the connection, from its result and what it leaves behind. -/
structure Orderly (operation : Operation) (before : Traced Session) (result : Except Failure Unit)
    (after : Traced Session) : Prop where
  opened : ∀ settings, operation = .connect settings → result = .ok () →
    ∃ server, after.state = ⟨true, before.state.calls ++ [.connect server]⟩
  /-- A connection that cannot be opened replaces none, and none is closed for it. -/
  refused : ∀ settings e, operation = .connect settings → result = .error e →
    after.state = before.state ∨ ∃ server, after.state = before.state.after [.connect server]
  /-- An inquiry is about cursors only, however it ends. -/
  inquired : operation.isInquiry = true →
    ∃ calls, after.state = before.state.after calls ∧ ∀ call ∈ calls, call.OfCursor
  /-- Without a connection an inquiry is refused, and the driver is not asked. -/
  notConnected : operation.isInquiry = true → before.state.connected = false →
    result = .error .notConnected ∧ after = before
  /-- The connection is given up even if the driver cannot close it. -/
  closed : operation = .close → before.state.connected = true →
    result = .ok () ∧ after.state = ⟨false, before.state.calls ++ [.closeConnection]⟩
  /-- Without a connection there is nothing to close, and the driver is not asked. -/
  idle : operation = .close → before.state.connected = false → result = .ok () ∧ after = before

theorem connect_cases (driver : Driver) (settings : List (String × Datum)) (t : Traced Session) :
    (∃ server, (((connect settings).run driver).ending t).1 = .ok () ∧
      (((connect settings).run driver).ending t).2.state =
        ⟨true, t.state.calls ++ [.connect server]⟩) ∨
    ∃ e, (((connect settings).run driver).ending t).1 = .error e ∧
      ((((connect settings).run driver).ending t).2.state = t.state ∨
        ∃ server, (((connect settings).run driver).ending t).2.state =
          t.state.after [.connect server]) := by
  rw [run, connect_ending]
  cases Session.target settings with
  | error e => exact .inr ⟨e, rfl, .inl rfl⟩
  | ok server =>
    simp only
    cases driver t.state.calls (.connect server) with
    | error e => exact .inr ⟨.driver e, rfl, .inr ⟨server, rfl⟩⟩
    | ok reply => exact .inl ⟨server, rfl, rfl⟩

theorem run_orderly (driver : Driver) (operation : Operation) (t : Traced Session) :
    Orderly operation t ((operation.run driver).ending t).1 ((operation.run driver).ending t).2 where
  opened := by
    rintro settings rfl succeeded
    obtain ⟨server, _, state⟩ | ⟨e, failed, _⟩ := connect_cases driver settings t
    · exact ⟨server, state⟩
    · rw [failed] at succeeded
      cases succeeded
  refused := by
    rintro settings e rfl failed
    obtain ⟨server, succeeded, _⟩ | ⟨_, _, state⟩ := connect_cases driver settings t
    · rw [succeeded] at failed
      cases failed
    · exact state
  inquired inquiry := by
    obtain ⟨calls, dialogue, state, _⟩ := converses_run inquiry t
    exact ⟨calls, state, dialogue.ofCursor⟩
  notConnected inquiry disconnected := by
    rw [needsConnection_run inquiry t disconnected]
    exact ⟨rfl, rfl⟩
  closed := by
    rintro rfl connected
    change ((Session.close driver).ending t).1 = _ ∧ ((Session.close driver).ending t).2.state = _
    rw [close_ending driver connected]
    exact ⟨rfl, rfl⟩
  idle := by
    rintro rfl disconnected
    change ((Session.close driver).ending t).1 = _ ∧ ((Session.close driver).ending t).2 = _
    rw [close_ending_disconnected driver disconnected]
    exact ⟨rfl, rfl⟩

theorem not_opens_of_isInquiry (inquiry : operation.isInquiry = true) (result : Except Failure Unit) :
    ¬ (Event.mk operation result).Opens := by
  rintro ⟨⟨settings, rfl⟩, _⟩
  cases inquiry

theorem not_closes_of_isInquiry (inquiry : operation.isInquiry = true)
    (result : Except Failure Unit) : ¬ (Event.mk operation result).Closes := by
  rintro rfl
  cases inquiry

/-- There is a connection after an operation if it opened one, or if there was one before and it is not
`close`. -/
theorem connected_run (driver : Driver) (operation : Operation) (t : Traced Session) :
    ((operation.run driver).ending t).2.state.connected = true ↔
      (Event.mk operation ((operation.run driver).ending t).1).Opens ∨
        t.state.connected = true ∧
          ¬ (Event.mk operation ((operation.run driver).ending t).1).Closes := by
  have orderly := run_orderly driver operation t
  by_cases inquiry : operation.isInquiry = true
  · obtain ⟨calls, state, _⟩ := orderly.inquired inquiry
    rw [state]
    simp [not_opens_of_isInquiry inquiry, not_closes_of_isInquiry inquiry, after]
  · cases operation with
    | connect settings =>
      cases ended : ((run driver (connect settings)).ending t).1 with
      | error e =>
        have same : ((run driver (connect settings)).ending t).2.state.connected =
            t.state.connected := by
          rcases orderly.refused settings e rfl ended with state | ⟨server, state⟩ <;> rw [state]
          rfl
        rw [same]
        simp [Event.Opens, Event.Closes]
      | ok =>
        obtain ⟨server, state⟩ := orderly.opened settings rfl ended
        simp [state, Event.Opens]
    | close =>
      have disconnected : ((run driver close).ending t).2.state.connected = false := by
        cases connected : t.state.connected with
        | true => rw [(orderly.closed rfl connected).2]
        | false => rw [(orderly.idle rfl connected).2, connected]
      simp [disconnected, Event.Opens, Event.Closes]
    | _ => exact absurd rfl inquiry

end Operation

/-- Whatever is asked of a session and whichever calls fail: it has a connection exactly if a `connect`
succeeded after which there was no `close`, and the next operation does no more to the connection than
it should. -/
theorem connected_iff_leftOpen (driver : Driver) (operations : List Operation) :
    ((History.of driver operations).present.state.connected = true ↔
      LeftOpen (History.of driver operations).events) ∧
    ∀ operation : Operation, operation.Orderly (History.of driver operations).present
      ((operation.run driver).ending (History.of driver operations).present).1
      ((operation.run driver).ending (History.of driver operations).present).2 := by
  refine ⟨?_, fun operation => Operation.run_orderly driver operation _⟩
  -- a history grows at its end, so the induction takes the last operation away
  induction operations using List.reverseRecOn with
  | nil =>
    constructor
    · intro connected
      cases connected
    · intro opened
      exact absurd opened not_leftOpen_nil
  | append_singleton operations operation ih =>
    have step := Operation.connected_run driver operation (History.of driver operations).present
    rw [History.of_concat]
    simp only [History.extend]
    rw [leftOpen_concat, step, ih]

end SqlBindings.Catalog.Session
