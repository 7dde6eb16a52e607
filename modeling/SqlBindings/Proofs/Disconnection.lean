import SqlBindings.Proofs.Exchange
import SqlBindings.Proofs.Result

namespace SqlBindings.Catalog

open Run Introspection

/-- A call on a cursor, that is, neither the one that opens nor the one that closes a connection. -/
def Call.OfCursor : Call → Prop
  | .connect _ => False
  | .closeConnection => False
  | _ => True

/-- The server that settings name. -/
def Session.target (settings : List (String × Datum)) : Except Failure Datum :=
  match settings.lookup "connection_string" with
  | none => .error (.data (.noField "connection_string"))
  | some connectionString => Sql.overrideServer connectionString (Datum.get "server" settings)

/-- The server a run is to connect to, if there is a catalog of the name. -/
def target (settings : List (String × Datum)) (catalogName : String) : Except Failure Datum :=
  CatalogKind.ofName catalogName >>= fun _ => Session.target settings

namespace Session

def refusal (e : DriverError) : List LogEntry :=
  if e.isOwn then
    [⟨.error, .catalog, "Failed to connect to SQL Server: " ++ e.text⟩]
  else []

def opened (server : Datum) : Traced Session :=
  ⟨⟨true, [.connect server]⟩, [⟨.info, .catalog, "Successfully connected to SQL Server"⟩]⟩

/-- What is logged of the connection's end. If it cannot be closed, that is a warning. -/
def farewell (driver : Driver) (history : List Call) : LogEntry :=
  match driver history .closeConnection with
  | .ok _ => ⟨.info, .catalog, "Closed SQL Server connection"⟩
  | .error e => ⟨.warning, .catalog, "Error closing connection: " ++ e.text⟩

def closed (driver : Driver) (t : Traced Session) : Traced Session :=
  ⟨⟨false, t.state.calls ++ [.closeConnection]⟩, t.log ++ [farewell driver t.state.calls]⟩

/-- A connection that is refused replaces none. -/
theorem connect_ending (driver : Driver) (settings : List (String × Datum)) (t : Traced Session) :
    (connect driver settings).ending t = match Session.target settings with
      | .error e => (.error e, t)
      | .ok server => match driver t.state.calls (.connect server) with
        | .error e => (.error (.driver e), ⟨t.state.after [.connect server], t.log ++ refusal e⟩)
        | .ok _ => (.ok (), ⟨⟨true, t.state.calls ++ [.connect server]⟩,
            t.log ++ [⟨.info, .catalog, "Successfully connected to SQL Server"⟩]⟩) := by
  unfold connect Session.target
  cases settings.lookup "connection_string" with
  | none => rfl
  | some connectionString =>
    rw [ending_bind, ending_ofExcept]
    simp only
    cases Sql.overrideServer connectionString (Datum.get "server" settings) with
    | error e => rfl
    | ok server =>
      simp only [ending_bind, ending_outcome, attempt_ending]
      cases driver t.state.calls (.connect server) with
      | ok reply => rfl
      | error e =>
        by_cases reported : e.isOwn
        · simp [Except.mapError, refusal, reported, ending_bind, log, after]
        · simp [Except.mapError, refusal, reported, after]

theorem connect_ending_new (driver : Driver) (settings : List (String × Datum)) :
    (connect driver settings).ending ⟨{}, []⟩ = match Session.target settings with
      | .error e => (.error e, ⟨{}, []⟩)
      | .ok server => match driver [] (.connect server) with
        | .error e => (.error (.driver e), ⟨{ calls := [.connect server] }, refusal e⟩)
        | .ok _ => (.ok (), opened server) :=
  connect_ending driver settings ⟨{}, []⟩

theorem close_ending (driver : Driver) {t : Traced Session} (connected : t.state.connected = true) :
    (close driver).ending t = (.ok (), closed driver t) := by
  unfold close
  rw [ending_bind, ending_get]
  simp only [connected, if_true, ending_bind, ending_outcome, attempt_ending]
  unfold closed farewell
  cases driver t.state.calls .closeConnection <;> rfl

/-- Without a connection there is nothing to close. -/
theorem close_ending_disconnected (driver : Driver) {t : Traced Session}
    (disconnected : t.state.connected = false) : (close driver).ending t = (.ok (), t) := by
  unfold close
  rw [ending_bind, ending_get]
  simp [disconnected]

end Session

/-- How a run ends. It is the introspection that decides its result. -/
theorem introspectDatabase_start (driver : Driver) (settings : List (String × Datum))
    (catalogName : String) :
    (introspectDatabase driver settings catalogName).start {} =
      match target settings catalogName with
      | .error e => (.error e, ⟨{}, []⟩)
      | .ok server => match driver [] (.connect server) with
        | .error e => (.error (.driver e), ⟨{ calls := [.connect server] }, Session.refusal e⟩)
        | .ok _ =>
          let (result, t) := (introspect (Session.source driver)).ending (Session.opened server)
          (result, Session.closed driver t) := by
  unfold introspectDatabase target
  rw [start_eq_ending, ending_bind, ending_ofExcept]
  cases CatalogKind.ofName catalogName with
  | error e => rfl
  | ok kind =>
    cases kind
    simp only [ok_bind, ending_bind, Session.connect_ending_new]
    cases Session.target settings with
    | error e => rfl
    | ok server =>
      simp only
      cases driver [] (.connect server) with
      | error e => rfl
      | ok reply =>
        obtain ⟨calls, _, state, _⟩ := introspect_converses driver (Session.opened server)
        have connected := congrArg Session.connected state
        simp only [ending_followedAlwaysBy, Session.close_ending driver connected]

/-- Every call of a run is the opening of the connection, part of a dialogue, or the closing. -/
theorem introspectDatabase_calls (driver : Driver) (settings : List (String × Datum))
    (catalogName : String) {calls : List Call}
    (h : ((introspectDatabase driver settings catalogName).start {}).2.state.calls = calls) :
    calls = [] ∨ (∃ server, calls = [.connect server]) ∨
      ∃ server between, calls = .connect server :: (between ++ [.closeConnection]) ∧
        Dialogue driver [.connect server] between := by
  subst h
  rw [introspectDatabase_start]
  cases target settings catalogName with
  | error e => exact .inl rfl
  | ok server =>
    simp only
    cases driver [] (.connect server) with
    | error e => exact .inr (.inl ⟨server, rfl⟩)
    | ok reply =>
      obtain ⟨between, dialogue, state, _⟩ := introspect_converses driver (Session.opened server)
      refine .inr (.inr ⟨server, between, ?_, dialogue⟩)
      exact congrArg (· ++ [Call.closeConnection]) (congrArg Session.calls state)

section

variable {driver : Driver} {history calls : List Call}

theorem Probe.ofCursor (h : Probe driver history calls) : ∀ call ∈ calls, call.OfCursor := by
  cases h <;> simp [Call.OfCursor]

theorem Exchange.ofCursor (h : Exchange driver history calls) : ∀ call ∈ calls, call.OfCursor := by
  cases h with
  | query => simp [Call.OfCursor]
  | dryRun calls probe =>
    intro call mem
    rcases List.mem_append.mp mem with mem | mem
    · exact probe.ofCursor call mem
    · simp only [List.mem_cons, List.not_mem_nil, or_false] at mem
      rcases mem with rfl | rfl <;> trivial

theorem Dialogue.ofCursor (h : Dialogue driver history calls) : ∀ call ∈ calls, call.OfCursor := by
  induction h with
  | nil => simp
  | last exchange => exact exchange.ofCursor
  | next exchange _ _ ih =>
    intro call mem
    exact (List.mem_append.mp mem).elim (exchange.ofCursor call) (ih call)

end

/-- What a run returns and leaves behind, by what has become of its connection. -/
inductive Bracketed (driver : Driver) (settings : List (String × Datum)) (catalogName : String) :
    Except Failure (List Bundle) × Traced Session → Prop
  /-- It is not known where to connect to, and the driver is not asked. -/
  | unnamed (e : Failure) (unknown : target settings catalogName = .error e) :
      Bracketed driver settings catalogName (.error e, ⟨{}, []⟩)
  /-- The driver refuses the connection. Nothing else is asked of it, and its error is the answer. -/
  | refused (server : Datum) (e : DriverError) (known : target settings catalogName = .ok server)
      (refused : driver [] (.connect server) = .error e) :
      Bracketed driver settings catalogName
        (.error (.driver e), ⟨{ calls := [.connect server] }, Session.refusal e⟩)
  /-- The introspection has the connection for itself, and its result is the answer. Afterwards the
  connection is closed, whatever the result is and whether the driver closes it without error. -/
  | closed (server : Datum) (reply : Reply) (between : List Call)
      (result : Except Failure (List Bundle)) (t : Traced Session)
      (known : target settings catalogName = .ok server)
      (accepted : driver [] (.connect server) = .ok reply)
      (introspected :
        (introspect (Session.source driver)).ending (Session.opened server) = (result, t))
      (calls : t.state.calls = .connect server :: between)
      (cursorsOnly : ∀ call ∈ between, call.OfCursor) :
      Bracketed driver settings catalogName
        (result, ⟨⟨false, .connect server :: between ++ [.closeConnection]⟩,
          t.log ++ [Session.farewell driver (.connect server :: between)]⟩)

/-- Whatever the settings are and whichever calls fail, a connection that was opened is closed once,
by the last call, and its end has no part in the answer. -/
theorem introspectDatabase_bracketed (driver : Driver) (settings : List (String × Datum))
    (catalogName : String) :
    Bracketed driver settings catalogName
      ((introspectDatabase driver settings catalogName).start {}) := by
  rw [introspectDatabase_start]
  cases known : target settings catalogName with
  | error e => exact .unnamed e known
  | ok server =>
    simp only
    cases accepted : driver [] (.connect server) with
    | error e => exact .refused server e known accepted
    | ok reply =>
      obtain ⟨between, dialogue, state, _⟩ := introspect_converses driver (Session.opened server)
      rcases introspected : (introspect (Session.source driver)).ending (Session.opened server) with
        ⟨result, t⟩
      rw [introspected] at state
      simp only
      have calls : t.state.calls = .connect server :: between := congrArg Session.calls state
      have run := Bracketed.closed server reply between result t known accepted introspected calls
        dialogue.ofCursor
      rwa [← calls] at run

end SqlBindings.Catalog
