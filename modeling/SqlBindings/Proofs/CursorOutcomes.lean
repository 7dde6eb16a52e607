import SqlBindings.Proofs.Exchange
import SqlBindings.Proofs.Result

namespace SqlBindings.Catalog

open Run

/-- The outcome of what was done with a cursor, once it is closed. -/
def afterClosing {α : Type} (driver : Driver) (history : List Call)
    (outcome : Except DriverError α) : Except DriverError α :=
  driver history .closeCursor >>= fun _ => outcome

/-- The outcome of a single call on a cursor. -/
def onCursor (driver : Driver) (history : List Call) (call : Call) : Except DriverError Reply :=
  afterClosing driver (history ++ [call]) (driver history call)

section

variable {α β : Type} {driver : Driver} {history : List Call} {outcome : Except DriverError α}

theorem not_fails_iff {call : Call} :
    ¬ Fails driver history call ↔ ∃ reply, driver history call = .ok reply := by
  cases answer : driver history call with
  | error e => simp [Fails, answer]
  | ok reply => simp [Fails, answer]

theorem afterClosing_eq_ok {a : α} : afterClosing driver history outcome = .ok a ↔
    ¬ Fails driver history .closeCursor ∧ outcome = .ok a := by
  rw [afterClosing, bind_eq_ok, not_fails_iff]
  constructor
  · rintro ⟨reply, closed, same⟩
    exact ⟨⟨reply, closed⟩, same⟩
  · rintro ⟨⟨reply, closed⟩, same⟩
    exact ⟨reply, closed, same⟩

theorem afterClosing_of_error {f : DriverError} (fails : driver history .closeCursor = .error f) :
    afterClosing driver history outcome = .error f := by
  rw [afterClosing, fails, error_bind]

theorem afterClosing_of_ok {reply : Reply} (closed : driver history .closeCursor = .ok reply) :
    afterClosing driver history outcome = outcome := by
  rw [afterClosing, closed, ok_bind]

theorem afterClosing_map (f : α → β) :
    afterClosing driver history (outcome.map f) = (afterClosing driver history outcome).map f := by
  cases closing : driver history .closeCursor with
  | error e => rw [afterClosing_of_error closing, afterClosing_of_error closing]; rfl
  | ok reply => rw [afterClosing_of_ok closing, afterClosing_of_ok closing]

/-- A call on a cursor succeeds exactly if it is answered and the cursor can be closed. -/
theorem onCursor_ok_iff {call : Call} : (∃ reply, onCursor driver history call = .ok reply) ↔
    AllAnswered driver history [call, .closeCursor] := by
  simp only [onCursor, afterClosing_eq_ok, AllAnswered, and_true, exists_and_left]
  rw [← not_fails_iff, and_comm]

end

namespace Session

variable {α : Type} {driver : Driver} {t : Traced Session}

theorem attempt_map_ending (call : Call) (f : Reply → α) (t : Traced Session) :
    (attempt driver call >>= fun reply => pure (f reply)).ending t =
      (((driver t.state.calls call).map f).mapError .driver,
        { t with state := t.state.after [call] }) := by
  rw [ending_bind, attempt_ending]
  cases driver t.state.calls call <;> rfl

theorem withCursor_ending {body : Run Session α} {outcome : Except DriverError α}
    {calls : List Call} (ends : body.ending t =
      (outcome.mapError .driver, { t with state := t.state.after calls })) :
    (withCursor driver body).ending t =
      ((afterClosing driver (t.state.calls ++ calls) outcome).mapError .driver,
        { t with state := t.state.after (calls ++ [.closeCursor]) }) := by
  rw [withCursor, ending_followedAlwaysBy, ends, attempt_map_ending, after_calls]
  cases closing : driver (t.state.calls ++ calls) .closeCursor with
  | error e =>
    rw [afterClosing_of_error closing, after_after]
    rfl
  | ok reply =>
    rw [afterClosing_of_ok closing, after_after]
    rfl

theorem withCursor_attempt_ending (call : Call) (f : Reply → α) (t : Traced Session) :
    (withCursor driver (attempt driver call >>= fun reply => pure (f reply))).ending t =
      (((onCursor driver t.state.calls call).map f).mapError .driver,
        { t with state := t.state.after [call, .closeCursor] }) := by
  rw [withCursor_ending (attempt_map_ending call f t), afterClosing_map]
  rfl

theorem query_ending (connected : t.state.connected = true) (sql : String)
    (arguments : List Argument) : (query driver sql arguments).ending t =
      (((onCursor driver t.state.calls (.execute sql arguments)).map Reply.rows).mapError .driver,
        { t with state := t.state.after [.execute sql arguments, .closeCursor] }) := by
  rw [query, ending_bind, requireConnection_ending, connected]
  exact withCursor_attempt_ending _ Reply.rows t

theorem resetMode_ending (t : Traced Session) : (resetMode driver).ending t =
    (((onCursor driver t.state.calls .reset).map fun _ => ()).mapError .driver,
      { t with state := t.state.after [.reset, .closeCursor] }) :=
  withCursor_attempt_ending .reset (fun _ => ()) t

/-- How the dry run of a procedure ends, apart from its reset. -/
inductive ProbeEnds (driver : Driver) (qualifiedName : String) (parameters : List Attribute)
    (history : List Call) : List Call → Except DriverError Reply → Prop
  | refused (some : parameters ≠ []) (e : DriverError)
      (fails : driver history (announcement parameters) = .error e) :
      ProbeEnds driver qualifiedName parameters history [announcement parameters, .closeCursor]
        (afterClosing driver (history ++ [announcement parameters]) (.error e))
  | typed (some : parameters ≠ []) (reply : Reply)
      (answered : driver history (announcement parameters) = .ok reply) :
      ProbeEnds driver qualifiedName parameters history
        [announcement parameters, rehearsal qualifiedName parameters, .closeCursor]
        (onCursor driver (history ++ [announcement parameters]) (rehearsal qualifiedName parameters))
  | untyped (none : parameters = []) :
      ProbeEnds driver qualifiedName parameters history
        [rehearsal qualifiedName parameters, .closeCursor]
        (onCursor driver history (rehearsal qualifiedName parameters))

theorem probe_ending (driver : Driver) (qualifiedName : String) (parameters : List Attribute)
    (t : Traced Session) :
    ∃ calls outcome, ProbeEnds driver qualifiedName parameters t.state.calls calls outcome ∧
      (probe driver qualifiedName parameters).ending t =
        ((outcome.map Reply.description).mapError .driver,
          { t with state := t.state.after calls }) := by
  cases empty : parameters.isEmpty with
  | true =>
    refine ⟨_, _, .untyped (List.isEmpty_iff.mp empty), ?_⟩
    rw [probe, empty]
    exact withCursor_attempt_ending _ Reply.description t
  | false =>
    have some : parameters ≠ [] := List.isEmpty_eq_false_iff.mp empty
    have announced := ending_bind (attempt driver (announcement parameters)) (fun _ =>
      attempt driver (rehearsal qualifiedName parameters) >>= fun reply =>
        pure reply.description) t
    rw [attempt_ending] at announced
    rw [probe, empty]
    cases answer : driver t.state.calls (announcement parameters) with
    | error e =>
      rw [answer] at announced
      refine ⟨_, _, .refused some e answer, ?_⟩
      rw [← afterClosing_map]
      exact withCursor_ending announced
    | ok reply =>
      rw [answer] at announced
      simp only [Except.mapError, attempt_map_ending, after_calls, after_after] at announced
      refine ⟨_, _, .typed some reply answer, ?_⟩
      rw [onCursor, ← afterClosing_map, List.append_assoc]
      exact withCursor_ending announced

section

variable {qualifiedName : String} {parameters : List Attribute} {history calls : List Call}
  {outcome : Except DriverError Reply}

theorem ProbeEnds.probeOf (ends : ProbeEnds driver qualifiedName parameters history calls outcome) :
    ProbeOf driver qualifiedName parameters history calls := by
  cases ends with
  | refused some e fails => exact .refused some ⟨e, fails⟩
  | typed some reply answered => exact .typed some (not_fails_iff.mpr ⟨reply, answered⟩)
  | untyped none => exact .untyped none

/-- A dry run succeeds exactly if all its calls are answered. -/
theorem ProbeEnds.ok_iff (ends : ProbeEnds driver qualifiedName parameters history calls outcome) :
    (∃ reply, outcome = .ok reply) ↔ AllAnswered driver history calls := by
  cases ends with
  | refused some e fails =>
    refine iff_of_false ?_ fun answered => answered.1 ⟨e, fails⟩
    rintro ⟨reply, succeeds⟩
    cases (afterClosing_eq_ok.mp succeeds).2
  | typed some reply answered =>
    have announced : ¬ Fails driver history (announcement parameters) :=
      not_fails_iff.mpr ⟨reply, answered⟩
    rw [onCursor_ok_iff]
    exact (and_iff_right announced).symm
  | untyped none => exact onCursor_ok_iff

/-- A dry run that succeeds gives what its batch is answered with. -/
theorem ProbeEnds.replied (ends : ProbeEnds driver qualifiedName parameters history calls outcome)
    {reply : Reply} (succeeds : outcome = .ok reply) :
    ∃ front, calls = front ++ [rehearsal qualifiedName parameters, .closeCursor] ∧
      driver (history ++ front) (rehearsal qualifiedName parameters) = .ok reply := by
  cases ends with
  | refused some e fails => cases (afterClosing_eq_ok.mp succeeds).2
  | typed some first answered =>
    exact ⟨[announcement parameters], rfl, (afterClosing_eq_ok.mp succeeds).2⟩
  | untyped none =>
    refine ⟨[], rfl, ?_⟩
    rw [List.append_nil]
    exact (afterClosing_eq_ok.mp succeeds).2

end

end Session

end SqlBindings.Catalog
