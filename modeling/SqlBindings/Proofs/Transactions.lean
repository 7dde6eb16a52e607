import SqlBindings.Client.Access
import SqlBindings.Proofs.Run

/-!
# Transactions and the connections they are on

Access to a database is used again and again, and any call on its connection may fail.

* `Access.Lawful`: what one use may do to the transaction, and what it returns;
* `Pool.Holds.perform`: every use is lawful;
* `Access.after_holds`: a transaction is closed after any uses exactly if one of the calls on its
  connection has ended it;
* `Access.withTransaction_accounted`: all of that for access as it is made, and in particular that
  `close` rolls back what has not ended, and nothing else.
-/

namespace SqlBindings.Client

open Run

namespace Connection

/-- What the connection answers when it is asked for something now. -/
def answer (c : Connection) (operation : Operation) : Except Failure Unit :=
  if c.fails c.calls operation then .error (.connectionCall operation.label) else .ok ()

/-- The connection after further calls. -/
def after (c : Connection) (made : List Operation) : Connection :=
  { c with calls := c.calls ++ made }

/-- One of the calls commits or rolls back, and the connection carries it out. -/
def Ends (c : Connection) : List Operation → Prop
  | [] => False
  | operation :: rest =>
    (operation ≠ .close ∧ c.answer operation = .ok ()) ∨ (c.after [operation]).Ends rest

@[simp] theorem after_nil (c : Connection) : c.after [] = c := by simp [after]

@[simp] theorem after_after (c : Connection) (made later : List Operation) :
    (c.after made).after later = c.after (made ++ later) := by
  simp [after]

theorem ends_append {c : Connection} {made later : List Operation} :
    c.Ends (made ++ later) ↔ c.Ends made ∨ (c.after made).Ends later := by
  induction made generalizing c with
  | nil => simp [Ends]
  | cons operation made ih => simp [Ends, ih, or_assoc]

theorem ends_singleton {c : Connection} {operation : Operation} :
    c.Ends [operation] ↔ operation ≠ .close ∧ c.answer operation = .ok () := by
  simp [Ends]

end Connection

namespace Pool

variable {n transaction : Nat} {c : Connection} {closed : Bool}

/-- The pool after a call on one of its connections. -/
def noting (pool : Pool) (n : Nat) (operation : Operation) : Pool :=
  { pool with connections := pool.connections.modify n fun c => c.after [operation] }

/-- The pool after the end of one of its transactions. -/
def ended (pool : Pool) (transaction : Nat) : Pool :=
  { pool with transactions := pool.transactions.modify transaction fun x => { x with closed := true } }

theorem noting_connection {pool : Pool} (known : pool.connections[n]? = some c)
    (operation : Operation) :
    (pool.noting n operation).connections[n]? = some (c.after [operation]) := by
  simp [noting, known]

theorem call_ending {t : Traced Pool} (known : t.state.connections[n]? = some c)
    (operation : Operation) :
    (call n operation).ending t =
      (c.answer operation, { t with state := t.state.noting n operation }) := by
  unfold call
  rw [ending_bind, ending_get]
  simp only [known, Option.any_some, Connection.answer]
  cases c.fails c.calls operation <;> rfl

theorem markClosed_ending (transaction : Nat) (t : Traced Pool) :
    (markClosed transaction).ending t = (.ok (), { t with state := t.state.ended transaction }) :=
  rfl

/-- The pool has the connection, and on it the transaction. -/
structure Holds (pool : Pool) (n transaction : Nat) (c : Connection) (closed : Bool) : Prop where
  connection : pool.connections[n]? = some c
  transaction : pool.transactions[transaction]? = some ⟨n, closed⟩

namespace Holds

variable {pool : Pool}

theorem isClosed (h : pool.Holds n transaction c closed) : pool.isClosed transaction = closed := by
  simp [Pool.isClosed, h.transaction]

theorem connectionOf? (h : pool.Holds n transaction c closed) :
    pool.connectionOf? transaction = some n := by
  simp [Pool.connectionOf?, h.transaction]

theorem noting (h : pool.Holds n transaction c closed) (operation : Operation) :
    (pool.noting n operation).Holds n transaction (c.after [operation]) closed :=
  ⟨noting_connection h.connection operation, h.transaction⟩

theorem ended (h : pool.Holds n transaction c closed) :
    (pool.ended transaction).Holds n transaction c true :=
  ⟨h.connection, by simp [Pool.ended, h.transaction]⟩

end Holds

variable {t : Traced Pool}

/-- A transaction ends if the connection carries out the call. -/
theorem finish_ending_of_ok (h : t.state.Holds n transaction c closed) {operation : Operation}
    (carried : c.answer operation = .ok ()) :
    (finish transaction operation).ending t =
      (.ok (), { t with state := (t.state.noting n operation).ended transaction }) := by
  unfold finish
  rw [ending_bind, ending_get]
  simp only [h.connectionOf?, ending_bind, call_ending h.connection, carried, markClosed_ending]

/-- A transaction stays as it is if the connection does not carry out the call. -/
theorem finish_ending_of_error (h : t.state.Holds n transaction c closed) {operation : Operation}
    {e : Failure} (failed : c.answer operation = .error e) :
    (finish transaction operation).ending t =
      (.error e, { t with state := t.state.noting n operation }) := by
  unfold finish
  rw [ending_bind, ending_get]
  simp only [h.connectionOf?, ending_bind, call_ending h.connection, failed]

theorem enlist_ending (h : t.state.Holds n transaction c closed) (m : Nat) :
    (enlist transaction m).ending t =
      (if closed then .error .transactionClosed else if m = n then .ok () else .error .foreignCursor,
        t) := by
  unfold enlist
  rw [ending_bind, ending_get]
  simp only [h.isClosed, h.connectionOf?]
  cases closed with
  | true => rfl
  | false =>
    by_cases own : m = n
    · subst own
      simp
    · simp [own, Ne.symm own]

end Pool

/-- What is done with access to a database. -/
inductive Use where
  /-- A command executes with a cursor of the connection. -/
  | enlist (connection : Nat)
  | commit
  | rollback
  | close
deriving DecidableEq, Repr

/-- The call by which a use ends a transaction. -/
def Use.ending? : Use → Option Operation
  | commit => some .commit
  | rollback => some .rollback
  | _ => none

namespace Access

/-- Access with a transaction that has been begun on the connection. -/
abbrev joining (n transaction : Nat) : Access := ⟨n, some transaction⟩

def perform (access : Access) : Use → Run Pool Unit
  | .enlist connection => access.enlist connection
  | .commit => access.commit
  | .rollback => access.rollback
  | .close => access.close

/-- What uses one after another leave behind. None of them keeps the next one from being made. -/
def after (access : Access) : List Use → Traced Pool → Traced Pool
  | [], t => t
  | use :: rest, t => access.after rest ((access.perform use).ending t).2

/-- What a use makes of a transaction on a connection: the calls it makes, what it returns, and whether
the transaction is closed after it. -/
structure Lawful (n : Nat) (c : Connection) (closed : Bool) (use : Use) (made : List Operation)
    (result : Except Failure Unit) (closed' : Bool) : Prop where
  /-- A transaction is closed by nothing but a call that ends it, and never opened again. -/
  flag : closed' = true ↔ closed = true ∨ c.Ends made
  /-- A cursor joins a transaction that is open and on its own connection, and no other. -/
  enlists : ∀ m, use = .enlist m → made = [] ∧ closed' = closed ∧
    result = if closed then .error .transactionClosed
      else if m = n then .ok () else .error .foreignCursor
  /-- The transaction ends if the connection does what it is asked to, and else stays as it is. -/
  finishes : ∀ operation, use.ending? = some operation → made = [operation] ∧
    result = c.answer operation ∧ (result = .ok () → closed' = true) ∧
    (result ≠ .ok () → closed' = closed)
  /-- A transaction that is still open is rolled back, and the connection is closed after that. If it
  cannot be rolled back, it stays open, and so does the connection. -/
  closes : use = .close → made.Sublist [.rollback, .close] ∧ (.rollback ∈ made ↔ closed = false) ∧
    (.close ∈ made ↔ closed = true ∨ c.answer .rollback = .ok ()) ∧
    (.close ∉ made → made = [.rollback] ∧ result = c.answer .rollback ∧ closed' = false)

theorem ne_close_of_ending {use : Use} {operation : Operation} (ends : use.ending? = some operation) :
    operation ≠ .close := by
  cases use <;> cases ends <;> decide

namespace Lawful

variable {n : Nat} {c : Connection} {closed : Bool} {use : Use} {operation : Operation} {e : Failure}

theorem of_enlist (m : Nat) : Lawful n c closed (.enlist m) []
    (if closed then .error .transactionClosed else if m = n then .ok () else .error .foreignCursor)
    closed where
  flag := by simp [Connection.Ends]
  enlists := by
    rintro _ ⟨⟩
    exact ⟨rfl, rfl, rfl⟩
  finishes := by rintro _ ⟨⟩
  closes := by rintro ⟨⟩

theorem of_ending (ends : use.ending? = some operation) (carried : c.answer operation = .ok ()) :
    Lawful n c closed use [operation] (.ok ()) true where
  flag := by simp [Connection.ends_singleton, ne_close_of_ending ends, carried]
  enlists := by
    rintro m rfl
    cases ends
  finishes := by
    intro other same
    cases ends.symm.trans same
    exact ⟨rfl, carried.symm, fun _ => rfl, fun failed => absurd rfl failed⟩
  closes := by
    rintro rfl
    cases ends

theorem of_failed_ending (ends : use.ending? = some operation)
    (failed : c.answer operation = .error e) :
    Lawful n c closed use [operation] (.error e) closed where
  flag := by simp [Connection.ends_singleton, failed]
  enlists := by
    rintro m rfl
    cases ends
  finishes := by
    intro other same
    cases ends.symm.trans same
    refine ⟨rfl, failed.symm, ?_, fun _ => rfl⟩
    intro ok
    cases ok
  closes := by
    rintro rfl
    cases ends

theorem of_close (result : Except Failure Unit) : Lawful n c true .close [.close] result true where
  flag := by simp
  enlists := by rintro _ ⟨⟩
  finishes := by rintro _ ⟨⟩
  closes _ := by simp

theorem of_rolled_back (carried : c.answer .rollback = .ok ()) (result : Except Failure Unit) :
    Lawful n c false .close [.rollback, .close] result true where
  flag := by simp [Connection.Ends, carried]
  enlists := by rintro _ ⟨⟩
  finishes := by rintro _ ⟨⟩
  closes _ := by simp [carried]

theorem of_failed_rollback (failed : c.answer .rollback = .error e) :
    Lawful n c false .close [.rollback] (.error e) false where
  flag := by simp [Connection.ends_singleton, failed]
  enlists := by rintro _ ⟨⟩
  finishes := by rintro _ ⟨⟩
  closes _ := by simp [failed]

end Lawful

section

variable {n transaction : Nat} {c : Connection} {closed : Bool} {t : Traced Pool}

theorem perform_finish {use : Use} {operation : Operation} (ends : use.ending? = some operation) :
    ((joining n transaction).perform use).ending t =
      (Pool.finish transaction operation).ending t := by
  cases use <;> cases ends <;> rfl

theorem perform_enlist (h : t.state.Holds n transaction c closed) (m : Nat) :
    ((joining n transaction).perform (.enlist m)).ending t =
      (if closed then .error .transactionClosed else if m = n then .ok () else .error .foreignCursor,
        t) :=
  Pool.enlist_ending h m

/-- Nothing is rolled back if the transaction is closed already. -/
theorem close_ending_of_closed (h : t.state.Holds n transaction c true) :
    (close (joining n transaction)).ending t =
      (c.answer .close, { t with state := t.state.noting n .close }) := by
  unfold close
  simp only [ending_bind, ending_get, h.isClosed]
  exact Pool.call_ending h.connection .close

/-- What is logged before an open transaction is rolled back. -/
def rollbackWarning : LogEntry :=
  ⟨.warning, .connection, "Rolling back uncommitted transaction on close"⟩

theorem close_ending_of_open (h : t.state.Holds n transaction c false) :
    (close (joining n transaction)).ending t =
      (Pool.finish transaction .rollback >>= fun _ => Pool.call n .close).ending
        { t with log := t.log ++ [rollbackWarning] } := by
  unfold close
  simp only [ending_bind, ending_get, h.isClosed, Bool.not_false, if_true]
  rfl

/-- The connection is closed once the transaction is rolled back. -/
theorem close_ending_of_rolledBack (h : t.state.Holds n transaction c false)
    (carried : c.answer .rollback = .ok ()) :
    (close (joining n transaction)).ending t =
      ((c.after [.rollback]).answer .close,
        ⟨((t.state.noting n .rollback).ended transaction).noting n .close,
          t.log ++ [rollbackWarning]⟩) := by
  have rolledBack := (h.noting .rollback).ended
  rw [close_ending_of_open h, ending_bind]
  rw [Pool.finish_ending_of_ok (t := ⟨t.state, t.log ++ [rollbackWarning]⟩) h carried]
  exact Pool.call_ending rolledBack.connection .close

/-- The connection is not closed if the transaction cannot be rolled back. -/
theorem close_ending_of_error (h : t.state.Holds n transaction c false) {e : Failure}
    (failed : c.answer .rollback = .error e) :
    (close (joining n transaction)).ending t =
      (.error e, ⟨t.state.noting n .rollback, t.log ++ [rollbackWarning]⟩) := by
  rw [close_ending_of_open h, ending_bind]
  rw [Pool.finish_ending_of_error (t := ⟨t.state, t.log ++ [rollbackWarning]⟩) h failed]

end

end Access

namespace Pool.Holds

variable {n transaction : Nat} {c : Connection} {closed : Bool} {t : Traced Pool}

/-- Every use is lawful. -/
theorem perform (h : t.state.Holds n transaction c closed) (use : Use) :
    ∃ made closed',
      (((Access.joining n transaction).perform use).ending t).2.state.Holds n transaction
        (c.after made) closed' ∧
      Access.Lawful n c closed use made
        (((Access.joining n transaction).perform use).ending t).1 closed' := by
  cases ends : use.ending? with
  | some operation =>
    rw [Access.perform_finish ends]
    cases answer : c.answer operation with
    | ok =>
      rw [finish_ending_of_ok h answer]
      exact ⟨[operation], true, (h.noting operation).ended, .of_ending ends answer⟩
    | error e =>
      rw [finish_ending_of_error h answer]
      exact ⟨[operation], closed, h.noting operation, .of_failed_ending ends answer⟩
  | none =>
    cases use with
    | commit => cases ends
    | rollback => cases ends
    | enlist m =>
      rw [Access.perform_enlist h]
      exact ⟨[], closed, by simpa using h, .of_enlist m⟩
    | close =>
      cases closed with
      | true =>
        rw [Access.perform, Access.close_ending_of_closed h]
        exact ⟨[.close], true, h.noting .close, .of_close _⟩
      | false =>
        cases answer : c.answer .rollback with
        | ok =>
          rw [Access.perform, Access.close_ending_of_rolledBack h answer]
          have held := (h.noting .rollback).ended.noting .close
          rw [Connection.after_after] at held
          exact ⟨[.rollback, .close], true, held, .of_rolled_back answer _⟩
        | error e =>
          rw [Access.perform, Access.close_ending_of_error h answer]
          exact ⟨[.rollback], false, h.noting .rollback, .of_failed_rollback answer⟩

theorem lawful (h : t.state.Holds n transaction c closed) (use : Use) :
    ∃ made,
      (((Access.joining n transaction).perform use).ending t).2.state.connections[n]? =
        some (c.after made) ∧
      Access.Lawful n c (t.state.isClosed transaction) use made
        (((Access.joining n transaction).perform use).ending t).1
        ((((Access.joining n transaction).perform use).ending t).2.state.isClosed transaction) := by
  obtain ⟨made, closed', held, lawful⟩ := h.perform use
  rw [← h.isClosed, ← held.isClosed] at lawful
  exact ⟨made, held.connection, lawful⟩

end Pool.Holds

namespace Access

/-- What uses one after another make of a transaction. -/
theorem after_holds {n transaction : Nat} {c : Connection} {closed : Bool} {t : Traced Pool}
    (h : t.state.Holds n transaction c closed) (uses : List Use) :
    ∃ made closed',
      ((joining n transaction).after uses t).state.Holds n transaction (c.after made)
        closed' ∧
      (closed' = true ↔ closed = true ∨ c.Ends made) := by
  -- each use may add calls to the connection and close the transaction, so the rest starts from others
  induction uses generalizing c closed t with
  | nil => exact ⟨[], closed, by simpa [after] using h, by simp [Connection.Ends]⟩
  | cons use rest ih =>
    obtain ⟨made, between, held, lawful⟩ := h.perform use
    obtain ⟨later, closed', held', flag⟩ := ih held
    rw [Connection.after_after] at held'
    refine ⟨made ++ later, closed', held', ?_⟩
    rw [flag, lawful.flag, Connection.ends_append, or_assoc]

section

variable {pool : Pool} {n : Nat} {c : Connection} {access : Access} {t : Traced Pool}

theorem withTransaction_holds (known : pool.connections[n]? = some c)
    (created : (withTransaction n).start pool = (.ok access, t)) :
    ∃ transaction, access = joining n transaction ∧ t.state.Holds n transaction c false := by
  rw [start_eq_ending, withTransaction, ending_bind, ending_get] at created
  simp only [known, Option.any_some] at created
  cases autocommit : c.autocommit with
  | true =>
    rw [autocommit] at created
    cases created
  | false =>
    rw [autocommit] at created
    cases created
    exact ⟨pool.transactions.length, rfl, known, by simp⟩

/-- The transaction stands as the calls on its connection have left it, and the next use is lawful. -/
structure Accounted (access : Access) (n transaction : Nat) (c : Connection) (made : List Operation)
    (t : Traced Pool) : Prop where
  connection : t.state.connections[n]? = some (c.after made)
  /-- The transaction is closed exactly if a call to commit or roll back was carried out. -/
  closed_iff : t.state.isClosed transaction = true ↔ c.Ends made
  next : ∀ use, ∃ later,
    ((access.perform use).ending t).2.state.connections[n]? = some (c.after (made ++ later)) ∧
    Lawful n (c.after made) (t.state.isClosed transaction) use later
      ((access.perform use).ending t).1
      (((access.perform use).ending t).2.state.isClosed transaction)
  /-- What is rolled back at the end is what was neither committed nor rolled back before. -/
  closing : ∃ later,
    (access.close.ending t).2.state.connections[n]? = some (c.after (made ++ later)) ∧
    (.rollback ∈ later ↔ ¬ c.Ends made)

/-- Whatever is done with access that has a transaction and whichever calls fail, the transaction is
accounted for. -/
theorem withTransaction_accounted (known : pool.connections[n]? = some c)
    (created : (withTransaction n).start pool = (.ok access, t)) :
    ∃ transaction, access = joining n transaction ∧
      ∀ uses, ∃ made, Accounted access n transaction c made (access.after uses t) := by
  obtain ⟨transaction, rfl, opened⟩ := withTransaction_holds known created
  refine ⟨transaction, rfl, fun uses => ?_⟩
  obtain ⟨made, closed, held, flag⟩ := after_holds opened uses
  have closed_iff : closed = true ↔ c.Ends made := by simpa using flag
  refine ⟨made, held.connection, by rw [held.isClosed, closed_iff], fun use => ?_, ?_⟩
  · obtain ⟨later, connection, lawful⟩ := held.lawful use
    rw [Connection.after_after] at connection
    exact ⟨later, connection, lawful⟩
  · obtain ⟨later, connection, lawful⟩ := held.lawful .close
    rw [Connection.after_after] at connection
    refine ⟨later, connection, ?_⟩
    rw [(lawful.closes rfl).2.1, held.isClosed, ← closed_iff, Bool.not_eq_true]

end

/-- A connection that cannot roll back. -/
def stubborn : Connection where
  autocommit := false
  fails _ operation := operation == .rollback

/-- A transaction has been begun on it. -/
def begun : Traced Pool := ⟨⟨[stubborn], [⟨0, false⟩]⟩, []⟩

theorem withTransaction_start_stubborn :
    (withTransaction 0).start ⟨[stubborn], []⟩ = (.ok (joining 0 0), begun) :=
  rfl

theorem withTransaction_accounted_stubborn :
    (⟨[stubborn], []⟩ : Pool).connections[0]? = some stubborn ∧
    (withTransaction 0).start ⟨[stubborn], []⟩ = (.ok (joining 0 0), begun) ∧
    ∃ transaction, joining 0 0 = joining 0 transaction ∧
      ∀ uses, ∃ made, Accounted (joining 0 0) 0 transaction stubborn made
        ((joining 0 0).after uses begun) :=
  ⟨rfl, withTransaction_start_stubborn,
    withTransaction_accounted (by rfl) withTransaction_start_stubborn⟩

end Access

end SqlBindings.Client
