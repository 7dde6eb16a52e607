import SqlBindings.Client.Connection

/-!
Access to a database as generated code uses it: a connection, and a transaction that its commands
join if there is one.
-/

namespace SqlBindings.Client

/-- A connection and the transaction on it, by their numbers. -/
structure Access where
  connection : Nat
  transaction : Option Nat
deriving DecidableEq, Repr

structure OpenRequest where
  dsn : String
  autocommit : Bool
deriving DecidableEq, Repr

namespace Access

/-- Each command runs on its own. -/
def plain (connection : Nat) : Access := ⟨connection, none⟩

/-- All commands join one transaction, so the connection must not commit by itself. -/
def withTransaction (connection : Nat) : Run Pool Access := do
  if (← get).state.connections[connection]?.any Connection.autocommit then throw .autocommitEnabled
  return ⟨connection, some (← Pool.addTransaction connection)⟩

/-- Closes the connection. A transaction that is still open is rolled back first. -/
def close (access : Access) : Run Pool Unit := do
  if let some transaction := access.transaction then
    if !(← get).state.isClosed transaction then
      Run.log .warning .connection "Rolling back uncommitted transaction on close"
      Pool.finish transaction .rollback
  Pool.call access.connection .close

def requireTransaction (access : Access) (operation : String) : Run Pool Nat :=
  match access.transaction with
  | some transaction => return transaction
  | none => throw (.data (.noOperation Datum.null.kind operation))

def commit (access : Access) : Run Pool Unit := do
  Pool.finish (← access.requireTransaction Operation.commit.label) .commit

def rollback (access : Access) : Run Pool Unit := do
  Pool.finish (← access.requireTransaction Operation.rollback.label) .rollback

def enlist (access : Access) (connection : Nat) : Run Pool Unit := do
  Pool.enlist (← access.requireTransaction "enlist") connection

/-- A connection for a transaction does not commit by itself; any other does. -/
def openRequest (dsn : String) (transactional : Bool) : OpenRequest := ⟨dsn, !transactional⟩

def connect (openConnection : OpenRequest → Except DriverError Connection) (dsn : String)
    (transactional : Bool) : Run Pool Access := do
  let opened := openConnection (openRequest dsn transactional)
  let connection ← Pool.addConnection (← Run.ofExcept (opened.mapError .driver))
  if transactional then withTransaction connection
  else return plain connection

end Access

end SqlBindings.Client
