import SqlBindings.Log

/-!
Live connections. A connection notes every call made on it, and whether a call fails may depend on
the calls before it. A pool holds the connections and the transactions on them; both are known by
their number.
-/

namespace SqlBindings.Client

inductive Operation where
  | commit | rollback | close
deriving DecidableEq, Repr

def Operation.label : Operation → String
  | commit => "commit"
  | rollback => "rollback"
  | close => "close"

structure Connection where
  autocommit : Bool
  /-- Whether a call fails, given the calls made before it. -/
  fails : List Operation → Operation → Bool
  /-- The calls in the order in which they were made, the failed ones included. -/
  calls : List Operation := []

/-- A transaction, which spans everything done on one connection until it ends. -/
structure Transaction where
  connection : Nat
  closed : Bool := false
deriving DecidableEq, Repr

structure Pool where
  connections : List Connection := []
  transactions : List Transaction := []

namespace Pool

def addConnection (c : Connection) : Run Pool Nat := do
  let number := (← get).state.connections.length
  modify fun t => { t with state := { t.state with connections := t.state.connections ++ [c] } }
  return number

def addTransaction (connection : Nat) : Run Pool Nat := do
  let number := (← get).state.transactions.length
  modify fun t =>
    { t with state := { t.state with transactions := t.state.transactions ++ [⟨connection, false⟩] } }
  return number

/-- Makes a call on a connection. It is noted whether it fails or not. -/
def call (connection : Nat) (operation : Operation) : Run Pool Unit := do
  let before := (← get).state.connections[connection]?
  modify fun t => { t with state := { t.state with
    connections := t.state.connections.modify connection fun c =>
      { c with calls := c.calls ++ [operation] } } }
  if before.any fun c => c.fails c.calls operation then throw (.connectionCall operation.label)

def markClosed (transaction : Nat) : Run Pool Unit :=
  modify fun t => { t with state := { t.state with
    transactions := t.state.transactions.modify transaction fun x => { x with closed := true } } }

def isClosed (pool : Pool) (transaction : Nat) : Bool :=
  pool.transactions[transaction]?.any Transaction.closed

def connectionOf? (pool : Pool) (transaction : Nat) : Option Nat :=
  pool.transactions[transaction]?.map Transaction.connection

/-- Commits or rolls back. The transaction ends only if the connection carries that out. -/
def finish (transaction : Nat) (operation : Operation) : Run Pool Unit := do
  if let some connection := (← get).state.connectionOf? transaction then
    call connection operation
    markClosed transaction

def enlist (transaction connection : Nat) : Run Pool Unit := do
  let pool := (← get).state
  if pool.isClosed transaction then throw .transactionClosed
  if pool.connectionOf? transaction ≠ some connection then throw .foreignCursor

end Pool

end SqlBindings.Client
