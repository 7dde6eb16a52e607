import SqlBindings.Datum
import SqlBindings.Failure

/-!
The calls made to a database driver and the answers to them. A driver decides each answer from the
calls made before, so a run of calls has one outcome.
-/

namespace SqlBindings.Catalog

inductive Argument where
  | null
  | text (value : String)
  /-- A table without rows, of the named type. -/
  | emptyTable (name schema : String)
deriving DecidableEq, Repr

inductive Call where
  | connect (target : Datum)
  /-- Announces the types of the arguments that follow. -/
  | setInputSizes (tags : List String)
  | execute (sql : String) (arguments : List Argument)
  | closeCursor
  | closeConnection

namespace Call

def isExecute : Call → Bool
  | execute _ _ => true
  | _ => false

end Call

/-- What an executed batch leaves behind. Other calls are answered with nothing. -/
structure Reply where
  rows : List Datum := []
  /-- One entry for each column of the result; none if the batch has no result. -/
  description : List Datum := []

/-- Answers a call, given the calls made before it. -/
abbrev Driver := List Call → Call → Except DriverError Reply

structure Script where
  /-- The outcomes of executed batches, in order; a batch beyond the last one has no result. -/
  batches : List (Except DriverError Reply) := []
  connectError : Option DriverError := none
  inputSizesError : Option DriverError := none
  cursorCloseError : Option DriverError := none
  closeError : Option DriverError := none

namespace Script

def refuseWith : Option DriverError → Except DriverError Reply
  | none => .ok {}
  | some error => .error error

def driver (s : Script) : Driver := fun history call =>
  match call with
  | .connect _ => refuseWith s.connectError
  | .setInputSizes _ => refuseWith s.inputSizesError
  | .execute _ _ => (s.batches[history.countP Call.isExecute]?).getD (.ok {})
  | .closeCursor => refuseWith s.cursorCloseError
  | .closeConnection => refuseWith s.closeError

end Script

end SqlBindings.Catalog
