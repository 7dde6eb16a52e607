import SqlBindings.Proofs.Transactions

namespace SqlBindings.Client.Access

open Run

section

variable {pool : Pool} {n : Nat} {c : Connection} {access : Access} {t : Traced Pool}

inductive Created (pool : Pool) (n : Nat) : Access → Traced Pool → Prop
  | plain : Created pool n (.plain n) ⟨pool, []⟩
  | joined {access : Access} {t : Traced Pool}
      (created : (withTransaction n).start pool = (.ok access, t)) : Created pool n access t

def isOpen (access : Access) (pool : Pool) : Bool :=
  access.transaction.any fun transaction => !pool.isClosed transaction

/-- Without a transaction there is nothing to do but to close the connection. -/
theorem perform_plain (known : t.state.connections[n]? = some c) (use : Use) :
    (((plain n).perform use).ending t).2.state.connections[n]? =
      some (if use = .close then c.after [.close] else c) := by
  cases use with
  | enlist m => exact known
  | commit => exact known
  | rollback => exact known
  | close =>
    have closed := Pool.call_ending known .close
    change ((Pool.call n .close).ending t).2.state.connections[n]? = _
    rw [closed]
    exact Pool.noting_connection known .close

theorem after_plain (known : t.state.connections[n]? = some c) (uses : List Use) :
    ∃ made, ((plain n).after uses t).state.connections[n]? = some (c.after made) := by
  induction uses generalizing c t with
  | nil => exact ⟨[], by simpa [after] using known⟩
  | cons use rest ih =>
    obtain ⟨made, connection⟩ := ih (perform_plain known use)
    split at connection
    · rw [Connection.after_after] at connection
      exact ⟨_, connection⟩
    · exact ⟨made, connection⟩

/-- The calls that `close` makes after others that were made before it. -/
structure Closing (access : Access) (n : Nat) (c : Connection) (made later : List Operation)
    (t : Traced Pool) : Prop where
  before : t.state.connections[n]? = some (c.after made)
  after : (access.close.ending t).2.state.connections[n]? = some (c.after (made ++ later))
  reaches_iff : .close ∈ later ↔
    ¬ (access.isOpen t.state = true ∧ (c.after made).answer .rollback ≠ .ok ())
  /-- The transaction stays open, too, if the connection does. -/
  unreached : .close ∉ later → later = [.rollback] ∧
    (access.close.ending t).1 = (c.after made).answer .rollback ∧
    access.isOpen (access.close.ending t).2.state = true

/-- After any uses, `close` closes the connection unless there is a transaction that is still open and
cannot be rolled back. -/
theorem close_reaches_iff (known : pool.connections[n]? = some c) (created : Created pool n access t)
    (uses : List Use) : ∃ made later, Closing access n c made later (access.after uses t) := by
  cases created with
  | plain =>
    obtain ⟨made, connection⟩ := after_plain (t := ⟨pool, []⟩) known uses
    have closing := perform_plain connection .close
    rw [if_pos rfl, Connection.after_after] at closing
    exact ⟨made, [.close], connection, closing, by simp [isOpen, plain], by simp⟩
  | joined created =>
    obtain ⟨transaction, rfl, opened⟩ := withTransaction_holds known created
    obtain ⟨made, closed, held, _⟩ := after_holds opened uses
    obtain ⟨later, connection, lawful⟩ := held.lawful .close
    obtain ⟨order, rollsBack, reaches, stays⟩ := lawful.closes rfl
    rw [Connection.after_after] at connection
    refine ⟨made, later, held.connection, connection, ?_, ?_⟩
    · rw [reaches, held.isClosed]
      simp only [isOpen, Option.any_some, held.isClosed]
      cases closed <;> simp
    · intro unreached
      obtain ⟨only, result, closed'⟩ := stays unreached
      rw [perform] at closed'
      exact ⟨only, result, by simp [isOpen, closed']⟩

end

theorem close_reaches_iff_stubborn :
    (⟨[stubborn], []⟩ : Pool).connections[0]? = some stubborn ∧
    Created ⟨[stubborn], []⟩ 0 (joining 0 0) begun ∧
    ∃ made later, Closing (joining 0 0) 0 stubborn made later
      ((joining 0 0).after [.enlist 0, .rollback] begun) :=
  ⟨rfl, .joined withTransaction_start_stubborn,
    close_reaches_iff (by rfl) (.joined withTransaction_start_stubborn) [.enlist 0, .rollback]⟩

/-- If the first thing that is done with a transaction is to close its connection, and the rollback
fails, then the connection is not closed. -/
theorem close_leaks :
    Created ⟨[stubborn], []⟩ 0 (joining 0 0) begun ∧
    (close (joining 0 0)).ending begun = (.error (.connectionCall "rollback"),
      ⟨⟨[stubborn.after [.rollback]], [⟨0, false⟩]⟩, [rollbackWarning]⟩) ∧
    ¬ ∃ made, .close ∈ made ∧
      ((close (joining 0 0)).ending begun).2.state.connections[0]? = some (stubborn.after made) := by
  have ended : (close (joining 0 0)).ending begun = (.error (.connectionCall "rollback"),
      ⟨⟨[stubborn.after [.rollback]], [⟨0, false⟩]⟩, [rollbackWarning]⟩) := rfl
  refine ⟨.joined withTransaction_start_stubborn, ended, ?_⟩
  rintro ⟨made, closes, same⟩
  rw [ended] at same
  have calls : [Operation.rollback] = made := congrArg Connection.calls (Option.some.inj same)
  subst calls
  simp at closes

end SqlBindings.Client.Access
