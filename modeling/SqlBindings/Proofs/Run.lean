import Mathlib.Data.List.Forall2
import SqlBindings.Log

/-!
How runs end. A run from a state and a log ends with a result and with the state and log it leaves
behind; what stands after a failed step is not run.
-/

namespace SqlBindings.Run

variable {σ α β : Type}

/-- The result of a run from any state and log, and the state and log it ends with. -/
def ending (run : Run σ α) (t : Traced σ) : Except Failure α × Traced σ :=
  (ExceptT.run run).run t

theorem start_eq_ending (run : Run σ α) (state : σ) : run.start state = run.ending ⟨state, []⟩ :=
  rfl

@[simp] theorem ending_pure (a : α) (t : Traced σ) : ending (pure a) t = (.ok a, t) := rfl

@[simp] theorem ending_ofExcept (result : Except Failure α) (t : Traced σ) :
    ending (ofExcept result) t = (result, t) := rfl

@[simp] theorem ending_throw (e : Failure) (t : Traced σ) :
    ending (throw e : Run σ α) t = (.error e, t) :=
  rfl

@[simp] theorem ending_get (t : Traced σ) : ending (get : Run σ (Traced σ)) t = (.ok t, t) := rfl

@[simp] theorem ending_log (level : LogLevel) (source : LogSource) (message : String)
    (t : Traced σ) :
    ending (log level source message) t =
      (.ok (), { t with log := t.log ++ [⟨level, source, message⟩] }) :=
  rfl

@[simp] theorem ending_outcome (run : Run σ α) (t : Traced σ) :
    ending (outcome run) t = (.ok (run.ending t).1, (run.ending t).2) :=
  rfl

theorem ending_bind (run : Run σ α) (f : α → Run σ β) (t : Traced σ) :
    ending (run >>= f) t = match run.ending t with
      | (.ok a, u) => (f a).ending u
      | (.error e, u) => (.error e, u) := by
  simp only [ending, ExceptT.run_bind, StateT.run_bind]
  rcases (ExceptT.run run).run t with ⟨_ | _, _⟩ <;> rfl

/-- The cleanup runs whatever has happened before it, and only its own failure is reported instead. -/
theorem ending_followedAlwaysBy (body : Run σ α) (cleanup : Run σ Unit) (t : Traced σ) :
    ending (body.followedAlwaysBy cleanup) t = match cleanup.ending (body.ending t).2 with
      | (.ok _, u) => ((body.ending t).1, u)
      | (.error e, u) => (.error e, u) := by
  simp only [followedAlwaysBy, ending_bind, ending_outcome, ending_ofExcept]
  rcases cleanup.ending (body.ending t).2 with ⟨_ | _, _⟩ <;> rfl

/-- A run of two steps succeeds exactly if the first one does and the second one does after it. -/
theorem ending_bind_eq_ok {run : Run σ α} {f : α → Run σ β} {t v : Traced σ} {b : β} :
    ending (run >>= f) t = (.ok b, v) ↔
      ∃ a u, run.ending t = (.ok a, u) ∧ (f a).ending u = (.ok b, v) := by
  rw [ending_bind]
  rcases run.ending t with ⟨e | a, u⟩
  · constructor
    · intro h
      cases h
    · rintro ⟨_, _, h, _⟩
      cases h
  · constructor
    · exact fun h => ⟨a, u, rfl, h⟩
    · rintro ⟨_, _, h, h'⟩
      cases h
      exact h'

theorem result_of_ofExcept {result : Except Failure α} {t u : Traced σ} {a : α}
    (h : ending (ofExcept result) t = (.ok a, u)) : result = .ok a := by
  cases h
  rfl

/-- Each value of a sequence of runs that succeeds is that of one of them. -/
theorem ending_mapM_ok {f : α → Run σ β} {xs : List α} {ys : List β} {t u : Traced σ}
    (h : ending (xs.mapM f) t = (.ok ys, u)) :
    List.Forall₂ (fun x y => ∃ v w, (f x).ending v = (.ok y, w)) xs ys := by
  induction xs generalizing ys t u with
  | nil =>
    cases h
    exact .nil
  | cons x xs ih =>
    rw [List.mapM_cons] at h
    obtain ⟨y, v, hy, h⟩ := ending_bind_eq_ok.mp h
    obtain ⟨rest, w, hrest, h⟩ := ending_bind_eq_ok.mp h
    cases h
    exact .cons ⟨t, v, hy⟩ (ih hrest)

end SqlBindings.Run
