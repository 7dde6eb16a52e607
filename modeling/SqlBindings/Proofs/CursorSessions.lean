import SqlBindings.Proofs.Connectedness

/-!
A cursor is used for one batch and then closed. Whichever calls fail, what a session asks of a driver
is made of such uses, and none of them is left unfinished when an operation ends.
-/

namespace SqlBindings.Catalog

/-- A call, and whether the driver answered it with an error. -/
structure NotedCall where
  call : Call
  failed : Bool

/-- The calls made after others, each with how it was answered. -/
def noted (driver : Driver) : List Call → List Call → List NotedCall
  | _, [] => []
  | history, call :: rest =>
    ⟨call, !(driver history call).isOk⟩ :: noted driver (history ++ [call]) rest

instance : DecidablePred Call.OfCursor
  | .connect _ | .closeConnection => inferInstanceAs (Decidable False)
  | .setInputSizes _ | .execute _ _ | .closeCursor => inferInstanceAs (Decidable True)

/-- The calls on cursors among those made after others. -/
def cursorLog (driver : Driver) (history calls : List Call) : List NotedCall :=
  (noted driver history calls).filter (·.call.OfCursor)

/-- What becomes of one cursor. It executes a batch, unless the types of the arguments could not be
announced, and is closed in any case. -/
inductive CursorUse : List NotedCall → Prop
  | untyped (sql : String) (arguments : List Argument) (failed unclosed : Bool) :
      CursorUse [⟨.execute sql arguments, failed⟩, ⟨.closeCursor, unclosed⟩]
  | typed (tags : List String) (sql : String) (arguments : List Argument) (failed unclosed : Bool) :
      CursorUse [⟨.setInputSizes tags, false⟩, ⟨.execute sql arguments, failed⟩,
        ⟨.closeCursor, unclosed⟩]
  | refused (tags : List String) (unclosed : Bool) :
      CursorUse [⟨.setInputSizes tags, true⟩, ⟨.closeCursor, unclosed⟩]

/-- Uses of cursors, each of them finished before the next one begins. -/
def InTurn (log : List NotedCall) : Prop :=
  ∃ uses : List (List NotedCall), log = uses.flatten ∧ ∀ use ∈ uses, CursorUse use

theorem inTurn_nil : InTurn [] := ⟨[], rfl, by simp⟩

theorem CursorUse.inTurn {log : List NotedCall} (use : CursorUse log) : InTurn log :=
  ⟨[log], by simp, by simpa using use⟩

theorem InTurn.append {first second : List NotedCall} (one : InTurn first) (other : InTurn second) :
    InTurn (first ++ second) := by
  obtain ⟨uses, rfl, each⟩ := one
  obtain ⟨uses', rfl, each'⟩ := other
  refine ⟨uses ++ uses', List.flatten_append.symm, ?_⟩
  exact fun use mem => (List.mem_append.mp mem).elim (each use) (each' use)

section

variable {driver : Driver} {history calls rest : List Call}

theorem noted_append : noted driver history (calls ++ rest) =
    noted driver history calls ++ noted driver (history ++ calls) rest := by
  induction calls generalizing history with
  | nil => simp [noted]
  | cons call calls ih => simp [noted, ih]

theorem map_noted (driver : Driver) (history calls : List Call) :
    (noted driver history calls).map NotedCall.call = calls := by
  induction calls generalizing history with
  | nil => rfl
  | cons call calls ih => rw [noted, List.map_cons, ih]

theorem cursorLog_append : cursorLog driver history (calls ++ rest) =
    cursorLog driver history calls ++ cursorLog driver (history ++ calls) rest := by
  rw [cursorLog, noted_append, List.filter_append]
  rfl

/-- Where all calls are on cursors, all of them are noted. -/
theorem cursorLog_eq_noted (cursors : ∀ call ∈ calls, call.OfCursor) :
    cursorLog driver history calls = noted driver history calls := by
  apply List.filter_eq_self.mpr
  intro entry mem
  have made : entry.call ∈ (noted driver history calls).map NotedCall.call :=
    List.mem_map_of_mem mem
  rw [map_noted] at made
  exact decide_eq_true (cursors entry.call made)

theorem failed_eq_true {call : Call} (fails : Fails driver history call) :
    (!(driver history call).isOk) = true := by
  obtain ⟨e, answer⟩ := fails
  rw [answer]
  rfl

theorem failed_eq_false {call : Call} (answered : ¬ Fails driver history call) :
    (!(driver history call).isOk) = false := by
  cases answer : driver history call with
  | error e => exact absurd ⟨e, answer⟩ answered
  | ok reply => rfl

/-- A dry run uses one cursor. -/
theorem Probe.cursorUse (h : Probe driver history calls) :
    CursorUse (noted driver history calls) := by
  cases h with
  | refused tags fails =>
    rw [noted, failed_eq_true fails]
    exact .refused tags _
  | typed tags sql arguments answered =>
    rw [noted, failed_eq_false answered]
    exact .typed tags sql arguments _ _
  | untyped sql arguments => exact .untyped sql arguments _ _

/-- A query uses one cursor; a dry run and its reset use one each. -/
theorem Exchange.inTurn (h : Exchange driver history calls) :
    InTurn (noted driver history calls) := by
  cases h with
  | query sql arguments => exact (CursorUse.untyped sql arguments _ _).inTurn
  | dryRun calls probe =>
    rw [noted_append]
    exact probe.cursorUse.inTurn.append (CursorUse.untyped Query.describeOnlyOff [] _ _).inTurn

theorem Dialogue.inTurn (h : Dialogue driver history calls) :
    InTurn (noted driver history calls) := by
  induction h with
  | nil => exact inTurn_nil
  | last exchange => exact exchange.inTurn
  | next exchange _ _ ih =>
    rw [noted_append]
    exact exchange.inTurn.append ih

end

namespace Session

/-- Whatever an operation is and however it ends, each cursor it used is closed by then. -/
theorem Operation.run_inTurn (driver : Driver) (operation : Operation) (t : Traced Session) :
    ∃ calls, ((operation.run driver).ending t).2.state.calls = t.state.calls ++ calls ∧
      InTurn (cursorLog driver t.state.calls calls) := by
  by_cases inquiry : operation.isInquiry = true
  · obtain ⟨calls, dialogue, state, _⟩ := converses_run inquiry t
    refine ⟨calls, congrArg Session.calls state, ?_⟩
    rw [cursorLog_eq_noted dialogue.ofCursor]
    exact dialogue.inTurn
  · cases operation with
    | connect settings =>
      rcases connect_cases driver settings t with
        ⟨server, _, state⟩ | ⟨_, _, state | ⟨server, state⟩⟩
      · exact ⟨[.connect server], congrArg Session.calls state, inTurn_nil⟩
      · exact ⟨[], by rw [state, List.append_nil], inTurn_nil⟩
      · exact ⟨[.connect server], congrArg Session.calls state, inTurn_nil⟩
    | close =>
      change ∃ calls, ((Session.close driver).ending t).2.state.calls = _ ∧ _
      cases connected : t.state.connected with
      | true =>
        rw [close_ending driver connected]
        exact ⟨[.closeConnection], rfl, inTurn_nil⟩
      | false =>
        rw [close_ending_disconnected driver connected]
        exact ⟨[], (List.append_nil _).symm, inTurn_nil⟩
    | _ => exact absurd rfl inquiry

/-- Whatever is asked of a session and whichever calls fail, its calls on cursors are whole uses of
one cursor after another, and so are those of the next operation, which leaves none open. -/
theorem cursors_inTurn (driver : Driver) (operations : List Operation) :
    InTurn (cursorLog driver [] (History.of driver operations).present.state.calls) ∧
    ∀ operation : Operation, ∃ calls,
      ((operation.run driver).ending (History.of driver operations).present).2.state.calls =
        (History.of driver operations).present.state.calls ++ calls ∧
      InTurn (cursorLog driver (History.of driver operations).present.state.calls calls) := by
  refine ⟨?_, fun operation => operation.run_inTurn driver _⟩
  -- a history grows at its end, so the induction takes the last operation away
  induction operations using List.reverseRecOn with
  | nil => exact inTurn_nil
  | append_singleton operations operation ih =>
    obtain ⟨calls, state, last⟩ := operation.run_inTurn driver (History.of driver operations).present
    rw [History.of_concat, History.extend]
    simp only [state]
    rw [cursorLog_append, List.nil_append]
    exact ih.append last

end Session

end SqlBindings.Catalog
