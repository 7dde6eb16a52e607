import SqlBindings.Proofs.Disconnection

/-!
A dry run switches the session into a mode in which batches return no rows. A query that was executed
in it would read an empty catalog without noticing.
-/

namespace SqlBindings.Catalog

/-- A batch that switches the mode on has been attempted, and since then no reset has succeeded. -/
def MayBeOn (driver : Driver) (calls : List Call) : Prop :=
  ∃ before sql arguments after, calls = before ++ .execute sql arguments :: after ∧
    StartsMode sql ∧ ∀ between later, after = between ++ .reset :: later →
      Fails driver (before ++ .execute sql arguments :: between) .reset

/-- The next batch that is executed, if any. -/
def nextBatch (calls : List Call) : Option Call := calls.find? Call.isExecute

/-- What is demanded of a call, given the calls before and after it. -/
structure Guarded (driver : Driver) (before : List Call) (call : Call) (after : List Call) :
    Prop where
  /-- Only the reset is executed while the mode may be on. -/
  executed : call.isExecute → call ≠ .reset → ¬ MayBeOn driver before
  /-- A dry run is followed by a reset, also if it failed. -/
  described : ∀ sql arguments, call = .execute sql arguments → StartsMode sql →
    nextBatch after = some .reset
  /-- So is one that got no further than to announce its parameters. -/
  refused : ∀ tags, call = .setInputSizes tags → Fails driver before call →
    nextBatch after = some .reset
  /-- Parameters are announced for a dry run only. -/
  announced : ∀ tags, call = .setInputSizes tags → ¬ Fails driver before call →
    ∃ sql arguments rest, after = .execute sql arguments :: rest ∧ StartsMode sql
  /-- If the reset or the closing of its cursor fails, nothing is executed any more. -/
  stopped : call = .reset → ¬ AllAnswered driver before [.reset, .closeCursor] →
    nextBatch after = none

/-- Every call is guarded, wherever it stands. -/
def AllGuarded (driver : Driver) (calls : List Call) : Prop :=
  ∀ before call after, calls = before ++ call :: after → Guarded driver before call after

/-- Each of the calls that follow others is guarded. -/
def GuardedFrom (driver : Driver) : List Call → List Call → Prop
  | _, [] => True
  | before, call :: after =>
    Guarded driver before call after ∧ GuardedFrom driver (before ++ [call]) after

section

variable {driver : Driver} {before calls rest : List Call} {call : Call} {sql : String}
  {arguments : List Argument}

theorem GuardedFrom.at {here after : List Call} (h : GuardedFrom driver before calls)
    (split : calls = here ++ call :: after) : Guarded driver (before ++ here) call after := by
  subst split
  induction here generalizing before with
  | nil => simpa using h.1
  | cons first here ih => simpa using ih h.2

theorem GuardedFrom.all (h : GuardedFrom driver [] calls) : AllGuarded driver calls :=
  fun _ _ _ split => h.at split

theorem not_mayBeOn_nil : ¬ MayBeOn driver [] := by
  rintro ⟨before, _, _, _, nothing, _⟩
  cases before <;> cases nothing

/-- A call switches the mode on, or keeps it as it is, unless it is a reset that succeeds. -/
theorem mayBeOn_concat (h : MayBeOn driver (before ++ [call])) :
    (∃ sql arguments, call = .execute sql arguments ∧ StartsMode sql) ∨
      MayBeOn driver before ∧ (call = .reset → Fails driver before .reset) := by
  obtain ⟨first, sql, arguments, after, split, starts, kept⟩ := h
  rcases List.eq_nil_or_concat' after with rfl | ⟨after, last, rfl⟩
  · obtain ⟨-, same⟩ := List.append_inj' split rfl
    cases same
    exact .inl ⟨sql, arguments, rfl, starts⟩
  · rw [← List.cons_append, ← List.append_assoc] at split
    obtain ⟨rfl, same⟩ := List.append_inj' split rfl
    cases same
    refine .inr ⟨⟨first, sql, arguments, after, rfl, starts, ?_⟩, ?_⟩
    · intro between later h
      exact kept between (later ++ [call]) (by simp [h])
    · rintro rfl
      exact kept after [] rfl

theorem not_mayBeOn_after_plain (off : ¬ MayBeOn driver before)
    (plain : ∀ sql arguments, call = .execute sql arguments → ¬ StartsMode sql) :
    ¬ MayBeOn driver (before ++ [call]) := by
  intro h
  rcases mayBeOn_concat h with ⟨sql, arguments, rfl, starts⟩ | ⟨on, _⟩
  · exact plain sql arguments rfl starts
  · exact off on

theorem not_mayBeOn_after_closeCursor (off : ¬ MayBeOn driver before) :
    ¬ MayBeOn driver (before ++ [.closeCursor]) :=
  not_mayBeOn_after_plain off fun _ _ h => nomatch h

theorem not_mayBeOn_after_reset (answered : ¬ Fails driver before .reset) :
    ¬ MayBeOn driver (before ++ [.reset]) := by
  intro h
  rcases mayBeOn_concat h with ⟨sql, arguments, same, starts⟩ | ⟨_, fails⟩
  · cases same
    exact not_startsMode_describeOnlyOff starts
  · exact answered (fails rfl)

theorem Exchange.not_mayBeOn (h : Exchange driver before calls)
    (answered : AllAnswered driver before calls) (off : ¬ MayBeOn driver before) :
    ¬ MayBeOn driver (before ++ calls) := by
  cases h with
  | query sql arguments plain =>
    have executed : ¬ MayBeOn driver (before ++ [.execute sql arguments]) := by
      refine not_mayBeOn_after_plain off ?_
      rintro _ _ ⟨⟩ starts
      exact plain starts.mentionsMode
    simpa using not_mayBeOn_after_closeCursor executed
  | dryRun calls probe =>
    have reset := not_mayBeOn_after_reset (allAnswered_append.mp answered).2.1
    simpa using not_mayBeOn_after_closeCursor reset

theorem Guarded.of_inert (noBatch : call.isExecute = false)
    (noSizes : ∀ tags, call ≠ .setInputSizes tags) : Guarded driver before call rest where
  executed batch := by simp [noBatch] at batch
  described := by
    rintro _ _ rfl
    cases noBatch
  refused tags sizes := absurd sizes (noSizes tags)
  announced tags sizes := absurd sizes (noSizes tags)
  stopped := by
    rintro rfl
    cases noBatch

theorem Guarded.query (off : ¬ MayBeOn driver before) (plain : ¬ MentionsMode sql) :
    Guarded driver before (.execute sql arguments) rest where
  executed _ _ := off
  described := by
    rintro _ _ ⟨⟩ starts
    exact absurd starts.mentionsMode plain
  refused _ h := nomatch h
  announced _ h := nomatch h
  stopped := by
    rintro ⟨⟩
    exact absurd mentionsMode_describeOnlyOff plain

theorem Guarded.dryRun (off : ¬ MayBeOn driver before) (starts : StartsMode sql)
    (next : nextBatch rest = some .reset) :
    Guarded driver before (.execute sql arguments) rest where
  executed _ _ := off
  described _ _ _ _ := next
  refused _ h := nomatch h
  announced _ h := nomatch h
  stopped := by
    rintro ⟨⟩
    exact absurd starts not_startsMode_describeOnlyOff

theorem Guarded.reset
    (stopped : ¬ AllAnswered driver before [.reset, .closeCursor] → nextBatch rest = none) :
    Guarded driver before .reset rest where
  executed _ other := absurd rfl other
  described := by
    rintro _ _ ⟨⟩ starts
    exact absurd starts not_startsMode_describeOnlyOff
  refused _ h := nomatch h
  announced _ h := nomatch h
  stopped _ := stopped

theorem Guarded.sizes {tags : List String}
    (refused : Fails driver before (.setInputSizes tags) → nextBatch rest = some .reset)
    (announced : ¬ Fails driver before (.setInputSizes tags) →
      ∃ sql arguments later, rest = .execute sql arguments :: later ∧ StartsMode sql) :
    Guarded driver before (.setInputSizes tags) rest where
  executed batch := nomatch batch
  described _ _ h := nomatch h
  refused := by
    rintro _ ⟨⟩
    exact refused
  announced := by
    rintro _ ⟨⟩
    exact announced
  stopped h := nomatch h

theorem Guarded.closeCursor : Guarded driver before .closeCursor rest :=
  .of_inert rfl fun _ h => nomatch h

theorem Probe.guardedFrom (h : Probe driver before calls) (off : ¬ MayBeOn driver before)
    (next : nextBatch rest = some .reset) (following : GuardedFrom driver (before ++ calls) rest) :
    GuardedFrom driver before (calls ++ rest) := by
  cases h with
  | refused tags fails =>
    refine ⟨.sizes (fun _ => next) (absurd fails), .closeCursor, ?_⟩
    simpa using following
  | typed tags sql arguments answered starts =>
    have announced : ¬ MayBeOn driver (before ++ [.setInputSizes tags]) :=
      not_mayBeOn_after_plain off fun _ _ h => nomatch h
    refine ⟨.sizes (absurd · answered) fun _ => ⟨sql, arguments, _, rfl, starts⟩,
      .dryRun announced starts next, .closeCursor, ?_⟩
    simpa using following
  | untyped sql arguments starts =>
    refine ⟨.dryRun off starts next, .closeCursor, ?_⟩
    simpa using following

/-- After an exchange in which a call failed there must be no further batch. -/
theorem Exchange.guardedFrom (h : Exchange driver before calls) (off : ¬ MayBeOn driver before)
    (onward : AllAnswered driver before calls ∨ nextBatch rest = none)
    (following : GuardedFrom driver (before ++ calls) rest) :
    GuardedFrom driver before (calls ++ rest) := by
  cases h with
  | query sql arguments plain =>
    refine ⟨.query off plain, .closeCursor, ?_⟩
    simpa using following
  | dryRun calls probe =>
    rw [List.append_assoc]
    refine probe.guardedFrom off rfl ⟨.reset fun unanswered => ?_, .closeCursor, ?_⟩
    · exact onward.resolve_left fun answered => unanswered (allAnswered_append.mp answered).2
    · simpa using following

/-- The invariant of a dialogue is that the mode is off whenever an exchange begins. -/
theorem Dialogue.guardedFrom (h : Dialogue driver before calls) (off : ¬ MayBeOn driver before) :
    GuardedFrom driver before (calls ++ [.closeConnection]) := by
  have closing (before : List Call) : GuardedFrom driver before [.closeConnection] :=
    ⟨.of_inert rfl fun _ h => (nomatch h), trivial⟩
  induction h with
  | nil => exact closing _
  | last exchange => exact exchange.guardedFrom off (.inr rfl) (closing _)
  | next exchange answered _ ih =>
    rw [List.append_assoc]
    exact exchange.guardedFrom off (.inl answered) (ih (exchange.not_mayBeOn answered off))

end

/-- In no run, whatever the driver answers, a query or a dry run is executed while the mode may be on.
Each dry run is followed by a reset, and a reset that fails ends the run. -/
theorem introspectDatabase_guarded (driver : Driver) (settings : List (String × Datum))
    (catalogName : String) :
    AllGuarded driver
      ((introspectDatabase driver settings catalogName).start {}).2.state.calls := by
  have connecting (server : Datum) (rest : List Call) : Guarded driver [] (.connect server) rest :=
    .of_inert rfl fun _ h => nomatch h
  apply GuardedFrom.all
  rcases introspectDatabase_calls driver settings catalogName rfl with
    h | ⟨server, h⟩ | ⟨server, between, h, dialogue⟩
  · rw [h]
    trivial
  · rw [h]
    exact ⟨connecting server [], trivial⟩
  · rw [h]
    refine ⟨connecting server _, dialogue.guardedFrom ?_⟩
    exact not_mayBeOn_after_plain not_mayBeOn_nil fun _ _ h => nomatch h

end SqlBindings.Catalog
