import SqlBindings.Proofs.CursorOutcomes
import SqlBindings.Proofs.Verdicts

namespace SqlBindings.Catalog

open Run

namespace Row

/-- A column says what four items of an entry say: the name, the type, the fifth and the seventh. -/
inductive Describes : Datum → ResultColumn → Prop
  | items {items : List Datum} {c : ResultColumn} {precision nullable : Datum}
      (name : items[0]? = some (.ofText? c.name))
      (type : items[1]? = some (.text c.valueType.label))
      (fifth : items[4]? = some precision)
      -- a whole number may be written in other ways as well
      (measured : Check.orNull Check.int precision = .ok (.accepted c.precision))
      (seventh : items[6]? = some nullable) (set : nullable.isSet = c.nullable) :
      Describes (.list items) c

/-- The record that is checked to make a column of four cells. -/
def columnRecord (name type precision nullable : Datum) : Datum :=
  .record [("name", name), ("value_type", type), ("precision", precision),
    ("nullable", .bool nullable.isSet)]

/-- The characters of a text, each as a text of its own. -/
def characters (s : String) : List Datum := s.toList.map fun c => .text (String.singleton c)

/-- Why no column is made of an entry. -/
inductive Refused : Datum → Failure → Prop
  | short {items : List Datum} {position : Nat} (needed : position ∈ [0, 1, 4, 6])
      (missing : items[position]? = none) : Refused (.list items) (.data .outOfRange)
  | record {items : List Datum} {name type precision nullable : Datum}
      {violations : List Violation} (first : items[0]? = some name) (second : items[1]? = some type)
      (fifth : items[4]? = some precision) (seventh : items[6]? = some nullable)
      (refused : ResultColumn.check (columnRecord name type precision nullable) =
        .ok (.refused violations)) : Refused (.list items) (.rejected .resultColumn violations)
  /-- A text counts as the list of its characters, none of which is the name of a type. -/
  | text {s : String} {e : Failure} (refused : Refused (.list (characters s)) e) :
      Refused (.text s) e
  | fields (fields : List (String × Datum)) : Refused (.record fields) (.data (.noField "0"))
  | other {entry : Datum} (unlisted : ∀ items, entry ≠ .list items)
      (unwritten : ∀ s, entry ≠ .text s) (unnamed : ∀ fields, entry ≠ .record fields) :
      Refused entry (.data (.notIndexable entry.kind))

/-- What is read from a description: a column for each entry, in order, or the failure of the first
entry of which none can be made. -/
inductive Reads (description : List Datum) : Except Failure (List ResultColumn) → Prop
  | columns (columns : List ResultColumn) (each : List.Forall₂ Describes description columns) :
      Reads description (.ok columns)
  | failure (before : List Datum) (entry : Datum) (after : List Datum) (e : Failure)
      (split : description = before ++ entry :: after)
      (sound : ∀ d ∈ before, ∃ c, Describes d c) (refused : Refused entry e) :
      Reads description (.error e)

theorem cell_list_eq_ok {items : List Datum} {position : Nat} {d : Datum} :
    cell (.list items) position = .ok d ↔ items[position]? = some d := by
  rw [cell]
  cases items[position]? <;> simp

theorem cell_list_eq_error {items : List Datum} {position : Nat} {e : Failure} :
    cell (.list items) position = .error e ↔ items[position]? = none ∧ e = .data .outOfRange := by
  rw [cell]
  cases items[position]? <;> simp [eq_comm]

theorem cell_text (s : String) (position : Nat) :
    cell (.text s) position = cell (.list (characters s)) position := by
  rw [cell, cell, characters, List.getElem?_map]
  cases s.toList[position]? <;> rfl

theorem resultColumn_text (s : String) :
    resultColumn (.text s) = resultColumn (.list (characters s)) := by
  simp only [resultColumn, cell_text]

/-- The name of a type is longer than a character. -/
theorem not_describes_characters {s : String} {c : ResultColumn} :
    ¬ Describes (.list (characters s)) c := by
  rintro ⟨-, type, -, -, -, -⟩
  rw [characters, List.getElem?_map] at type
  obtain ⟨letter, -, same⟩ := Option.map_eq_some_iff.mp type
  have short : c.valueType.label.length = 1 := by
    rw [← Datum.text.inj same]
    exact String.length_singleton
  revert short
  cases c.valueType <;> decide

theorem check_type_iff {d : Datum} {type : ValueType} :
    ValueType.check d = .ok (.accepted type) ↔ d = .text type.label := by
  constructor
  · intro accepted
    cases d with
    | text label =>
      cases found : ValueType.ofLabel? label with
      | none => simp [ValueType.check, found, Verdict.breaks] at accepted
      | some known =>
        simp only [ValueType.check, found, pure_eq_ok, Except.ok.injEq, Verdict.accepted.injEq]
          at accepted
        subst accepted
        have same := List.find?_some found
        rw [eq_of_beq same]
    | _ => cases accepted
  · rintro rfl
    cases type <;> rfl

theorem check_name_iff {d : Datum} {name : Option String} :
    Check.orNull Check.text d = .ok (.accepted name) ↔ d = .ofText? name := by
  constructor
  · intro accepted
    cases d with
    | null =>
      cases accepted
      rfl
    | text s =>
      cases accepted
      rfl
    | _ => cases accepted
  · rintro rfl
    exact Check.orNull_ofText? name

/-- The cells of a column are checked each on its own. -/
theorem check_columnRecord {name type precision : Datum} {named : Verdict (Option String)}
    {typed : Verdict ValueType} {measured : Verdict (Option Int)} (nullable : Datum)
    (first : Check.orNull Check.text name = .ok named) (second : ValueType.check type = .ok typed)
    (third : Check.orNull Check.int precision = .ok measured) :
    ResultColumn.check (columnRecord name type precision nullable) =
      .ok (ResultColumn.mk <$> named.under (.field "name") <*> typed.under (.field "value_type") <*>
        measured.under (.field "precision") <*> .accepted nullable.isSet) := by
  simp only [ResultColumn.check, columnRecord, Check.record, Check.optional, Check.required,
    List.lookup_cons, String.reduceBEq, first, second, third, ok_bind]
  rfl

/-- The check of a column comes to a verdict, whatever its cells are. -/
theorem check_columnRecord_cases (name type precision nullable : Datum) :
    (∃ c, ResultColumn.check (columnRecord name type precision nullable) = .ok (.accepted c) ∧
      name = .ofText? c.name ∧ type = .text c.valueType.label ∧
      Check.orNull Check.int precision = .ok (.accepted c.precision) ∧
      nullable.isSet = c.nullable) ∨
    ∃ violations, ResultColumn.check (columnRecord name type precision nullable) =
      .ok (.refused violations) := by
  obtain ⟨named, first⟩ : ∃ verdict, Check.orNull Check.text name = .ok verdict := by
    cases name <;> exact ⟨_, rfl⟩
  obtain ⟨typed, second⟩ : ∃ verdict, ValueType.check type = .ok verdict := by
    cases type <;> exact ⟨_, rfl⟩
  obtain ⟨measured, third⟩ : ∃ verdict, Check.orNull Check.int precision = .ok verdict := by
    cases precision <;> exact ⟨_, rfl⟩
  rw [check_columnRecord nullable first second third]
  generalize made : ResultColumn.mk <$> named.under (.field "name") <*>
    typed.under (.field "value_type") <*> measured.under (.field "precision") <*>
    .accepted nullable.isSet = verdict
  cases verdict with
  | refused violations => exact .inr ⟨violations, rfl⟩
  | accepted c =>
    simp only [Verdict.seq_eq_accepted, Verdict.map_eq_accepted, Verdict.under_eq_accepted] at made
    obtain ⟨_, _, ⟨_, _, ⟨_, _, ⟨_, rfl, rfl⟩, rfl, rfl⟩, rfl, rfl⟩, same, rfl⟩ := made
    cases same
    exact .inl ⟨_, rfl, check_name_iff.mp first, check_type_iff.mp second, third, rfl⟩

theorem resultColumn_list_cases (items : List Datum) :
    (∃ c, resultColumn (.list items) = .ok c ∧ Describes (.list items) c) ∨
      ∃ e, resultColumn (.list items) = .error e ∧ Refused (.list items) e := by
  have short {position : Nat} {e : Failure} (needed : position ∈ [0, 1, 4, 6])
      (missing : cell (.list items) position = .error e) : Refused (.list items) e := by
    obtain ⟨none, rfl⟩ := cell_list_eq_error.mp missing
    exact .short needed none
  unfold resultColumn
  cases first : cell (.list items) 0 with
  | error e => exact .inr ⟨e, rfl, short (by decide) first⟩
  | ok name =>
  cases second : cell (.list items) 1 with
  | error e => exact .inr ⟨e, rfl, short (by decide) second⟩
  | ok type =>
  cases fifth : cell (.list items) 4 with
  | error e => exact .inr ⟨e, rfl, short (by decide) fifth⟩
  | ok precision =>
  cases seventh : cell (.list items) 6 with
  | error e => exact .inr ⟨e, rfl, short (by decide) seventh⟩
  | ok nullable =>
  rw [cell_list_eq_ok] at first second fifth seventh
  simp only [ok_bind]
  change (∃ c, ResultColumn.check.run .resultColumn (columnRecord name type precision nullable) =
      .ok c ∧ _) ∨ ∃ e, ResultColumn.check.run .resultColumn
        (columnRecord name type precision nullable) = .error e ∧ _
  rcases check_columnRecord_cases name type precision nullable with
    ⟨c, accepted, rfl, rfl, measured, set⟩ | ⟨violations, refused⟩
  · exact .inl ⟨c, Check.run_eq_ok.mpr accepted, .items first second fifth measured seventh set⟩
  · refine .inr ⟨_, by rw [Check.run, refused]; rfl, ?_⟩
    exact .record first second fifth seventh refused

/-- A column is made of an entry, or the entry is refused. -/
theorem resultColumn_cases (entry : Datum) :
    (∃ c, resultColumn entry = .ok c ∧ Describes entry c) ∨
      ∃ e, resultColumn entry = .error e ∧ Refused entry e := by
  cases entry with
  | list items => exact resultColumn_list_cases items
  | text s =>
    rw [resultColumn_text]
    rcases resultColumn_list_cases (characters s) with ⟨c, -, describes⟩ | ⟨e, fails, refused⟩
    · exact absurd describes not_describes_characters
    · exact .inr ⟨e, fails, .text refused⟩
  | record fields => exact .inr ⟨_, rfl, .fields fields⟩
  | _ => exact .inr ⟨_, rfl, .other nofun nofun nofun⟩

theorem reads_cons {entry : Datum} {rest : List Datum} {c : ResultColumn}
    {result : Except Failure (List ResultColumn)} (first : Describes entry c)
    (others : Reads rest result) : Reads (entry :: rest) (result.map (c :: ·)) := by
  cases others with
  | columns columns each => exact .columns _ (.cons first each)
  | failure before later after e split sound refused =>
    refine .failure (entry :: before) later after e (by rw [split]; rfl) ?_ refused
    exact List.forall_mem_cons.mpr ⟨⟨c, first⟩, sound⟩

theorem reads_mapM (description : List Datum) :
    Reads description (description.mapM resultColumn) := by
  induction description with
  | nil => exact .columns [] .nil
  | cons entry rest ih =>
    rw [List.mapM_cons]
    rcases resultColumn_cases entry with ⟨c, made, describes⟩ | ⟨e, fails, refused⟩
    · rw [made, ok_bind]
      generalize rest.mapM resultColumn = others at ih ⊢
      have both := reads_cons describes ih
      cases others <;> exact both
    · rw [fails]
      exact .failure [] entry rest e rfl (by simp) refused

end Row

namespace Session

/-- The reset after a dry run is answered, and its cursor can be closed. -/
abbrev IsReset (driver : Driver) (history : List Call) : Prop :=
  AllAnswered driver history [.reset, .closeCursor]

/-- What is logged of the reset after a dry run that failed. -/
def resetWarnings (driver : Driver) (history : List Call) (qualifiedName : String) : List LogEntry :=
  match onCursor driver history .reset with
  | .ok _ => []
  | .error e => [⟨.warning, .catalog,
      "Could not reset FMTONLY after dry run of " ++ qualifiedName ++ ": " ++ e.text⟩]

/-- How the dry run of a procedure ends, from the calls it makes before its reset. -/
structure DryRunEnds (driver : Driver) (qualifiedName : String) (parameters : List Attribute)
    (before : Traced Session) (calls : List Call) (result : Except Failure (List ResultColumn))
    (after : Traced Session) : Prop where
  made : ProbeOf driver qualifiedName parameters before.state.calls calls
  /-- The reset follows in any case, and the connection is the one it was. -/
  state : after.state = before.state.after (calls ++ [.reset, .closeCursor])
  /-- The failure of the dry run is reported, whatever becomes of the reset. -/
  failed : ¬ AllAnswered driver before.state.calls calls → ∃ failure reason,
    result = .error failure ∧ failure = .dryRun qualifiedName reason ∧
      failure.message = "Dry run of " ++ qualifiedName ++ " failed: " ++ reason
  /-- After it, a reset that fails is a warning. -/
  warned : ¬ AllAnswered driver before.state.calls calls →
    ¬ IsReset driver (before.state.calls ++ calls) →
      ∃ entry, after.log = before.log ++ [entry] ∧ entry.level = .warning
  /-- Nothing else is logged. -/
  unwarned : AllAnswered driver before.state.calls calls ∨
    IsReset driver (before.state.calls ++ calls) → after.log = before.log
  /-- After a dry run that succeeded, the error of the reset is reported as it is. -/
  unreset : AllAnswered driver before.state.calls calls →
    ¬ IsReset driver (before.state.calls ++ calls) →
      ∃ e, onCursor driver (before.state.calls ++ calls) .reset = .error e ∧
        result = .error (.driver e)
  /-- Otherwise the columns are read from the answer to the batch. -/
  read : AllAnswered driver before.state.calls calls →
    IsReset driver (before.state.calls ++ calls) →
      ∃ front reply, calls = front ++ [rehearsal qualifiedName parameters, .closeCursor] ∧
        driver (before.state.calls ++ front) (rehearsal qualifiedName parameters) = .ok reply ∧
        Row.Reads reply.description result

variable {driver : Driver} {qualifiedName : String} {parameters : List Attribute}
  {t : Traced Session}

theorem report_ending_of_error (driver : Driver) (qualifiedName : String) (failure : Failure)
    (t : Traced Session) :
    (report driver qualifiedName (.error failure)).ending t =
      (.error (.dryRun qualifiedName failure.message),
        ⟨t.state.after [.reset, .closeCursor],
          t.log ++ resetWarnings driver t.state.calls qualifiedName⟩) := by
  rw [report, resetWarnings, ending_bind, ending_outcome, resetMode_ending]
  cases onCursor driver t.state.calls .reset with
  | error e => rfl
  | ok reply => exact congrArg (fun log => (_, (⟨_, log⟩ : Traced Session))) (List.append_nil _).symm

theorem report_ending_of_ok (driver : Driver) (qualifiedName : String) (description : List Datum)
    (t : Traced Session) :
    (report driver qualifiedName (.ok description)).ending t =
      (match onCursor driver t.state.calls .reset with
        | .error e => .error (.driver e)
        | .ok _ => description.mapM Row.resultColumn,
      { t with state := t.state.after [.reset, .closeCursor] }) := by
  rw [report, ending_bind, resetMode_ending]
  cases onCursor driver t.state.calls .reset <;> rfl

theorem describe_ending (driver : Driver) (qualifiedName : String) (parameters : List Attribute)
    (connected : t.state.connected = true) : ∃ calls outcome,
    ProbeEnds driver qualifiedName parameters t.state.calls calls outcome ∧
      (describe driver qualifiedName parameters).ending t =
        (report driver qualifiedName ((outcome.map Reply.description).mapError .driver)).ending
          { t with state := t.state.after calls } := by
  obtain ⟨calls, outcome, ends, probed⟩ := probe_ending driver qualifiedName parameters t
  refine ⟨calls, outcome, ends, ?_⟩
  rw [describe_eq, ending_bind, requireConnection_ending, connected]
  simp only [if_true, ending_bind, ending_outcome, probed]

theorem resetWarnings_of_isReset {history : List Call} (reset : IsReset driver history) :
    resetWarnings driver history qualifiedName = [] := by
  obtain ⟨reply, answered⟩ := onCursor_ok_iff.mpr reset
  rw [resetWarnings, answered]

theorem exists_error_of_not_isReset {history : List Call} (unreset : ¬ IsReset driver history) :
    ∃ e, onCursor driver history .reset = .error e := by
  cases outcome : onCursor driver history .reset with
  | error e => exact ⟨e, rfl⟩
  | ok reply => exact absurd (onCursor_ok_iff.mp ⟨reply, outcome⟩) unreset

section

variable {calls : List Call}

theorem DryRunEnds.of_error {e : DriverError}
    (ends : ProbeEnds driver qualifiedName parameters t.state.calls calls (.error e)) :
    DryRunEnds driver qualifiedName parameters t calls (.error (.dryRun qualifiedName e.text))
      ⟨t.state.after (calls ++ [.reset, .closeCursor]),
        t.log ++ resetWarnings driver (t.state.calls ++ calls) qualifiedName⟩ := by
  have unanswered : ¬ AllAnswered driver t.state.calls calls := by
    intro answered
    obtain ⟨reply, succeeds⟩ := ends.ok_iff.mpr answered
    cases succeeds
  exact {
    made := ends.probeOf
    state := rfl
    failed := fun _ => ⟨_, e.text, rfl, rfl, rfl⟩
    warned := by
      intro _ unreset
      obtain ⟨second, fails⟩ := exists_error_of_not_isReset unreset
      exact ⟨_, by rw [resetWarnings, fails], rfl⟩
    unwarned := by
      rintro (answered | reset)
      · exact absurd answered unanswered
      · simp only [resetWarnings_of_isReset reset, List.append_nil]
    unreset := fun answered => absurd answered unanswered
    read := fun answered => absurd answered unanswered }

theorem DryRunEnds.of_ok {reply : Reply}
    (ends : ProbeEnds driver qualifiedName parameters t.state.calls calls (.ok reply)) :
    DryRunEnds driver qualifiedName parameters t calls
      (match onCursor driver (t.state.calls ++ calls) .reset with
        | .error e => .error (.driver e)
        | .ok _ => reply.description.mapM Row.resultColumn)
      ⟨t.state.after (calls ++ [.reset, .closeCursor]), t.log⟩ := by
  have answered : AllAnswered driver t.state.calls calls := ends.ok_iff.mp ⟨reply, rfl⟩
  exact {
    made := ends.probeOf
    state := rfl
    failed := fun unanswered => absurd answered unanswered
    warned := fun unanswered => absurd answered unanswered
    unwarned := fun _ => rfl
    unreset := by
      intro _ unreset
      obtain ⟨e, fails⟩ := exists_error_of_not_isReset unreset
      exact ⟨e, fails, by rw [fails]⟩
    read := by
      intro _ reset
      obtain ⟨front, split, replied⟩ := ends.replied rfl
      obtain ⟨_, closed⟩ := onCursor_ok_iff.mpr reset
      refine ⟨front, reply, split, replied, ?_⟩
      rw [closed]
      exact Row.reads_mapM reply.description }

end

/-- However the driver answers, the dry run of a procedure ends in one of three ways: it failed, or it
succeeded and its reset failed, or both succeeded and its columns are read. -/
theorem describe_ends (driver : Driver) (qualifiedName : String) (parameters : List Attribute)
    (t : Traced Session) (connected : t.state.connected = true) : ∃ calls,
    DryRunEnds driver qualifiedName parameters t calls
      ((describe driver qualifiedName parameters).ending t).1
      ((describe driver qualifiedName parameters).ending t).2 := by
  obtain ⟨calls, outcome, ends, described⟩ :=
    describe_ending driver qualifiedName parameters connected
  refine ⟨calls, ?_⟩
  rw [described]
  cases outcome with
  | error e =>
    have reported := report_ending_of_error driver qualifiedName (.driver e)
      { t with state := t.state.after calls }
    simp only [after_calls, after_after] at reported
    rw [Except.map, Except.mapError, reported]
    exact .of_error ends
  | ok reply =>
    have reported := report_ending_of_ok driver qualifiedName reply.description
      { t with state := t.state.after calls }
    simp only [after_calls, after_after] at reported
    rw [Except.map, Except.mapError, reported]
    exact .of_ok ends

/-- A session with a connection, of which nothing has been asked yet. -/
def connectedSession : Traced Session := ⟨⟨true, []⟩, []⟩

/-- A dry run fails, and so does the reset after it. -/
def failingTwice : Driver :=
  ({ batches := [.error ⟨"Error", "Invalid object name"⟩, .error ⟨"Error", "Link failure"⟩] } :
    Script).driver

/-- A dry run is answered with two columns, of which the second has no name. -/
def describingTwo : Driver :=
  ({ batches := [.ok { description := [
    .list [.text "Id", .text "int", .null, .int 4, .int 10, .int 0, .bool false],
    .list [.null, .text "decimal.Decimal", .null, .int 17, .text "19", .int 4, .int 1]] }] } :
    Script).driver

def totalsParameters : List Attribute :=
  [⟨"id", .plain .int32, false, "@id"⟩, ⟨"keys", .table "ids" (some "sales"), false, "@keys"⟩]

theorem describe_ends_scripted :
    connectedSession.state.connected = true ∧
    ((describe describingTwo "[dbo].[Totals]" totalsParameters).ending connectedSession).1 =
      .ok [⟨some "Id", .int, some 10, false⟩, ⟨none, .decimal, some 19, true⟩] ∧
    (∃ calls, DryRunEnds describingTwo "[dbo].[Totals]" totalsParameters connectedSession calls
      ((describe describingTwo "[dbo].[Totals]" totalsParameters).ending connectedSession).1
      ((describe describingTwo "[dbo].[Totals]" totalsParameters).ending connectedSession).2) ∧
    ((describe failingTwice "[dbo].[Broken]" []).ending connectedSession).1 =
      .error (.dryRun "[dbo].[Broken]" "Invalid object name") ∧
    ∃ calls, DryRunEnds failingTwice "[dbo].[Broken]" [] connectedSession calls
      ((describe failingTwice "[dbo].[Broken]" []).ending connectedSession).1
      ((describe failingTwice "[dbo].[Broken]" []).ending connectedSession).2 :=
  ⟨rfl, by rfl, describe_ends describingTwo "[dbo].[Totals]" totalsParameters connectedSession rfl,
    rfl, describe_ends failingTwice "[dbo].[Broken]" [] connectedSession rfl⟩

end Session

end SqlBindings.Catalog
