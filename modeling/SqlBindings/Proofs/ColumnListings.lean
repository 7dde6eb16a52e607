import Mathlib.Algebra.GroupWithZero.Nat
import SqlBindings.Proofs.Buckets
import SqlBindings.Proofs.CursorOutcomes
import SqlBindings.Proofs.Verdicts

namespace SqlBindings

namespace Catalog

open Run

namespace Row

abbrev Object := (String × String) × List Column

def Owned.key (row : Owned String) : String × String := (row.schema, row.owner)

/-- The object with the columns that some rows have for it. -/
def objectOf (rows : List (Owned String)) (key : String × String) : Object :=
  (key, (rows.filter (·.key == key)).map Owned.column)

/-- One more row. Its column joins the object it belongs to, or it is the first one of an object. -/
def addColumn (objects : List Object) (row : Owned String) : List Object :=
  if row.key ∈ objects.map Prod.fst then
    objects.map fun object =>
      if object.1 = row.key then (object.1, object.2 ++ [row.column]) else object
  else objects ++ [(row.key, [row.column])]

/-- The rows that objects with columns stand for. -/
def rowsOf (objects : List Object) : List (Owned String) :=
  objects.flatMap fun object => object.2.map fun column => ⟨object.1.1, object.1.2, column⟩

/-- Objects with the columns of a listing. -/
structure Grouped (rows : List (Owned String)) (objects : List Object) : Prop where
  distinct : (objects.map Prod.fst).Nodup
  mem_keys : ∀ key, key ∈ objects.map Prod.fst ↔ key ∈ rows.map Owned.key
  /-- Objects come in the order in which they first appear. -/
  ordered : (objects.map Prod.fst).Pairwise fun a b =>
    (rows.map Owned.key).idxOf a < (rows.map Owned.key).idxOf b
  /-- An object has the columns of its rows, in the order of the rows. -/
  columns : ∀ object ∈ objects, object = objectOf rows object.1
  /-- They are what comes of taking the rows one by one. -/
  stepwise : objects = rows.foldl addColumn []
  /-- No column is lost, and none is added or moved to another object. -/
  perm : (rowsOf objects).Perm rows
  length_sum : (objects.map fun object => object.2.length).sum = rows.length

section

variable {rows : List (Owned String)} {key : String × String}

theorem groupByOwner_eq (rows : List (Owned String)) :
    groupByOwner rows = (rows.map Owned.key).eraseDups.map (objectOf rows) :=
  rfl

theorem groupByOwner_keys (rows : List (Owned String)) :
    (groupByOwner rows).map Prod.fst = (rows.map Owned.key).eraseDups := by
  rw [groupByOwner_eq, List.map_map]
  exact List.map_id _

theorem mem_groupByOwner_keys :
    key ∈ (groupByOwner rows).map Prod.fst ↔ key ∈ rows.map Owned.key := by
  rw [groupByOwner_keys, List.mem_eraseDups]

theorem objectOf_eq_bucketOf (rows : List (Owned String)) (key : String × String) :
    objectOf rows key = bucketOf Owned.key (fun columns row => columns ++ [row.column]) [] rows key := by
  rw [objectOf, bucketOf, List.foldl_append_eq_append, List.nil_append, ← List.flatMap_def,
    List.map_eq_flatMap]

theorem groupByOwner_eq_foldl (rows : List (Owned String)) :
    groupByOwner rows = rows.foldl addColumn [] := by
  have step : addColumn = addTo Owned.key (fun columns row => columns ++ [row.column]) [] := rfl
  rw [step, foldl_addTo, groupByOwner_eq]
  refine List.map_congr_left ?_
  intro key _
  exact objectOf_eq_bucketOf rows key

theorem rowsOf_objectOf (rows : List (Owned String)) (key : String × String) :
    ((objectOf rows key).2.map fun column => (⟨key.1, key.2, column⟩ : Owned String)) =
      rows.filter (·.key == key) := by
  rw [objectOf, List.map_map]
  refine (List.map_congr_left ?_).trans (List.map_id _)
  intro row mem
  obtain rfl := beq_iff_eq.mp (List.mem_filter.mp mem).2
  rfl

theorem rowsOf_groupByOwner (rows : List (Owned String)) :
    (rowsOf (groupByOwner rows)).Perm rows := by
  have parts : rowsOf (groupByOwner rows) =
      (rows.map Owned.key).eraseDups.flatMap fun key => rows.filter (·.key == key) := by
    rw [rowsOf, groupByOwner_eq, List.flatMap_map]
    refine List.flatMap_congr ?_
    intro key _
    exact rowsOf_objectOf rows key
  rw [parts]
  refine flatMap_filter_perm (nodup_eraseDups _) ?_
  intro row mem
  exact List.mem_eraseDups.mpr (List.mem_map_of_mem mem)

theorem grouped_groupByOwner (rows : List (Owned String)) : Grouped rows (groupByOwner rows) where
  distinct := by
    rw [groupByOwner_keys]
    exact nodup_eraseDups _
  mem_keys := fun _ => mem_groupByOwner_keys
  ordered := by
    rw [groupByOwner_keys]
    exact pairwise_eraseDups _
  columns := by
    intro object mem
    obtain ⟨key, -, rfl⟩ := List.mem_map.mp mem
    rfl
  stepwise := groupByOwner_eq_foldl rows
  perm := rowsOf_groupByOwner rows
  length_sum := by
    have length := (rowsOf_groupByOwner rows).length_eq
    rw [rowsOf, List.length_flatMap] at length
    simpa using length

end

/-- A row says what there is to a column and names the object the column belongs to. -/
structure Lists (row : Datum) (o : Owned String) : Prop where
  schema : cell row 0 = .ok (.text o.schema)
  owner : cell row 1 = .ok (.text o.owner)
  name : cell row 2 = .ok (.text o.column.name)
  dataType : cell row 3 = .ok (.text o.column.dataType)
  /-- Anything can stand for the nullability. What counts is whether it is set. -/
  nullable : ∃ d, cell row 4 = .ok d ∧ d.isSet = o.column.nullable
  position : ∃ d, cell row 5 = .ok d ∧ Check.int d = .ok (.accepted o.column.position)

structure Listed {α : Type} (make : String → String → List Column → α) (rows : List Datum)
    (outcome : Except Failure (List α)) : Prop where
  /-- Rows that list columns give a record for each object. -/
  records : ∀ owned, List.Forall₂ Lists rows owned → ∃ objects, Grouped owned objects ∧
    outcome = .ok (objects.map fun object => make object.1.1 object.1.2 object.2)
  /-- No record is given if there is a row that lists no column. -/
  fails : ∀ row ∈ rows, (∀ o, ¬ Lists row o) → ∃ e, outcome = .error e

theorem column_eq_ok {name dataType nullable position : Datum} {c : Column} :
    column name dataType nullable position = .ok c ↔
      name = .text c.name ∧ dataType = .text c.dataType ∧ nullable.isSet = c.nullable ∧
        Check.int position = .ok (.accepted c.position) := by
  rw [column, Check.run_eq_ok]
  constructor
  · intro checked
    obtain ⟨_, named, rest⟩ := bind_eq_ok.mp checked
    obtain ⟨_, typed, rest⟩ := bind_eq_ok.mp rest
    obtain ⟨_, said, rest⟩ := bind_eq_ok.mp rest
    obtain ⟨_, placed, rest⟩ := bind_eq_ok.mp rest
    simp only [pure_eq_ok, Except.ok.injEq, Verdict.seq_eq_accepted, Verdict.map_eq_accepted]
      at rest
    obtain ⟨_, _, ⟨_, _, ⟨_, _, ⟨_, rfl, rfl⟩, rfl, rfl⟩, rfl, rfl⟩, rfl, rfl⟩ := rest
    refine ⟨Check.text_eq_accepted.mp (Check.of_required rfl named),
      Check.text_eq_accepted.mp (Check.of_required rfl typed), ?_, Check.of_required rfl placed⟩
    have same := Check.of_required rfl said
    cases same
    rfl
  · rintro ⟨rfl, rfl, said, placed⟩
    refine bind_eq_ok.mpr ⟨_, rfl, bind_eq_ok.mpr ⟨_, rfl, bind_eq_ok.mpr ⟨_, rfl, ?_⟩⟩⟩
    refine bind_eq_ok.mpr ⟨_, Check.required_eq_accepted rfl placed, ?_⟩
    rw [said]
    rfl

theorem withNames_eq_ok {kind : RecordKind} {row : Owned Datum} {o : Owned String} :
    withNames kind row = .ok o ↔ row = ⟨.text o.schema, .text o.owner, o.column⟩ := by
  constructor
  · intro named
    obtain ⟨_, schema, rest⟩ := bind_eq_ok.mp named
    obtain ⟨_, owner, rest⟩ := bind_eq_ok.mp rest
    simp only [Verdict.orReject_eq_ok, Verdict.seq_eq_accepted, Verdict.map_eq_accepted] at rest
    obtain ⟨_, _, ⟨_, rfl, rfl⟩, rfl, rfl⟩ := rest
    rw [← Check.text_eq_accepted.mp (Check.of_required rfl schema),
      ← Check.text_eq_accepted.mp (Check.of_required rfl owner)]
  · rintro rfl
    rfl

/-- Names that are texts can always serve as keys. -/
theorem ownedColumn_eq_ok {row : Datum} {o : Owned String} :
    ownedColumn row = .ok ⟨.text o.schema, .text o.owner, o.column⟩ ↔ Lists row o := by
  simp only [ownedColumn, bind_eq_ok, pure_eq_ok, Except.ok.injEq, Owned.mk.injEq]
  constructor
  · rintro ⟨_, schema, _, owner, _, -, _, -, _, name, _, dataType, nullable, set, position, at5, _,
      made, rfl, rfl, rfl⟩
    obtain ⟨rfl, rfl, said, placed⟩ := column_eq_ok.mp made
    exact ⟨schema, owner, name, dataType, ⟨nullable, set, said⟩, position, at5, placed⟩
  · rintro ⟨schema, owner, name, dataType, ⟨nullable, at4, said⟩, position, at5, placed⟩
    have made := column_eq_ok.mpr ⟨rfl, rfl, said, placed⟩
    exact ⟨_, schema, _, owner, (), rfl, (), rfl, _, name, _, dataType, nullable, at4, position, at5,
      _, made, rfl, rfl, rfl⟩

theorem objects_eq_ok {kind : RecordKind} {rows : List Datum} {objects : List Object} :
    Row.objects kind rows = .ok objects ↔
      ∃ owned, List.Forall₂ Lists rows owned ∧ groupByOwner owned = objects := by
  have each : ∀ row o, ownedColumn row >>= withNames kind = .ok o ↔ Lists row o := by
    intro row o
    simp only [bind_eq_ok, withNames_eq_ok, exists_eq_right, ownedColumn_eq_ok]
  have all : ∀ owned, (rows.mapM ownedColumn >>= fun columns => columns.mapM (withNames kind)) =
      .ok owned ↔ List.Forall₂ Lists rows owned := by
    intro owned
    simp only [mapM_bind_mapM_eq_ok, each]
  simp only [Row.objects, ← bind_assoc, ← all]
  rw [bind_eq_ok]
  simp

theorem listed_objects {α : Type} (make : String → String → List Column → α) (kind : RecordKind)
    (rows : List Datum) : Listed make rows ((Row.objects kind rows).map fun objects =>
      objects.map fun object => make object.1.1 object.1.2 object.2) where
  records := by
    intro owned each
    refine ⟨groupByOwner owned, grouped_groupByOwner owned, ?_⟩
    rw [objects_eq_ok.mpr ⟨owned, each, rfl⟩]
    rfl
  fails := by
    intro row mem unlisted
    cases read : Row.objects kind rows with
    | error e => exact ⟨e, rfl⟩
    | ok objects =>
      obtain ⟨owned, each, -⟩ := objects_eq_ok.mp read
      obtain ⟨o, -, lists⟩ := exists_of_forall₂ each.flip mem
      exact absurd lists (unlisted o)

end Row

namespace Session

section

variable {driver : Driver} {t : Traced Session}

theorem listing_outcome {α : Type} {sql what : String} {reply : Reply}
    (read : List Datum → Except Failure (List α)) (connected : t.state.connected = true)
    (answered : onCursor driver t.state.calls (.execute sql []) = .ok reply) :
    ((query driver sql >>= fun rows => Run.ofExcept (read rows) >>= fetched what).ending t).1 =
      read reply.rows := by
  rw [ending_bind, query_ending connected, answered]
  show ((Run.ofExcept (read reply.rows) >>= fetched what).ending _).1 = _
  rw [ending_bind, ending_ofExcept]
  cases read reply.rows <;> rfl

/-- On a connection, whatever rows the server sends, tables and table types are listed by object. -/
theorem listings_grouped (connected : t.state.connected = true) :
    (∀ reply, onCursor driver t.state.calls (.execute Query.tables []) = .ok reply →
      Row.Listed TableEntry.mk reply.rows ((tables driver).ending t).1) ∧
    ∀ reply, onCursor driver t.state.calls (.execute Query.tableTypes []) = .ok reply →
      Row.Listed TableTypeEntry.mk reply.rows ((tableTypes driver).ending t).1 := by
  constructor
  · intro reply answered
    have listed := Row.listed_objects TableEntry.mk .table reply.rows
    have read : ((tables driver).ending t).1 = Row.tables reply.rows :=
      listing_outcome Row.tables connected answered
    rw [read]
    exact listed
  · intro reply answered
    have listed := Row.listed_objects TableTypeEntry.mk .tableType reply.rows
    have read : ((tableTypes driver).ending t).1 = Row.tableTypes reply.rows :=
      listing_outcome Row.tableTypes connected answered
    rw [read]
    exact listed

end

def interleaved : List Datum :=
  [.list [.text "dbo", .text "Users", .text "Id", .text "int", .int 0, .int 1],
    .list [.text "sales", .text "Orders", .text "Id", .text "bigint", .null, .int 1],
    .list [.text "dbo", .text "Users", .text "Name", .text "nvarchar", .text "no", .int 2]]

/-- What the rows list. Whatever is set makes a column nullable. -/
def interleavedColumns : List (Row.Owned String) :=
  [⟨"dbo", "Users", "Id", "int", false, 1⟩, ⟨"sales", "Orders", "Id", "bigint", false, 1⟩,
    ⟨"dbo", "Users", "Name", "nvarchar", true, 2⟩]

/-- The column in between stays with its own object, which comes second as it does. -/
theorem listings_grouped_interleaved :
    let driver := Script.driver { batches := [.ok { rows := interleaved }] }
    let t : Traced Session := ⟨{ connected := true }, []⟩
    List.Forall₂ Row.Lists interleaved interleavedColumns ∧
      Row.Listed TableEntry.mk interleaved ((tables driver).ending t).1 ∧
      Row.Listed TableTypeEntry.mk interleaved ((tableTypes driver).ending t).1 ∧
      ((tables driver).ending t).1 = .ok [
        ⟨"dbo", "Users", [⟨"Id", "int", false, 1⟩, ⟨"Name", "nvarchar", true, 2⟩]⟩,
        ⟨"sales", "Orders", [⟨"Id", "bigint", false, 1⟩]⟩] := by
  intro driver t
  have both := @listings_grouped driver t rfl
  refine ⟨?_, both.1 _ rfl, both.2 _ rfl, by rfl⟩
  exact .cons ⟨rfl, rfl, rfl, rfl, ⟨_, rfl, rfl⟩, _, rfl, rfl⟩
    (.cons ⟨rfl, rfl, rfl, rfl, ⟨_, rfl, rfl⟩, _, rfl, rfl⟩
      (.cons ⟨rfl, rfl, rfl, rfl, ⟨_, rfl, rfl⟩, _, rfl, rfl⟩ .nil))

end Session

end Catalog

end SqlBindings
