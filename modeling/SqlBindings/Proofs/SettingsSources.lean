import SqlBindings.Proofs.Result
import SqlBindings.Proofs.Run
import SqlBindings.Settings

/-!
Settings have one source, the first one that is there. Nothing else has a part in them, also if that
source turns out to be missing or broken.
-/

namespace SqlBindings.Settings

open Run

structure Surroundings where
  environment : Environment
  files : Files.Tree
  /-- The file that is asked for. -/
  named : Option String

/-- A source with all that is read of it. -/
inductive FirstSource where
  /-- A file, and what is found at its path. -/
  | file (path : Files.Path) (found : Except Failure (Option Files.Entry))
  /-- The values of variables, of which one at least is set. -/
  | environment (connection server : Option String)
  | nothing

namespace Surroundings

variable (w : Surroundings) (catalog : String)

/-- The path of the file that is asked for. An empty name asks for none. -/
def named? : Option Files.Path := (w.named.filter (· != "")).map Files.Path.ofText

def kept : Files.Path := keptFile w.environment.home catalog

/-- What the variable for a setting gives. An empty one gives nothing. -/
def given? (key : String) : Option String :=
  (w.environment.values.lookup (variableName catalog key)).filter (· != "")

def load {σ : Type} : Run σ Settings := Settings.load w.environment w.files w.named catalog

end Surroundings

/-- Which source comes first. Each one requires that those in front of it are absent. -/
inductive First (w : Surroundings) (catalog : String) : FirstSource → Prop
  /-- A file that is asked for comes first, whether there is one or not. -/
  | named (path : Files.Path) (asked : w.named? = some path) :
      First w catalog (.file path (w.files.look path))
  | kept (unnamed : w.named? = none) (there : w.files.look (w.kept catalog) ≠ .ok none) :
      First w catalog (.file (w.kept catalog) (w.files.look (w.kept catalog)))
  | environment (unnamed : w.named? = none) (absent : w.files.look (w.kept catalog) = .ok none)
      (set : w.given? catalog connectionString ≠ none ∨ w.given? catalog server ≠ none) :
      First w catalog
        (.environment (w.given? catalog connectionString) (w.given? catalog server))
  | nothing (unnamed : w.named? = none) (absent : w.files.look (w.kept catalog) = .ok none)
      (noString : w.given? catalog connectionString = none)
      (noServer : w.given? catalog server = none) :
      First w catalog .nothing

namespace FirstSource

def values (connection server : Option String) : List (String × String) :=
  (connection.map (connectionString, ·)).toList ++ (server.map (Settings.server, ·)).toList

theorem values_ne_nil {connection server : Option String}
    (set : connection ≠ none ∨ server ≠ none) : values connection server ≠ [] := by
  intro unset
  obtain ⟨noString, noServer⟩ := List.append_eq_nil_iff.mp unset
  simp only [Option.toList_eq_nil_iff, Option.map_eq_none_iff] at noString noServer
  exact set.elim (absurd noString) (absurd noServer)

/-- The settings that a source holds on its own. A file has to be there and to be valid. -/
def settings : FirstSource → Except Failure Settings
  | file path found => do
    match ← found with
    | some (.file bytes) => ofEntries (← entriesOfBytes path.display bytes)
    | _ => throw (.settingsNotFound path.display)
  | environment connection server =>
    .ok ((values connection server).map fun (key, value) => (key, .text value))
  | nothing => .ok empty

def source : FirstSource → Except Failure Source
  | file path found => found.map (.file path)
  | environment connection server => .ok (.environment (values connection server))
  | nothing => .ok .nothing

end FirstSource

variable {w : Surroundings} {catalog : String} {s : FirstSource}

theorem existsUnique_first (w : Surroundings) (catalog : String) : ∃! s, First w catalog s := by
  -- what a case says of the sources in front of its own contradicts the other cases
  cases asked : w.named? with
  | some path =>
    refine ⟨_, .named path asked, fun s first => ?_⟩
    cases first <;> simp_all
  | none =>
    by_cases absent : w.files.look (w.kept catalog) = .ok none
    · by_cases unset : w.given? catalog connectionString = none ∧ w.given? catalog server = none
      · refine ⟨_, .nothing asked absent unset.1 unset.2, fun s first => ?_⟩
        cases first <;> simp_all
      · refine ⟨_, .environment asked absent (not_and_or.mp unset), fun s first => ?_⟩
        cases first <;> simp_all
    · refine ⟨_, .kept asked absent, fun s first => ?_⟩
      cases first <;> simp_all

theorem fromVariables_eq (w : Surroundings) (catalog : String) :
    fromVariables w.environment.values catalog =
      FirstSource.values (w.given? catalog connectionString) (w.given? catalog server) := by
  have each : fromVariables w.environment.values catalog =
      [connectionString, server].filterMap fun key => (w.given? catalog key).map (key, ·) :=
    rfl
  rw [each, FirstSource.values, List.filterMap_cons, List.filterMap_cons, List.filterMap_nil]
  cases w.given? catalog connectionString <;> cases w.given? catalog server <;> rfl

theorem source_eq_of_first (first : First w catalog s) :
    source w.environment w.files w.named catalog = s.source := by
  unfold source
  cases first with
  | named path asked =>
    obtain ⟨name, named, rfl⟩ := Option.map_eq_some_iff.mp asked
    rw [named]
    change (w.files.look (.ofText name) >>= _) = _
    cases w.files.look (.ofText name) <;> rfl
  | kept unnamed there =>
    rw [Option.map_eq_none_iff.mp unnamed]
    change (w.files.look (w.kept catalog) >>= _) = _
    rcases found : w.files.look (w.kept catalog) with e | _ | entry
    · rfl
    · exact absurd found there
    · rfl
  | environment unnamed absent set =>
    rw [Option.map_eq_none_iff.mp unnamed]
    change (w.files.look (w.kept catalog) >>= _) = _
    rw [absent, ok_bind, fromVariables_eq]
    obtain ⟨value, values, some⟩ := List.exists_cons_of_ne_nil (FirstSource.values_ne_nil set)
    rw [FirstSource.source, some]
    rfl
  | nothing unnamed absent noString noServer =>
    rw [Option.map_eq_none_iff.mp unnamed]
    change (w.files.look (w.kept catalog) >>= _) = _
    rw [absent, ok_bind, fromVariables_eq, noString, noServer]
    rfl

/-- Settings are loaded from the first source, which is all they depend on. -/
theorem load_eq_of_first {σ : Type} (first : First w catalog s) :
    (w.load catalog : Run σ Settings) = Run.ofExcept s.source >>= Source.read catalog := by
  rw [Surroundings.load, load, source_eq_of_first first]

theorem read_ending_of_file {σ : Type} (path : Files.Path) (bytes : List UInt8) (t : Traced σ) :
    ((Source.read catalog (.file path (some (.file bytes)))).ending t).1 =
        (entriesOfBytes path.display bytes >>= ofEntries) ∧
      ((Source.read catalog (.file path (some (.file bytes)))).ending t).2.state = t.state := by
  unfold Source.read
  rw [ending_bind, ending_ofExcept]
  cases entriesOfBytes path.display bytes with
  | error e => exact ⟨rfl, rfl⟩
  | ok entries => exact ⟨rfl, rfl⟩

/-- Loading fails, or gives the settings of the first source, and changes nothing. -/
theorem load_ending_of_first {σ : Type} (first : First w catalog s) (t : Traced σ) :
    ((w.load catalog).ending t).1 = s.settings ∧ ((w.load catalog).ending t).2.state = t.state := by
  rw [load_eq_of_first first, ending_bind, ending_ofExcept]
  match s with
  | .environment connection server => exact ⟨rfl, rfl⟩
  | .nothing => exact ⟨rfl, rfl⟩
  | .file path (.error e) => exact ⟨rfl, rfl⟩
  | .file path (.ok none) => exact ⟨rfl, rfl⟩
  | .file path (.ok (some .directory)) => exact ⟨rfl, rfl⟩
  | .file path (.ok (some (.file bytes))) => exact read_ending_of_file path bytes t

end SqlBindings.Settings
