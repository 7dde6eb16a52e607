import SqlBindings.CommandLine.Run
import SqlBindings.Proofs.FileTrees
import SqlBindings.Proofs.PackageFiles
import SqlBindings.Proofs.Run

/-!
A generation writes the files of its package one after another and stops at the first one that cannot
be written. What was written until then stays.
-/

namespace SqlBindings.CommandLine

open Run Files Files.Tree

variable {α β : Type}

/-- The run changes no file. -/
def KeepsFiles (run : Run World α) : Prop := ∀ t, (run.ending t).2.state.files = t.state.files

theorem KeepsFiles.bind {run : Run World α} {f : α → Run World β} (first : KeepsFiles run)
    (next : ∀ a, KeepsFiles (f a)) : KeepsFiles (run >>= f) := by
  intro t
  have before := first t
  rw [ending_bind]
  rcases ended : run.ending t with ⟨e | a, u⟩ <;> rw [ended] at before
  · exact before
  · exact (next a u).trans before

theorem keepsFiles_ofExcept (result : Except Failure α) :
    KeepsFiles (Run.ofExcept result : Run World α) :=
  fun _ => rfl

theorem keepsFiles_pure (a : α) : KeepsFiles (pure a) := fun _ => rfl

theorem keepsFiles_log (level : LogLevel) (source : LogSource) (message : String) :
    KeepsFiles (Run.log level source message) :=
  fun _ => rfl

theorem keepsFiles_onSession (run : Run Catalog.Session α) : KeepsFiles (World.onSession run) :=
  fun _ => rfl

theorem keepsFiles_read (catalog : String) (source : Settings.Source) :
    KeepsFiles (source.read catalog) := by
  unfold Settings.Source.read
  split
  · refine (keepsFiles_ofExcept _).bind fun _ => ?_
    exact .bind (keepsFiles_log _ _ _) fun _ => keepsFiles_ofExcept _
  · exact fun _ => rfl
  · exact .bind (keepsFiles_log _ _ _) fun _ => keepsFiles_pure _
  · exact .bind (keepsFiles_log _ _ _) fun _ => keepsFiles_pure _

namespace Generation

theorem keepsFiles_settings (g : Generation) (environment : Environment) :
    KeepsFiles (g.settings environment) := by
  refine KeepsFiles.bind (fun _ => rfl) fun t => ?_
  refine ((keepsFiles_ofExcept _).bind fun source => keepsFiles_read _ source).bind fun _ => ?_
  exact (keepsFiles_ofExcept _).bind fun _ => keepsFiles_pure _

/-- The bundles that a generation introspects. -/
def bundles (g : Generation) (environment : Environment) (driver : Catalog.Driver) :
    Run World (List Bundle) := do
  let settings ← g.settings environment
  World.onSession (Catalog.introspectDatabase driver settings g.catalog)

theorem keepsFiles_bundles (g : Generation) (environment : Environment) (driver : Catalog.Driver) :
    KeepsFiles (g.bundles environment driver) :=
  (g.keepsFiles_settings environment).bind fun _ => keepsFiles_onSession _

/-- A package is what is rendered from the bundles. -/
theorem package_eq (g : Generation) (environment : Environment) (driver : Catalog.Driver) :
    g.package environment driver =
      g.bundles environment driver >>= fun bundles => Run.ofExcept (Package.ofBundles bundles) := by
  rw [bundles, bind_assoc]
  rfl

/-- A file of a package, with its path in the directory that the package is written into. -/
def placed (directory : Path) (file : Package.File) : Path × List UInt8 :=
  (directory.join (.ofText file.1), Text.encodeUtf8 file.2)

theorem changeFiles_ending (change : Tree → Except Failure Tree) (t : Traced World) :
    (World.changeFiles change).ending t = match change t.state.files with
      | .ok files => (.ok (), { t with state := { t.state with files } })
      | .error e => (.error e, t) := by
  unfold World.changeFiles
  rw [ending_bind, ending_get]
  simp only
  rw [ending_bind, ending_ofExcept]
  cases change t.state.files <;> rfl

theorem writeFile_ending (directory : Path) (file : Package.File) (t : Traced World) :
    ∃ log, (writeFile directory file).ending t =
      match t.state.files.write (placed directory file).1 (placed directory file).2 with
        | .ok files => (.ok (), ⟨{ t.state with files }, log⟩)
        | .error e => (.error e, t) := by
  unfold writeFile placed
  simp only [ending_bind, changeFiles_ending]
  cases t.state.files.write (directory.join (.ofText file.1)) (Text.encodeUtf8 file.2) with
  | error e => exact ⟨[], rfl⟩
  | ok files => exact ⟨_, rfl⟩

/-- The files of a package are written in their order, up to the first one that cannot be written. -/
theorem writePackage_ending (directory : Path) (package : List Package.File) (t : Traced World) :
    ∃ written unwritten, package = written ++ unwritten ∧
      Writes t.state.files (written.map (placed directory))
        ((package.forM (writeFile directory)).ending t).2.state.files ∧
      match ((package.forM (writeFile directory)).ending t).1 with
        | .ok _ => unwritten = []
        | .error e => ∃ file rest, unwritten = file :: rest ∧
          ((package.forM (writeFile directory)).ending t).2.state.files.write
            (placed directory file).1 (placed directory file).2 = .error e := by
  induction package generalizing t with
  | nil => exact ⟨[], [], rfl, .nil _, rfl⟩
  | cons file package ih =>
    obtain ⟨log, first⟩ := writeFile_ending directory file t
    have step : (file :: package).forM (writeFile directory) =
        writeFile directory file >>= fun _ => package.forM (writeFile directory) :=
      rfl
    rw [step, ending_bind, first]
    cases written : t.state.files.write (placed directory file).1 (placed directory file).2 with
    | error e => exact ⟨[], file :: package, rfl, .nil _, file, package, rfl, written⟩
    | ok files =>
      obtain ⟨before, after, split, writes, rest⟩ := ih ⟨{ t.state with files }, log⟩
      exact ⟨file :: before, after, congrArg (file :: ·) split, .cons written writes, rest⟩

/-- How a generation into a directory can end, by what it has written. -/
inductive Delivery (introspected : Except Failure (List Bundle)) (directory : Path)
    (before : Tree) : Except Failure String → Tree → Prop
  /-- There is no package, or no directory to write it into. -/
  | nothing (e : Failure) (after : Tree) (unchanged : SameFiles before after)
      (missing : ∀ bundles package made, introspected = .ok bundles →
        Package.ofBundles bundles = .ok package → before.makeDirectories directory ≠ .ok made) :
      Delivery introspected directory before (.error e) after
  /-- One of the files cannot be written. Those in front of it have been. -/
  | interrupted (bundles : List Bundle) (made after : Tree) (written unwritten : List Package.File)
      (file : Package.File) (e : Failure) (known : introspected = .ok bundles)
      (rendered : Package.ofBundles bundles = .ok (written ++ file :: unwritten))
      (ready : before.makeDirectories directory = .ok made)
      (writes : Writes made (written.map (placed directory)) after)
      (fails : after.write (placed directory file).1 (placed directory file).2 = .error e) :
      Delivery introspected directory before (.error e) after
  /-- All files have been written. -/
  | whole (bundles : List Bundle) (made after : Tree) (package : List Package.File) (shown : String)
      (known : introspected = .ok bundles) (rendered : Package.ofBundles bundles = .ok package)
      (ready : before.makeDirectories directory = .ok made)
      (writes : Writes made (package.map (placed directory)) after) :
      Delivery introspected directory before (.ok shown) after

theorem deliver_ending {g : Generation} {path : String} (into : g.destination = .directory path)
    (environment : Environment) (driver : Catalog.Driver) (before : World) :
    Delivery ((g.bundles environment driver).start before).1 (.ofText path) before.files
      ((g.deliver environment driver).start before).1
      ((g.deliver environment driver).start before).2.state.files := by
  have unchanged := g.keepsFiles_bundles environment driver ⟨before, []⟩
  unfold deliver
  rw [start_eq_ending, start_eq_ending, package_eq, ending_bind, ending_bind]
  rcases introspected : (g.bundles environment driver).ending ⟨before, []⟩ with ⟨e | bundles, u⟩ <;>
    rw [introspected] at unchanged <;> simp only at unchanged ⊢
  · exact .nothing e _ (fun _ => by rw [unchanged]) fun _ _ _ ok => nomatch ok
  · rw [ending_ofExcept]
    cases rendered : Package.ofBundles bundles with
    | error e =>
      refine .nothing e _ (fun _ => by rw [unchanged]) fun _ _ _ same ok => ?_
      cases same
      cases rendered.symm.trans ok
    | ok package =>
      simp only [into, writeFiles, bind_assoc, ending_bind, changeFiles_ending, unchanged]
      cases ready : before.files.makeDirectories (.ofText path) with
      | error e =>
        refine .nothing e _ (fun _ => by rw [unchanged]) fun _ _ _ _ _ ok => ?_
        cases ready.symm.trans ok
      | ok made =>
        obtain ⟨written, unwritten, rfl, writes, rest⟩ :=
          writePackage_ending (.ofText path) package ⟨{ u.state with files := made }, u.log⟩
        simp only
        rcases ended : ((written ++ unwritten).forM (writeFile (.ofText path))).ending
          ⟨{ u.state with files := made }, u.log⟩ with ⟨e | _, v⟩ <;> rw [ended] at writes rest
        · obtain ⟨file, more, rfl, fails⟩ := rest
          exact .interrupted bundles made _ written more file e rfl rendered ready writes fails
        · obtain rfl : unwritten = [] := rest
          rw [List.append_nil] at rendered ⊢
          exact .whole bundles made _ written _ rfl rendered ready writes

end Generation

open Generation (placed Delivery)

/-- A run that fails has changed no file. One that succeeds has written the package of the bundles it
has introspected, each file to a place of its own, and no other file. -/
structure AllOrNothing (introspected : Except Failure (List Bundle)) (directory : Path)
    (before after : Tree) (status : Nat) : Prop where
  failed : status ≠ 0 → SameFiles before after
  succeeded : status = 0 → ∃ bundles package, introspected = .ok bundles ∧
    Package.ofBundles bundles = .ok package ∧
    Exactly before after (package.map (placed directory))

/-- The files can all be written, no two of them to one place. Or those in front of the first one that
cannot be written are there already. -/
inductive Deliverable (made : Tree) (files : List (Path × List UInt8)) : Prop
  | whole (after : Tree) (writes : Writes made files after) (apart : Apart made files)
  | alreadyThere (written unwritten : List (Path × List UInt8)) (file : Path × List UInt8)
      (after : Tree) (e : Failure) (split : files = written ++ file :: unwritten)
      (writes : Writes made written after) (fails : after.write file.1 file.2 = .error e)
      (there : ∀ f ∈ written, Stands after f → Stands made f)

theorem Deliverable.apart {made after : Tree} {files : List (Path × List UInt8)}
    (h : Deliverable made files) (writes : Writes made files after) : Apart made files := by
  cases h with
  | whole _ _ apart => exact apart
  | alreadyThere written unwritten file _ e split writes' fails =>
    subst split
    exact absurd fails (writes'.not_fails writes)

theorem Deliverable.there {made after : Tree} {written unwritten : List (Path × List UInt8)}
    {file : Path × List UInt8} {e : Failure} (h : Deliverable made (written ++ file :: unwritten))
    (writes : Writes made written after) (fails : after.write file.1 file.2 = .error e) :
    ∀ f ∈ written, Stands after f → Stands made f := by
  cases h with
  | whole _ writes' => exact absurd fails (writes.not_fails writes')
  | alreadyThere written' unwritten' file' _ e' split writes' fails' there =>
    obtain ⟨rfl, rfl⟩ := writes.unique_failure writes' fails fails' split
    exact there

/-- What a run owes to the files, it keeps exactly if the package can be delivered. -/
theorem Generation.Delivery.allOrNothing_iff {introspected : Except Failure (List Bundle)}
    {directory : Path} {before after : Tree} {outcome : Except Failure String}
    (h : Delivery introspected directory before outcome after) (verbose : Bool)
    (log : List LogEntry) :
    AllOrNothing introspected directory before after
        (Completion.ofOutcome verbose outcome log).status ↔
      ∀ bundles package made, introspected = .ok bundles → Package.ofBundles bundles = .ok package →
        before.makeDirectories directory = .ok made →
        Deliverable made (package.map (placed directory)) := by
  cases h with
  | nothing e _ unchanged missing =>
    constructor
    · intro _ bundles package made known rendered ready
      exact absurd ready (missing bundles package made known rendered)
    · exact fun _ => ⟨fun _ => unchanged, fun zero => nomatch zero⟩
  | interrupted bundles made _ written unwritten file e known rendered ready writes fails =>
    have ready' := sameFiles_makeDirectories ready
    subst known
    constructor
    · intro kept bundles' package' made' known' rendered' ready''
      cases known'
      cases rendered.symm.trans rendered'
      cases ready.symm.trans ready''
      have unchanged := ready'.symm.trans (kept.failed (Nat.succ_ne_zero 0))
      rw [List.map_append, List.map_cons]
      exact .alreadyThere _ _ _ _ e rfl writes fails (writes.sameFiles_iff.mp unchanged)
    · intro each
      have deliverable := each bundles _ made rfl rendered ready
      rw [List.map_append, List.map_cons] at deliverable
      refine ⟨fun _ => ready'.trans ?_, fun zero => nomatch zero⟩
      exact writes.sameFiles_iff.mpr (deliverable.there writes fails)
  | whole bundles made _ package shown known rendered ready writes =>
    have ready' := sameFiles_makeDirectories ready
    subst known
    constructor
    · intro kept bundles' package' made' known' rendered' ready''
      obtain ⟨_, _, same, same', exactly⟩ := kept.succeeded rfl
      cases known'
      cases same
      cases rendered.symm.trans rendered'
      cases rendered.symm.trans same'
      cases ready.symm.trans ready''
      exact .whole _ writes (writes.exactly_iff.mp (exactly.of_sameFiles ready'.symm))
    · intro each
      have deliverable := each bundles package made rfl rendered ready
      refine ⟨fun nonzero => absurd rfl nonzero, fun _ => ⟨bundles, package, rfl, rendered, ?_⟩⟩
      exact (writes.exactly_iff.mpr (deliverable.apart writes)).of_sameFiles ready'

/-- A file that cannot be written ends the run. What is written in front of it stays. -/
theorem Generation.Delivery.interrupted_eq {bundles : List Bundle} {directory : Path}
    {before made after tree : Tree} {outcome : Except Failure String}
    {written unwritten : List Package.File} {file : Package.File} {e : Failure}
    (h : Delivery (.ok bundles) directory before outcome after)
    (rendered : Package.ofBundles bundles = .ok (written ++ file :: unwritten))
    (ready : before.makeDirectories directory = .ok made)
    (writes : Writes made (written.map (placed directory)) tree)
    (fails : tree.write (placed directory file).1 (placed directory file).2 = .error e) :
    outcome = .error e ∧ after = tree := by
  cases h with
  | nothing _ _ _ missing => exact absurd ready (missing bundles _ made rfl rendered)
  | interrupted bundles' made' _ written' unwritten' file' e' known rendered' ready' writes'
      fails' =>
    cases known
    cases ready.symm.trans ready'
    have same := Except.ok.inj (rendered.symm.trans rendered')
    have split := congrArg (List.map (placed directory)) same
    simp only [List.map_append, List.map_cons] at split
    obtain ⟨sameWritten, rfl⟩ := writes.unique_failure writes' fails fails' split
    rw [sameWritten] at split
    rw [(List.cons.inj (List.append_cancel_left split)).1] at fails
    cases fails.symm.trans fails'
    exact ⟨rfl, rfl⟩
  | whole bundles' made' _ package shown known rendered' ready' writes' =>
    cases known
    cases ready.symm.trans ready'
    cases rendered.symm.trans rendered'
    rw [List.map_append, List.map_cons] at writes'
    exact absurd fails (writes.not_fails writes')

/-- Surroundings that name a connection. -/
def connectable : Environment :=
  ⟨.ofText "home", [("SQLSERVER_CONNECTION_STRING", "DSN=x")]⟩

/-- A server with one table type. -/
def keyServer : Catalog.Script where
  batches := [.ok { rows := [.list [.text "16.0"]] },
    .ok { rows := [.list [.text "dbo", .text "ids", .text "id", .text "int", .int 0, .int 1]] }]

def keyBundle : Bundle :=
  ⟨"dbo", [⟨"dbo", "ids", [⟨"id", .scalar .int32 none, false, "@id"⟩]⟩], [], [], []⟩

/-- What the bare command asks for. -/
def bare : Generation := ⟨"sqlserver", none, none, .directory "generated", false⟩

/-- The directory that a package is written into, with nothing in it. -/
def cleared : Tree := ⟨[(["generated"], .directory)]⟩

/-- A directory stands where the module is to be written. -/
def obstructed : Tree := cleared.set ["generated", "dbo.py"] .directory

/-- The file that makes a package has been written. -/
def begun (tree : Tree) : Tree :=
  tree.set ["generated", "__init__.py"] (.file (Text.encodeUtf8 Package.initFile.2))

theorem group_keyBundle : Bundle.group keyBundle.tableTypes [] [] [] = [keyBundle] := by
  have once : ["dbo"].eraseDups = ["dbo"] := rfl
  simp [Bundle.group, Bundle.sortOn, Bundle.schemas, Bundle.ofSchema, Bundle.make, keyBundle, once]

theorem introspect_keyServer : ∃ t,
    (Catalog.introspectDatabase keyServer.driver [("connection_string", .text "DSN=x")]
      "sqlserver").start {} = (.ok [keyBundle], t) := by
  rw [← group_keyBundle]
  exact ⟨_, rfl⟩

theorem bundles_keyServer {files : Tree}
    (nothingKept : files.look (Settings.keptFile connectable.home "sqlserver") = .ok none) :
    ((bare.bundles connectable keyServer.driver).start { files }).1 = .ok [keyBundle] := by
  have source : Settings.source connectable files none "sqlserver" =
      .ok (.environment [("connection_string", "DSN=x")]) := by
    simp only [Settings.source, Option.filter_none, nothingKept, ok_bind]
    rfl
  obtain ⟨t, introspected⟩ := introspect_keyServer
  unfold Generation.bundles Generation.settings Settings.load
  simp only [start_eq_ending, ending_bind, ending_get, bare]
  rw [source]
  exact congrArg Prod.fst introspected

theorem package_keyServer : ∃ text,
    Package.ofBundles [keyBundle] = .ok ([Package.initFile] ++ [("dbo.py", text)]) := by
  rw [Package.ofBundles, Bundle.sortOn, List.mergeSort_singleton]
  exact ⟨_, rfl⟩

theorem placed_initFile : placed (.ofText "generated") Package.initFile =
    (⟨.working, ["generated", "__init__.py"]⟩, Text.encodeUtf8 Package.initFile.2) := by
  have joined : (Path.ofText "generated").join (.ofText "__init__.py") =
      ⟨.working, ["generated", "__init__.py"]⟩ := by
    decide
  exact congrArg (·, _) joined

theorem placed_module (text : String) : placed (.ofText "generated") ("dbo.py", text) =
    (⟨.working, ["generated", "dbo.py"]⟩, Text.encodeUtf8 text) := by
  have joined : (Path.ofText "generated").join (.ofText "dbo.py") =
      ⟨.working, ["generated", "dbo.py"]⟩ := by
    decide
  exact congrArg (·, _) joined

theorem hasNull_module : hasNull ⟨.working, ["generated", "dbo.py"]⟩ = false :=
  hasNull_eq_false (by decide)

/-- The first file of a package is written, if no directory is in its way. -/
theorem write_initFile (tree : Tree)
    (leads : tree.place ⟨.working, ["generated", "__init__.py"]⟩ = .ok ["generated", "__init__.py"])
    (free : tree.find? ["generated", "__init__.py"] ≠ some .directory) :
    tree.write (placed (.ofText "generated") Package.initFile).1
      (placed (.ofText "generated") Package.initFile).2 = .ok (begun tree) := by
  rw [placed_initFile]
  exact write_eq_ok (hasNull_eq_false (by decide)) leads free

/-- A run that is to write into a directory writes all files or none exactly if the package, once it
is made, can be delivered. -/
theorem run_allOrNothing_iff {arguments : List String} {g : Generation} {path : String}
    (asked : Request.ofArguments arguments = .generate g) (into : g.destination = .directory path)
    (environment : Environment) (driver : Catalog.Driver) (before : World) :
    AllOrNothing ((g.bundles environment driver).start before).1 (.ofText path) before.files
        (run arguments environment driver before).2.files
        (run arguments environment driver before).1.status ↔
      ∀ bundles package made, ((g.bundles environment driver).start before).1 = .ok bundles →
        Package.ofBundles bundles = .ok package →
        before.files.makeDirectories (.ofText path) = .ok made →
        Deliverable made (package.map (placed (.ofText path))) := by
  have delivery := Generation.deliver_ending into environment driver before
  unfold run
  rw [asked]
  exact delivery.allOrNothing_iff g.verbose _

/-- Nothing is in the way of the package, and the run writes all of it. -/
theorem run_allOrNothing_iff_cleared :
    Request.ofArguments ["generate"] = .generate bare ∧ bare.destination = .directory "generated" ∧
      AllOrNothing (.ok [keyBundle]) (.ofText "generated") cleared
        (run ["generate"] connectable keyServer.driver { files := cleared }).2.files
        (run ["generate"] connectable keyServer.driver { files := cleared }).1.status := by
  have nothingKept : cleared.look (Settings.keptFile connectable.home "sqlserver") = .ok none := by
    rw [look, hasNull_eq_false (by decide)]
    decide +kernel
  have introspected := bundles_keyServer nothingKept
  refine ⟨rfl, rfl, ?_⟩
  rw [← introspected]
  refine (run_allOrNothing_iff rfl rfl connectable keyServer.driver { files := cleared }).mpr ?_
  intro bundles package made known rendered ready
  obtain rfl : [keyBundle] = bundles := Except.ok.inj (introspected.symm.trans known)
  obtain ⟨text, rendered'⟩ := package_keyServer
  obtain rfl := Except.ok.inj (rendered'.symm.trans rendered)
  have ready' : cleared.makeDirectories (.ofText "generated") = .ok cleared := by
    rw [makeDirectories, hasNull_eq_false (by decide)]
    rfl
  obtain rfl := Except.ok.inj (ready'.symm.trans ready)
  have leads : (begun cleared).place ⟨.working, ["generated", "dbo.py"]⟩ =
      .ok ["generated", "dbo.py"] := by
    decide +kernel
  have wrote := write_initFile cleared (by decide +kernel) (by decide +kernel)
  have wroteModule : ∃ after, (begun cleared).write
      (placed (.ofText "generated") ("dbo.py", text)).1
      (placed (.ofText "generated") ("dbo.py", text)).2 = .ok after := by
    rw [placed_module]
    exact ⟨_, write_eq_ok hasNull_module leads (by decide +kernel)⟩
  obtain ⟨after, wroteModule⟩ := wroteModule
  refine .whole after (.cons wrote (.cons wroteModule (.nil _))) (List.pairwise_pair.mpr ?_)
  rw [placed_initFile, placed_module]
  show ¬ cleared.place ⟨.working, ["generated", "__init__.py"]⟩ =
    cleared.place ⟨.working, ["generated", "dbo.py"]⟩
  decide +kernel

/-- The module cannot be written, so the run fails, but the file in front of it stays. -/
theorem run_interrupted :
    (run ["generate"] connectable keyServer.driver { files := obstructed }).1.status = 1 ∧
      obstructed.file? ["generated", "__init__.py"] = none ∧
      (run ["generate"] connectable keyServer.driver { files := obstructed }).2.files.file?
          ["generated", "__init__.py"] =
        some (Text.encodeUtf8 "# This code is auto-generated\n") := by
  have nothingKept :
      obstructed.look (Settings.keptFile connectable.home "sqlserver") = .ok none := by
    rw [look, hasNull_eq_false (by decide)]
    decide +kernel
  have ready : obstructed.makeDirectories (.ofText "generated") = .ok obstructed := by
    rw [makeDirectories, hasNull_eq_false (by decide)]
    rfl
  have wrote := write_initFile obstructed (by decide +kernel) (by decide +kernel)
  obtain ⟨text, rendered⟩ := package_keyServer
  have fails : (begun obstructed).write (placed (.ofText "generated") ("dbo.py", text)).1
      (placed (.ofText "generated") ("dbo.py", text)).2 =
        .error (.file .isDirectory (placed (.ofText "generated") ("dbo.py", text)).1.display) := by
    have leads : (begun obstructed).place ⟨.working, ["generated", "dbo.py"]⟩ =
        .ok ["generated", "dbo.py"] := by
      decide +kernel
    rw [placed_module]
    exact write_eq_isDirectory hasNull_module leads (by decide +kernel)
  have delivery := Generation.deliver_ending (g := bare) rfl connectable keyServer.driver
    { files := obstructed }
  rw [bundles_keyServer nothingKept] at delivery
  obtain ⟨failed, stays⟩ := delivery.interrupted_eq rendered ready (.cons wrote (.nil _)) fails
  have asked : Request.ofArguments ["generate"] = .generate bare := rfl
  unfold run
  rw [asked]
  simp only [Request.run, stays]
  exact ⟨by rw [failed]; rfl, rfl, rfl⟩

end SqlBindings.CommandLine
