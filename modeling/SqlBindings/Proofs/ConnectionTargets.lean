import SqlBindings.Proofs.Delivery
import SqlBindings.Proofs.Disconnection
import SqlBindings.Proofs.SettingsSources

/-!
# The server that a run connects to

A run connects once at most, to the server that its settings name. What it asks for itself comes
before what is configured, and nothing but the first source of settings has a say in it.

* `introspectDatabase_connects`: an introspection connects to the target of its settings;
* `connects_run`: so does a run of the program, if its settings are loaded and valid;
* `settings_takeEffect`: what this means for the source of the settings and for the server.
-/

namespace SqlBindings

open Run Introspection

namespace Catalog

/-- The targets of the calls that open connections. -/
def connects (calls : List Call) : List Datum :=
  calls.filterMap fun
    | .connect target => some target
    | _ => none

theorem connects_append (calls more : List Call) :
    connects (calls ++ more) = connects calls ++ connects more :=
  List.filterMap_append

theorem connects_ofCursor {calls : List Call} (h : ∀ call ∈ calls, call.OfCursor) :
    connects calls = [] := by
  refine List.filterMap_eq_nil_iff.mpr fun call mem => ?_
  cases call with
  | connect target => exact (h _ mem).elim
  | _ => rfl

/-- Once there is a connection, no other one is opened. -/
theorem introspect_connects (driver : Driver) {t : Traced Session}
    (connected : t.state.connected = true) :
    connects (((introspect (Session.source driver)).followedAlwaysBy
        (Session.close driver)).ending t).2.state.calls = connects t.state.calls := by
  obtain ⟨calls, dialogue, state, _⟩ := introspect_converses driver t
  have still : ((introspect (Session.source driver)).ending t).2.state.connected = true := by
    rw [state]
    exact connected
  rw [ending_followedAlwaysBy, Session.close_ending driver still]
  simp only [Session.closed]
  rw [state, Session.after, connects_append, connects_append, connects_ofCursor dialogue.ofCursor,
    List.append_nil]
  exact List.append_nil _

/-- A target needs a connection string, and is that string with its server replaced. -/
theorem Session.target_eq_ok {settings : List (String × Datum)} {target : Datum} :
    Session.target settings = .ok target ↔ settings.lookup "connection_string" ≠ none ∧
      Sql.overrideServer (Datum.get "connection_string" settings) (Datum.get "server" settings) =
        .ok target := by
  unfold Session.target Datum.get
  cases settings.lookup "connection_string" <;> simp

/-- Whatever the driver answers, an introspection tries one connection, if its target is known. -/
theorem introspectDatabase_connects (driver : Driver) (settings : List (String × Datum))
    (catalogName : String) (t : Traced Session) :
    connects ((introspectDatabase driver settings catalogName).ending t).2.state.calls =
      connects t.state.calls ++ (target settings catalogName).toOption.toList := by
  unfold introspectDatabase target
  rw [ending_bind, ending_ofExcept]
  cases CatalogKind.ofName catalogName with
  | error e => exact (List.append_nil _).symm
  | ok kind =>
    cases kind
    simp only [ok_bind, ending_bind, Session.connect_ending]
    cases Session.target settings with
    | error e => exact (List.append_nil _).symm
    | ok server =>
      simp only
      cases driver t.state.calls (.connect server) with
      | error e => exact connects_append _ _
      | ok reply =>
        simp only
        rw [introspect_connects driver rfl]
        exact connects_append _ _

end Catalog

namespace CommandLine

open Catalog

/-- The run makes no calls. -/
def KeepsSession {α : Type} (run : Run World α) : Prop :=
  ∀ t, (run.ending t).2.state.session = t.state.session

section

variable {α β : Type}

theorem KeepsSession.bind {run : Run World α} {f : α → Run World β} (first : KeepsSession run)
    (next : ∀ a, KeepsSession (f a)) : KeepsSession (run >>= f) := by
  intro t
  have before := first t
  rw [ending_bind]
  rcases ended : run.ending t with ⟨e | a, u⟩ <;> rw [ended] at before
  · exact before
  · exact (next a u).trans before

/-- What makes no calls can be left out. -/
theorem KeepsSession.after {f : α → Run World β} (next : ∀ a, KeepsSession (f a))
    (run : Run World α) (t : Traced World) :
    ((run >>= f).ending t).2.state.session = (run.ending t).2.state.session := by
  rw [ending_bind]
  rcases run.ending t with ⟨e | a, u⟩
  · rfl
  · exact next a u

theorem keepsSession_changeFiles (change : Files.Tree → Except Failure Files.Tree) :
    KeepsSession (World.changeFiles change) := by
  intro t
  rw [Generation.changeFiles_ending]
  cases change t.state.files <;> rfl

end

namespace Generation

theorem keepsSession_writeFiles (directory : Files.Path) (package : List Package.File) :
    KeepsSession (writeFiles directory package) := by
  refine (keepsSession_changeFiles _).bind fun _ => ?_
  induction package with
  | nil => exact fun _ => rfl
  | cons file package ih =>
    have write : KeepsSession (writeFile directory file) :=
      (keepsSession_changeFiles _).bind fun _ _ => rfl
    exact write.bind fun _ => ih

/-- A delivery makes the calls of its introspection. -/
theorem deliver_session (g : Generation) (environment : Environment) (driver : Driver)
    (t : Traced World) :
    ((g.deliver environment driver).ending t).2.state.session =
      ((g.bundles environment driver).ending t).2.state.session := by
  unfold deliver
  rw [KeepsSession.after, package_eq, KeepsSession.after]
  · exact fun _ _ => rfl
  · intro package
    cases g.destination with
    | standardOutput => exact fun _ => rfl
    | directory path => exact (keepsSession_writeFiles _ _).bind fun _ _ => rfl

/-- The settings of a generation as they are loaded. -/
def loaded (g : Generation) (environment : Environment) (files : Files.Tree) :
    Except Failure Settings :=
  ((Settings.load environment files g.connFile g.catalog).start { files : World }).1

/-- The server to connect to: the one that is asked for, else the one that is configured. -/
def serverFor (g : Generation) (loaded : Settings) : Datum :=
  match g.server.filter (· != "") with
  | some server => .text server
  | none => Datum.get Settings.server loaded

/-- The target of a generation. Its settings are loaded and have to be valid. -/
def target (g : Generation) (environment : Environment) (files : Files.Tree) :
    Except Failure Datum := do
  let settings := g.overrideServer (← g.loaded environment files)
  Settings.validate environment.home g.catalog settings
  Catalog.target settings g.catalog

theorem load_ending (g : Generation) (environment : Environment) (files : Files.Tree)
    (t : Traced World) : ∃ log, (Settings.load environment files g.connFile g.catalog).ending t =
      (g.loaded environment files, ⟨t.state, log⟩) := by
  -- from wherever a load starts, its result is that of the first source
  obtain ⟨s, first, -⟩ := Settings.existsUnique_first ⟨environment, files, g.connFile⟩ g.catalog
  obtain ⟨result, state⟩ := Settings.load_ending_of_first first t
  obtain ⟨alone, -⟩ := Settings.load_ending_of_first first ⟨{ files : World }, []⟩
  rcases ended : (Settings.load environment files g.connFile g.catalog).ending t with ⟨_, u, log⟩
  obtain rfl : u = t.state := by rw [← state, Settings.Surroundings.load, ended]
  refine ⟨log, congrArg (·, _) ?_⟩
  rw [loaded, start_eq_ending]
  refine .trans ?_ (result.trans alone.symm)
  rw [Settings.Surroundings.load, ended]

theorem settings_ending (g : Generation) (environment : Environment) (t : Traced World) :
    ∃ log, (g.settings environment).ending t =
      (do
        let settings := g.overrideServer (← g.loaded environment t.state.files)
        Settings.validate environment.home g.catalog settings
        return settings, ⟨t.state, log⟩) := by
  obtain ⟨log, loads⟩ := g.load_ending environment t.state.files t
  unfold settings
  rw [ending_bind, ending_get]
  simp only [ending_bind, loads]
  refine ⟨log, ?_⟩
  cases g.loaded environment t.state.files with
  | error e => rfl
  | ok loaded =>
    simp only [ending_ofExcept, ok_bind]
    cases Settings.validate environment.home g.catalog (g.overrideServer loaded) <;> rfl

theorem connects_bundles (g : Generation) (environment : Environment) (driver : Driver)
    (t : Traced World) :
    connects ((g.bundles environment driver).ending t).2.state.session.calls =
      connects t.state.session.calls ++ (g.target environment t.state.files).toOption.toList := by
  obtain ⟨log, ended⟩ := g.settings_ending environment t
  unfold bundles target
  rw [ending_bind, ended]
  cases g.loaded environment t.state.files with
  | error e => exact (List.append_nil _).symm
  | ok loaded =>
    simp only [ok_bind]
    cases Settings.validate environment.home g.catalog (g.overrideServer loaded) with
    | error e => exact (List.append_nil _).symm
    | ok _ => exact introspectDatabase_connects driver _ g.catalog ⟨t.state.session, log⟩

end Generation

/-- The target of a request. Only generations have one. -/
def Request.target (environment : Environment) (files : Files.Tree) : Request → Option Datum
  | .generate g => (g.target environment files).toOption
  | _ => none

theorem Request.target_eq_some {request : Request} {environment : Environment}
    {files : Files.Tree} {target : Datum} (h : request.target environment files = some target) :
    ∃ g, request = .generate g ∧ g.target environment files = .ok target := by
  cases request with
  | generate g =>
    refine ⟨g, rfl, ?_⟩
    change (g.target environment files).toOption = some target at h
    cases known : g.target environment files with
    | error e =>
      rw [known] at h
      cases h
    | ok other =>
      rw [known] at h
      exact congrArg _ (Option.some.inj h)
  | _ => cases h

/-- Whatever the driver answers and whatever is generated, a run tries to connect to its target and to
nothing else. -/
theorem connects_run (arguments : List String) (environment : Environment) (driver : Driver)
    (before : World) :
    connects (run arguments environment driver before).2.session.calls =
      connects before.session.calls ++
        ((Request.ofArguments arguments).target environment before.files).toList := by
  unfold run
  cases Request.ofArguments arguments with
  | generate g =>
    have session := g.deliver_session environment driver ⟨before, []⟩
    have calls := congrArg (fun s => connects s.calls) session
    exact calls.trans (g.connects_bundles environment driver ⟨before, []⟩)
  | help topic => exact (List.append_nil _).symm
  | nothing => exact (List.append_nil _).symm
  | misuse topic fault => exact (List.append_nil _).symm

namespace Generation

theorem get_connectionString_overrideServer (g : Generation) (loaded : Settings) :
    Datum.get Settings.connectionString (g.overrideServer loaded) =
      Datum.get Settings.connectionString loaded := by
  unfold overrideServer
  cases g.server.filter (· != "") with
  | none => rfl
  | some server => exact Datum.get_put_of_ne _ _ _ _ (by decide)

theorem get_server_overrideServer (g : Generation) (loaded : Settings) :
    Datum.get Settings.server (g.overrideServer loaded) = g.serverFor loaded := by
  unfold overrideServer serverFor
  cases g.server.filter (· != "") with
  | none => rfl
  | some server => exact Datum.get_put_self _ _ _

/-- A target needs a connection string that is not empty, and takes its server from the arguments
before it takes it from the settings. -/
theorem target_eq_ok {g : Generation} {environment : Environment} {files : Files.Tree}
    {target : Datum} (h : g.target environment files = .ok target) :
    ∃ loaded, g.loaded environment files = .ok loaded ∧
      (Datum.get Settings.connectionString loaded).isSet = true ∧
      Sql.overrideServer (Datum.get Settings.connectionString loaded) (g.serverFor loaded) =
        .ok target := by
  obtain ⟨loaded, loads, h⟩ := bind_eq_ok.mp h
  obtain ⟨valid, h⟩ := check_bind_eq_ok.mp h
  obtain ⟨_, _, named⟩ := bind_eq_ok.mp h
  refine ⟨loaded, loads, ?_, ?_⟩
  · rw [← g.get_connectionString_overrideServer]
    unfold Settings.validate at valid
    split at valid
    · assumption
    · cases valid
  · rw [← g.get_connectionString_overrideServer, ← g.get_server_overrideServer]
    exact (Session.target_eq_ok.mp named).2

end Generation

/-- If the settings are texts, the target is the connection string with its server replaced. -/
theorem overrideServer_text (s : String) (server : Option String) :
    Sql.overrideServer (.text s) (Datum.ofText? server) = .ok (.text (Sql.withServer s server)) := by
  cases server with
  | none => rfl
  | some server =>
    by_cases empty : server = ""
    · subst empty
      rfl
    · have set : (Datum.ofText? (some server)).isSet = true := by
        simp [Datum.ofText?, Datum.isSet, empty]
      rw [Sql.overrideServer, if_pos set]
      rfl

/-- Settings that are texts name a target, if the connection string is not empty. -/
theorem Generation.target_of_text {g : Generation} {environment : Environment} {files : Files.Tree}
    {kind : CatalogKind} {loaded : Settings} {s : String} {server : Option String}
    (known : CatalogKind.ofName g.catalog = .ok kind)
    (loads : g.loaded environment files = .ok loaded)
    (text : Datum.get Settings.connectionString loaded = .text s) (nonempty : s ≠ "")
    (named : g.serverFor loaded = Datum.ofText? server) :
    g.target environment files = .ok (.text (Sql.withServer s server)) := by
  have set : (Datum.text s).isSet = true := by simp [Datum.isSet, nonempty]
  have valid : Settings.validate environment.home g.catalog (g.overrideServer loaded) = .ok () := by
    rw [Settings.validate, get_connectionString_overrideServer, text, if_pos set]
  have string := g.get_connectionString_overrideServer loaded
  rw [text] at string
  have present : (g.overrideServer loaded).lookup "connection_string" ≠ none := by
    intro absent
    unfold Datum.get Settings.connectionString at string
    rw [absent] at string
    cases string
  have overridden : Session.target (g.overrideServer loaded) =
      .ok (.text (Sql.withServer s server)) := by
    refine Session.target_eq_ok.mpr ⟨present, ?_⟩
    rw [← Settings.connectionString, ← Settings.server, string, get_server_overrideServer, named,
      overrideServer_text]
  rw [target, loads, ok_bind]
  simp only [valid, ok_bind, Catalog.target, known, overridden]

/-- Settings are those of the first source, which is there always, and depend on nothing else. -/
structure FromFirstSource (w : Settings.Surroundings) (catalog : String) : Prop where
  unique : ∃! s, Settings.First w catalog s
  alone : ∀ s, Settings.First w catalog s →
    ∀ t : Traced World, ((w.load catalog).ending t).1 = s.settings
  agree : ∀ v s, Settings.First w catalog s → Settings.First v catalog s →
    (w.load catalog : Run World Settings) = v.load catalog

/-- One server is connected to at most, and only by a generation whose settings have a connection
string. It is the one that is asked for before the one that is configured. If the settings are texts,
it is connected to. -/
structure ConnectsAsAsked (request : Request) (environment : Environment) (files : Files.Tree)
    (calls : List Call) : Prop where
  once : (connects calls).length ≤ 1
  asked : ∀ target ∈ connects calls, ∃ g loaded, request = .generate g ∧
    g.loaded environment files = .ok loaded ∧
    (Datum.get Settings.connectionString loaded).isSet = true ∧
    ∀ s server, Datum.get Settings.connectionString loaded = .text s →
      g.serverFor loaded = Datum.ofText? server → target = .text (Sql.withServer s server)
  reached : ∀ g kind loaded s server, request = .generate g →
    CatalogKind.ofName g.catalog = .ok kind → g.loaded environment files = .ok loaded →
    Datum.get Settings.connectionString loaded = .text s → s ≠ "" →
    g.serverFor loaded = Datum.ofText? server →
    connects calls = [.text (Sql.withServer s server)]

theorem fromFirstSource (w : Settings.Surroundings) (catalog : String) :
    FromFirstSource w catalog where
  unique := Settings.existsUnique_first w catalog
  alone _ first t := (Settings.load_ending_of_first first t).1
  agree _ _ first also :=
    (Settings.load_eq_of_first first).trans (Settings.load_eq_of_first also).symm

theorem run_connectsAsAsked (arguments : List String) (environment : Environment) (driver : Driver)
    (files : Files.Tree) :
    ConnectsAsAsked (Request.ofArguments arguments) environment files
      (run arguments environment driver { files }).2.session.calls := by
  have calls : connects (run arguments environment driver { files }).2.session.calls =
      ((Request.ofArguments arguments).target environment files).toList :=
    connects_run arguments environment driver { files }
  constructor
  case once =>
    rw [calls]
    exact Option.length_toList_le
  case asked =>
    intro target mem
    rw [calls, Option.mem_toList] at mem
    obtain ⟨g, asked, known⟩ := Request.target_eq_some mem
    obtain ⟨loaded, loads, set, overridden⟩ := Generation.target_eq_ok known
    refine ⟨g, loaded, asked, loads, set, fun s server text named => ?_⟩
    rw [text, named, overrideServer_text] at overridden
    exact (Except.ok.inj overridden).symm
  case reached =>
    intro g kind loaded s server asked known loads text nonempty named
    rw [calls, asked, Request.target, Generation.target_of_text known loads text nonempty named]
    rfl

/-- Which settings take effect. -/
theorem settings_takeEffect :
    (∀ (w : Settings.Surroundings) (catalog : String), FromFirstSource w catalog) ∧
      ∀ (arguments : List String) (environment : Environment) (driver : Driver)
        (files : Files.Tree),
        ConnectsAsAsked (Request.ofArguments arguments) environment files
          (run arguments environment driver { files }).2.session.calls :=
  ⟨fromFirstSource, run_connectsAsAsked⟩

/-- A directory stands where settings would be kept. -/
def misplaced : Files.Tree :=
  ⟨[(["home"], .directory), (["home", ".schemagen"], .directory),
    (["home", ".schemagen", "sqlserver.yaml"], .directory)]⟩

/-- Settings are kept, with keys in a spelling of their own. -/
def keptBytes : List UInt8 := Text.encodeUtf8 "Server: db\nconnection_string: DSN=kept\n"

def keeping : Files.Tree :=
  ⟨[(["home"], .directory), (["home", ".schemagen"], .directory),
    (["home", ".schemagen", "sqlserver.yaml"], .file keptBytes)]⟩

/-- A generation that asks for a server. -/
def redirected : Generation := { bare with server := some "db" }

theorem look_cleared : cleared.look (Settings.keptFile connectable.home "sqlserver") = .ok none := by
  rw [Files.Tree.look, Files.Tree.hasNull_eq_false (by decide)]
  decide +kernel

theorem first_kept (files : Files.Tree) (entry : Files.Entry)
    (there : files.entry (Settings.keptFile connectable.home "sqlserver") = .ok (some entry)) :
    Settings.First ⟨connectable, files, none⟩ "sqlserver"
      (.file (Settings.keptFile connectable.home "sqlserver") (.ok (some entry))) := by
  have found : files.look (Settings.keptFile connectable.home "sqlserver") = .ok (some entry) := by
    rw [Files.Tree.look, Files.Tree.hasNull_eq_false (by decide), there]
    rfl
  rw [← found]
  refine .kept rfl ?_
  rw [Settings.Surroundings.kept, found]
  intro absent
  cases absent

/-- Settings as texts, if all of their values are. -/
def texts? : Settings → Option (List (String × String))
  | [] => some []
  | (key, .text value) :: rest => (texts? rest).map ((key, value) :: ·)
  | _ => none

theorem eq_of_texts?_eq_some {settings : Settings} {texts : List (String × String)}
    (shown : texts? settings = some texts) :
    settings = texts.map fun (key, value) => (key, .text value) := by
  fun_induction texts? settings generalizing texts with
  | case1 =>
    cases shown
    rfl
  | case2 key value rest ih =>
    obtain ⟨others, known, rfl⟩ := Option.map_eq_some_iff.mp shown
    rw [ih known]
    rfl
  | case3 => cases shown

theorem settings_keptBytes :
    (Settings.entriesOfBytes "home/.schemagen/sqlserver.yaml" keptBytes >>= Settings.ofEntries) =
      .ok [("server", .text "db"), ("connection_string", .text "DSN=kept")] := by
  have shown :
      (Settings.entriesOfBytes "home/.schemagen/sqlserver.yaml" keptBytes >>=
        Settings.ofEntries).toOption.bind texts? =
          some [("server", "db"), ("connection_string", "DSN=kept")] := by
    decide +kernel
  generalize Settings.entriesOfBytes _ keptBytes >>= Settings.ofEntries = loaded at shown ⊢
  cases loaded with
  | error e => cases shown
  | ok settings => exact congrArg _ (eq_of_texts?_eq_some shown)

/-- What is kept counts, and if it cannot be read, the variables that are set do not stand in for it.
Without it they count, but for the server that is asked for. -/
theorem settings_takeEffect_misplaced :
    bare.loaded connectable misplaced =
        .error (.settingsNotFound "home/.schemagen/sqlserver.yaml") ∧
      ConnectsAsAsked (.generate bare) connectable misplaced
        (run ["generate"] connectable keyServer.driver { files := misplaced }).2.session.calls ∧
      connects (run ["generate", "--server", "db"] connectable keyServer.driver
        { files := cleared }).2.session.calls = [.text "DSN=x;SERVER=db"] ∧
      bare.loaded connectable keeping =
        .ok [("server", .text "db"), ("connection_string", .text "DSN=kept")] ∧
      connects (run ["generate"] connectable keyServer.driver
        { files := keeping }).2.session.calls = [.text "DSN=kept;SERVER=db"] := by
  have first := first_kept misplaced .directory (by decide +kernel)
  have second : Settings.First ⟨connectable, cleared, none⟩ "sqlserver" _ :=
    .environment rfl look_cleared (.inl (Option.some_ne_none "DSN=x"))
  have third := first_kept keeping (.file keptBytes) (by decide +kernel)
  have broken := (settings_takeEffect.1 _ _).alone _ first ⟨{ files := misplaced }, []⟩
  have loads := (settings_takeEffect.1 _ _).alone _ second ⟨{ files := cleared }, []⟩
  have kept := (settings_takeEffect.1 _ _).alone _ third ⟨{ files := keeping }, []⟩
  have loaded : bare.loaded connectable keeping =
      .ok [("server", .text "db"), ("connection_string", .text "DSN=kept")] :=
    kept.trans settings_keptBytes
  refine ⟨broken, settings_takeEffect.2 ["generate"] connectable keyServer.driver misplaced, ?_,
    loaded, ?_⟩
  · have asked : Request.ofArguments ["generate", "--server", "db"] = .generate redirected := by
      decide +kernel
    have server : Sql.withServer "DSN=x" (some "db") = "DSN=x;SERVER=db" := by decide +kernel
    rw [← server]
    exact (settings_takeEffect.2 ["generate", "--server", "db"] connectable keyServer.driver
      cleared).reached redirected .sqlServer _ "DSN=x" (some "db") asked rfl loads rfl (by decide) rfl
  · have asked : Request.ofArguments ["generate"] = .generate bare := rfl
    have server : Sql.withServer "DSN=kept" (some "db") = "DSN=kept;SERVER=db" := by decide +kernel
    rw [← server]
    exact (settings_takeEffect.2 ["generate"] connectable keyServer.driver keeping).reached bare
      .sqlServer _ "DSN=kept" (some "db") asked rfl loaded rfl (by decide) rfl

end CommandLine

end SqlBindings
