import Mathlib.Data.List.Forall2
import SqlBindings.Proofs.ConnectionSettings
import SqlBindings.Proofs.Result

/-!
The server of a connection string is replaced part by part, and parts end at every semicolon, also at
those in braces.
-/

namespace SqlBindings.Sql

namespace Setting

/-- The key names the server. -/
def IsServer (s : Setting) : Prop := Text.lowerChars (Text.trimBlanks s.key) ∈ serverKeys

instance (s : Setting) : Decidable s.IsServer := inferInstanceAs (Decidable (_ ∈ serverKeys))

/-- The parts of the value in braces behind its first semicolon. A value without one has none. -/
def behind (s : Setting) : List (List Char) := ((quote s.value).splitOn ';').tail

/-- The server as a setting. -/
def server (name : String) : Setting := ⟨"SERVER".toList, name.toList⟩

end Setting

/-- Each text is one of the setting in its place. -/
abbrev SpelledBy : List (List Char) → List Setting → Prop :=
  List.Forall₂ fun text s => s.Spells text

section

variable {as bs text : List Char} {texts : List (List Char)} {s : Setting}

theorem splitOn_append (whole : ';' ∉ as) :
    (as ++ bs).splitOn ';' = (bs.splitOn ';').modifyHead (as ++ ·) := by
  induction as with
  | nil =>
    obtain ⟨first, rest, split⟩ := List.exists_cons_of_ne_nil (List.splitOn_ne_nil ';' bs)
    rw [List.nil_append, split]
    rfl
  | cons c as ih =>
    obtain ⟨here, rest⟩ := List.ne_and_not_mem_of_not_mem_cons whole
    rw [List.cons_append, List.splitOn_cons_eq_if_modifyHead, if_neg (by simpa using Ne.symm here),
      ih rest, List.modifyHead_modifyHead]
    rfl

theorem splitOn_texts (some : texts ≠ []) :
    ([';'].intercalate texts).splitOn ';' = texts.flatMap (·.splitOn ';') := by
  induction texts with
  | nil => exact absurd rfl some
  | cons text texts ih =>
    cases texts with
    | nil => simp
    | cons next rest =>
      rw [List.intercalate_cons_cons, List.append_assoc, List.singleton_append,
        List.splitOn_append_cons_self, ih (by simp)]
      rfl

theorem intercalate_parts (texts : List (List Char)) :
    [';'].intercalate (texts.flatMap (·.splitOn ';')) = [';'].intercalate texts := by
  cases texts with
  | nil => rfl
  | cons text texts => rw [← splitOn_texts (by simp), List.intercalate_splitOn]

theorem behind_eq_nil (whole : ';' ∉ s.value) : s.behind = [] := by
  have nowhere : ';' ∉ quote s.value := by
    simp only [quote, List.mem_cons, List.mem_append, List.mem_flatMap, escapeBrace]
    rintro (same | ⟨c, mem, here⟩ | same | none)
    · cases same
    · split at here
      · simp at here
      · exact whole (List.mem_singleton.mp here ▸ mem)
    · cases same
    · cases none
  rw [Setting.behind, List.splitOn_eq_singleton nowhere]
  rfl

/-- The first part of a setting has its key. -/
theorem stays_first {key value : List Char} (one : '=' ∉ key) (cs : List Char) :
    Stays (key ++ '=' :: cs) ↔ ¬ Setting.IsServer ⟨key, value⟩ := by
  have named : NamesServer (key ++ '=' :: cs) ↔ Setting.IsServer ⟨key, value⟩ := by
    rw [NamesServer, partKey, takeWhile_key one, Setting.IsServer]
  constructor
  · exact fun stays server => stays.otherKey (named.mpr server)
  · exact fun other => ⟨⟨'=', by simp, by decide⟩, fun server => other (named.mp server)⟩

/-- The first part of a setting stays unless it names the server. The others are what it has in
braces. -/
theorem Setting.Spells.splitOn (spells : s.Spells text) :
    ∃ first, text.splitOn ';' = first :: s.behind ∧ (Stays first ↔ ¬ s.IsServer) := by
  cases spells with
  | @plain key value one whole _ =>
    have nowhere : ';' ∉ key ++ '=' :: value := by simp [one.2, whole]
    have none : Setting.behind ⟨key, value⟩ = [] := behind_eq_nil whole
    exact ⟨_, by rw [List.splitOn_eq_singleton nowhere, none], stays_first one.1 value⟩
  | @quoted key value one =>
    obtain ⟨first, rest, split⟩ :=
      List.exists_cons_of_ne_nil (List.splitOn_ne_nil ';' (quote value))
    have whole : ';' ∉ key ++ ['='] := by simp [one.2]
    refine ⟨key ++ '=' :: first, ?_, stays_first one.1 first⟩
    rw [← List.singleton_append, ← List.append_assoc, splitOn_append whole, Setting.behind, split]
    simp

theorem splitOn_blank (blank : ∀ c ∈ text, Text.isBlank c = true) :
    text.splitOn ';' = [text] ∧ ¬ Stays text := by
  refine ⟨List.splitOn_eq_singleton (not_mem_of_blank blank (by decide)), fun stays => ?_⟩
  obtain ⟨c, mem, visible⟩ := stays.notBlank
  exact not_mem_of_blank blank visible mem

end

section

variable {texts : List (List Char)} {settings : List Setting}

/-- The texts of the settings that are not replaced, if their parts are kept together. -/
theorem Reads.exists_kept (reads : Reads texts settings)
    (apart : ∀ s ∈ settings, ∀ part ∈ s.behind, Stays part ↔ ¬ s.IsServer) :
    ∃ kept, Reads kept (settings.filter fun s => ¬ s.IsServer) ∧
      kept.flatMap (·.splitOn ';') =
        (texts.flatMap (·.splitOn ';')).filter fun part => decide (Stays part) := by
  induction reads with
  | nil => exact ⟨[], .nil, rfl⟩
  | @blank text _ _ blank _ ih =>
    obtain ⟨kept, reads, parts⟩ := ih apart
    obtain ⟨alone, goes⟩ := splitOn_blank blank
    refine ⟨kept, reads, ?_⟩
    rw [parts, List.flatMap_cons, alone, List.singleton_append,
      List.filter_cons_of_neg (by simpa using goes)]
  | @setting text _ s _ spells _ ih =>
    obtain ⟨here, others⟩ := List.forall_mem_cons.mp apart
    obtain ⟨kept, reads, parts⟩ := ih others
    obtain ⟨first, split, stays⟩ := spells.splitOn
    have same : ∀ part ∈ text.splitOn ';', Stays part ↔ ¬ s.IsServer := by
      rw [split]
      exact List.forall_mem_cons.mpr ⟨stays, here⟩
    by_cases server : s.IsServer
    · refine ⟨kept, ?_, ?_⟩
      · rwa [List.filter_cons_of_neg (by simpa using server)]
      · have none : (text.splitOn ';').filter (fun part => decide (Stays part)) = [] :=
          List.filter_eq_nil_iff.mpr fun part mem stays =>
            (same part mem).mp (of_decide_eq_true stays) server
        rw [parts, List.flatMap_cons, List.filter_append, none, List.nil_append]
    · refine ⟨text :: kept, ?_, ?_⟩
      · rw [List.filter_cons_of_pos (by simpa using server)]
        exact .setting spells reads
      · have all : (text.splitOn ';').filter (fun part => decide (Stays part)) = text.splitOn ';' :=
          List.filter_eq_self.mpr fun part mem => decide_eq_true ((same part mem).mpr server)
        rw [List.flatMap_cons, parts, List.flatMap_cons, List.filter_append, all]

/-- How many parts stay, if all parts of the settings that are not replaced do. -/
theorem Reads.countP_kept (reads : Reads texts settings)
    (whole : ∀ s ∈ settings, ¬ s.IsServer → ∀ part ∈ s.behind, Stays part) :
    ((texts.flatMap (·.splitOn ';')).countP fun part => decide (Stays part)) =
      (settings.filter fun s => ¬ s.IsServer).length +
        ((settings.filter fun s => ¬ s.IsServer).flatMap (·.behind)).length +
        ((settings.filter fun s => s.IsServer).flatMap (·.behind)).countP
          fun part => decide (Stays part) := by
  induction reads with
  | nil => rfl
  | @blank text _ _ blank _ ih =>
    rw [List.flatMap_cons, List.countP_append, ih whole, (splitOn_blank blank).1]
    simp [(splitOn_blank blank).2]
  | @setting text _ s _ spells _ ih =>
    obtain ⟨here, others⟩ := List.forall_mem_cons.mp whole
    obtain ⟨first, split, stays⟩ := spells.splitOn
    rw [List.flatMap_cons, List.countP_append, ih others, split]
    by_cases server : s.IsServer
    · have goes : ¬ Stays first := fun stay => stays.mp stay server
      simp only [List.countP_cons, goes, server, decide_true, decide_false, Bool.false_eq_true,
        if_false, not_true, List.filter_cons, if_true, List.flatMap_cons, List.countP_append]
      omega
    · have all : s.behind.countP (fun part => decide (Stays part)) = s.behind.length :=
        List.countP_eq_length.mpr fun part mem => decide_eq_true (here server part mem)
      simp only [List.countP_cons, all, stays.mpr server, server, decide_true, decide_false,
        Bool.false_eq_true, if_false, not_false_eq_true, List.filter_cons, if_true,
        List.flatMap_cons, List.length_append, List.length_cons]
      omega

theorem length_parts (spelled : SpelledBy texts settings) :
    (texts.flatMap (·.splitOn ';')).length =
      settings.length + (settings.flatMap (·.behind)).length := by
  induction spelled with
  | nil => rfl
  | cons spells _ ih =>
    obtain ⟨first, split, -⟩ := spells.splitOn
    rw [List.flatMap_cons, List.length_append, ih, split, List.flatMap_cons, List.length_append,
      List.length_cons, List.length_cons]
    omega

theorem Reads.forall₂ (reads : Reads texts settings)
    (visible : ∀ text ∈ texts, ∃ c ∈ text, Text.isBlank c = false) : SpelledBy texts settings := by
  induction reads with
  | nil => exact .nil
  | blank blank _ _ =>
    obtain ⟨⟨c, mem, shown⟩, -⟩ := List.forall_mem_cons.mp visible
    exact absurd mem (not_mem_of_blank blank shown)
  | setting spells _ ih => exact .cons spells (ih (List.forall_mem_cons.mp visible).2)

theorem Reads.append {more : List (List Char)} {others : List Setting}
    (first : Reads texts settings) (second : Reads more others) :
    Reads (texts ++ more) (settings ++ others) := by
  induction first with
  | nil => exact second
  | blank blank _ ih => exact .blank blank ih
  | setting spells _ ih => exact .setting spells ih

/-- The last setting has the last text. -/
theorem exists_last {s : Setting} (spelled : SpelledBy texts (settings ++ [s])) :
    ∃ front last, texts = front ++ [last] ∧ SpelledBy front settings ∧ s.Spells last := by
  have front := List.forall₂_take_append _ _ _ spelled
  have behind := List.forall₂_drop_append _ _ _ spelled
  obtain ⟨last, rest, spells, none, split⟩ := List.forall₂_cons_right_iff.mp behind
  rw [List.forall₂_nil_right_iff.mp none] at split
  exact ⟨_, last, by rw [← split, List.take_append_drop], front, spells⟩

end

section

variable {server : String}

theorem spells_server (onePart : ';' ∉ server.toList) (unquoted : '{' ∉ server.toList) :
    (Setting.server server).Spells (serverPart server) := by
  rw [serverPart_eq]
  refine .plain (by decide) onePart fun brace => unquoted ?_
  exact List.mem_of_mem_head? brace

/-- If the parts of each setting are kept or dropped together, so are the settings. -/
theorem settings?_withServer_of_apart (given : server ≠ "") (onePart : ';' ∉ server.toList)
    (unquoted : '{' ∉ server.toList) {connectionString : String} {settings : List Setting}
    (read : settings? connectionString.toList = some settings)
    (apart : ∀ s ∈ settings, ∀ part ∈ s.behind, Stays part ↔ ¬ s.IsServer) :
    settings? (withServer connectionString (some server)).toList =
      some ((settings.filter fun s => ¬ s.IsServer) ++ [.server server]) := by
  obtain ⟨texts, some, whole, reads⟩ := settings?_eq_some_iff.mp read
  obtain ⟨kept, keptReads, parts⟩ := reads.exists_kept apart
  have spelled := spells_server onePart unquoted
  have alone : (serverPart server).splitOn ';' = [serverPart server] :=
    List.splitOn_eq_singleton (by simpa [serverPart_eq] using onePart)
  refine settings?_eq_some_iff.mpr
    ⟨kept ++ [serverPart server], by simp, ?_, keptReads.append (.setting spelled .nil)⟩
  rw [withServer_some given, String.toList_ofList, ← whole, splitOn_texts some, ← parts,
    ← intercalate_parts, List.flatMap_append, List.flatMap_singleton, alone]

/-- Of a connection string whose server was replaced, all texts but the last one are made of parts
that stay. -/
theorem exists_front (given : server ≠ "") (onePart : ';' ∉ server.toList)
    {connectionString : String} {others : List Setting}
    (read : settings? (withServer connectionString (some server)).toList =
      some (others ++ [.server server])) :
    ∃ front, SpelledBy front others ∧
      front.flatMap (·.splitOn ';') =
        (connectionString.toList.splitOn ';').filter fun part => decide (Stays part) := by
  obtain ⟨texts, some, whole, reads⟩ := settings?_eq_some_iff.mp read
  have parts := splitOn_texts some
  rw [whole, splitOn_withServer given onePart] at parts
  have visible : ∀ text ∈ texts, ∃ c ∈ text, Text.isBlank c = false := by
    intro text mem
    by_contra hidden
    have blank : ∀ c ∈ text, Text.isBlank c = true := by simpa using hidden
    obtain ⟨alone, goes⟩ := splitOn_blank blank
    have among : text ∈ texts.flatMap (·.splitOn ';') :=
      List.mem_flatMap.mpr ⟨text, mem, by simp [alone]⟩
    rw [← parts] at among
    rcases List.mem_append.mp among with old | new
    · exact goes (of_decide_eq_true (List.mem_filter.mp old).2)
    · have equals : '=' ∉ text := not_mem_of_blank blank (by decide)
      rw [List.mem_singleton.mp new, serverPart_eq] at equals
      simp at equals
  obtain ⟨front, last, rfl, spelled, spells⟩ := exists_last (reads.forall₂ visible)
  obtain ⟨first, split, -⟩ := spells.splitOn
  rw [behind_eq_nil onePart] at split
  rw [List.flatMap_append, List.flatMap_singleton, split] at parts
  exact ⟨front, spelled, (List.append_inj' parts rfl).1.symm⟩

/-- When the server is replaced, the other settings are left as they were exactly if what stands
behind semicolons in their values looks like settings that stay, and nothing that does stands in the
server that is replaced. -/
theorem settings?_withServer_iff (connectionString server : String) (given : server ≠ "")
    (onePart : ';' ∉ server.toList) (unquoted : '{' ∉ server.toList) (settings : List Setting)
    (read : settings? connectionString.toList = some settings) :
    settings? (withServer connectionString (some server)).toList =
        some ((settings.filter fun s => ¬ s.IsServer) ++ [.server server]) ↔
      ∀ s ∈ settings, ∀ part ∈ s.behind, Stays part ↔ ¬ s.IsServer := by
  refine ⟨fun kept => ?_, settings?_withServer_of_apart given onePart unquoted read⟩
  obtain ⟨texts, some, whole, reads⟩ := settings?_eq_some_iff.mp read
  obtain ⟨front, spelled, parts⟩ := exists_front given onePart kept
  have others : ∀ s ∈ settings, ¬ s.IsServer → ∀ part ∈ s.behind, Stays part := by
    intro s mem other part behind
    obtain ⟨text, here, spells⟩ :=
      exists_of_forall₂ spelled (List.mem_filter.mpr ⟨mem, decide_eq_true other⟩)
    obtain ⟨first, split, -⟩ := spells.splitOn
    have among : part ∈ front.flatMap (·.splitOn ';') :=
      List.mem_flatMap.mpr ⟨text, here, split ▸ List.mem_cons_of_mem _ behind⟩
    rw [parts] at among
    exact of_decide_eq_true (List.mem_filter.mp among).2
  -- as many parts stay as the other settings have, so none is left of a server
  have count := reads.countP_kept others
  rw [List.countP_eq_length_filter, ← splitOn_texts some, whole, ← parts, length_parts spelled,
    Nat.left_eq_add, List.countP_eq_zero] at count
  intro s mem part behind
  by_cases server : s.IsServer
  · have among : s ∈ settings.filter fun s => s.IsServer :=
      List.mem_filter.mpr ⟨mem, decide_eq_true server⟩
    have goes := count part (List.mem_flatMap.mpr ⟨s, among, behind⟩)
    exact iff_of_false (by simpa using goes) (not_not_intro server)
  · exact iff_of_true (others s mem server part behind) server

/-- A password with a semicolon and a closing brace. -/
def semicolonPassword : String :=
  "DRIVER=\x7bSQL Server\x7d; Addr=old,1433;PWD=\x7ba;b\x7d\x7dc\x7d;;App=x"

theorem settings?_withServer_iff_semicolonPassword :
    settings? semicolonPassword.toList =
        some [⟨"DRIVER".toList, "SQL Server".toList⟩, ⟨" Addr".toList, "old,1433".toList⟩,
          ⟨"PWD".toList, "a;b\x7dc".toList⟩, ⟨"App".toList, "x".toList⟩] ∧
      settings? (withServer semicolonPassword (some "new")).toList =
        some [⟨"DRIVER".toList, "SQL Server".toList⟩, ⟨"PWD".toList, "a;b\x7dc".toList⟩,
          ⟨"App".toList, "x".toList⟩, ⟨"SERVER".toList, "new".toList⟩] := by
  have read : settings? semicolonPassword.toList =
      some [⟨"DRIVER".toList, "SQL Server".toList⟩, ⟨" Addr".toList, "old,1433".toList⟩,
        ⟨"PWD".toList, "a;b\x7dc".toList⟩, ⟨"App".toList, "x".toList⟩] := by
    decide +kernel
  refine ⟨read, ?_⟩
  have kept := (settings?_withServer_iff semicolonPassword "new" (by decide) (by decide) (by decide)
    _ read).mpr (by decide +kernel)
  rw [kept]
  decide +kernel

/-- A password that loses a part, since it reads like the name of a server. -/
def serverPassword : String := "DRIVER=\x7bSQL Server\x7d;SERVER=old;PWD=\x7ba;server=b\x7d"

theorem withServer_cutsPassword :
    settings? serverPassword.toList =
        some [⟨"DRIVER".toList, "SQL Server".toList⟩, ⟨"SERVER".toList, "old".toList⟩,
          ⟨"PWD".toList, "a;server=b".toList⟩] ∧
      withServer serverPassword (some "new") =
        "DRIVER=\x7bSQL Server\x7d;PWD=\x7ba;SERVER=new" ∧
      settings? (withServer serverPassword (some "new")).toList = none := by
  decide +kernel

end

end SqlBindings.Sql
