import SqlBindings.Proofs.ServerOverride

/-!
# The settings of a connection string

A value may stand in braces, and it may hold semicolons then. This is how a driver reads a connection
string.

* `settings?`: reads the settings of a connection string, character by character;
* `Setting.Spells`, `Reads`: the same as a grammar, and `settings?_eq_some_iff`: they agree.
-/

namespace SqlBindings.Sql

structure Setting where
  key : List Char
  value : List Char
deriving DecidableEq

/-- Where a reader of settings stands. -/
inductive Place where
  | key
  /-- Behind the equals sign. -/
  | opening
  | plain
  | quoted
  /-- Behind a closing brace, which ends the value unless a second one follows. -/
  | closing
deriving DecidableEq

/-- Where the reader stands after a character of a setting. -/
def Place.after : Place → Char → Place
  | key, c => if c = '=' then opening else key
  | opening, c => if c = '{' then quoted else plain
  | plain, _ => plain
  | quoted, c => if c = '}' then closing else quoted
  | closing, c => if c = '}' then quoted else plain

/-- The texts between the semicolons, those in quoted values not counted. -/
def settingTexts : Place → List Char → List (List Char)
  | _, [] => [[]]
  | place, c :: cs =>
    if c = ';' ∧ place ≠ .quoted then [] :: settingTexts .key cs
    else (settingTexts (place.after c) cs).modifyHead (c :: ·)

/-- What stands for a value in braces, from the text behind the opening one. -/
def unquote? : List Char → Option (List Char)
  | [] => none
  | ['}'] => some []
  | '}' :: '}' :: cs => (unquote? cs).map ('}' :: ·)
  | '}' :: _ => none
  | c :: cs => (unquote? cs).map (c :: ·)

/-- The value that a text stands for. -/
def value? : List Char → Option (List Char)
  | '{' :: quoted => unquote? quoted
  | plain => some plain

def Setting.ofText? (text : List Char) : Option Setting :=
  match text.dropWhile (· != '=') with
  | [] => none
  | _ :: value => (value? value).map fun value => ⟨text.takeWhile (· != '='), value⟩

def notBlank (text : List Char) : Bool := text.any fun c => !Text.isBlank c

/-- The settings of a connection string. Blank texts between semicolons say nothing. -/
def settings? (connectionString : List Char) : Option (List Setting) :=
  ((settingTexts .key connectionString).filter notBlank).mapM Setting.ofText?

/-- A character inside a value in braces. -/
def escapeBrace (c : Char) : List Char := if c = '}' then ['}', '}'] else [c]

/-- A value in braces. -/
def quote (value : List Char) : List Char := '{' :: (value.flatMap escapeBrace ++ ['}'])

/-- The texts of a setting. -/
inductive Setting.Spells : Setting → List Char → Prop
  | plain {key value : List Char} (one : '=' ∉ key ∧ ';' ∉ key) (whole : ';' ∉ value)
      (unquoted : value.head? ≠ some '{') : Setting.Spells ⟨key, value⟩ (key ++ '=' :: value)
  | quoted {key value : List Char} (one : '=' ∉ key ∧ ';' ∉ key) :
      Setting.Spells ⟨key, value⟩ (key ++ '=' :: quote value)

/-- The texts of settings, in order, with blank ones in between. -/
inductive Reads : List (List Char) → List Setting → Prop
  | nil : Reads [] []
  | blank {text : List Char} {texts : List (List Char)} {settings : List Setting}
      (blank : ∀ c ∈ text, Text.isBlank c = true) (rest : Reads texts settings) :
      Reads (text :: texts) settings
  | setting {text : List Char} {texts : List (List Char)} {s : Setting} {settings : List Setting}
      (spells : s.Spells text) (rest : Reads texts settings) : Reads (text :: texts) (s :: settings)

/-- No semicolon stands outside a quoted value. -/
def Sealed : Place → List Char → Prop
  | _, [] => True
  | place, c :: cs => (c = ';' → place = .quoted) ∧ Sealed (place.after c) cs

section

variable {place : Place} {cs text : List Char} {texts : List (List Char)}

theorem settingTexts_ne_nil (place : Place) (cs : List Char) : settingTexts place cs ≠ [] := by
  induction cs generalizing place with
  | nil => simp [settingTexts]
  | cons c cs ih =>
    rw [settingTexts]
    split
    · simp
    · simp [List.modifyHead_eq_nil_iff, ih]

theorem intercalate_settingTexts (place : Place) (cs : List Char) :
    [';'].intercalate (settingTexts place cs) = cs := by
  induction cs generalizing place with
  | nil => rfl
  | cons c cs ih =>
    rw [settingTexts]
    split
    · next ends =>
      rw [List.intercalate_cons_of_ne_nil (settingTexts_ne_nil _ _), ih, ends.1]
      rfl
    · obtain ⟨first, rest, split⟩ :=
        List.exists_cons_of_ne_nil (settingTexts_ne_nil (place.after c) cs)
      have whole := ih (place.after c)
      rw [split] at whole
      rw [split, List.modifyHead_cons, List.intercalate_cons_cons_left, whole]

theorem sealed_of_settingTexts {first : List Char}
    (split : settingTexts place cs = first :: texts) :
    Sealed place first ∧ ∀ text ∈ texts, Sealed .key text := by
  induction cs generalizing place first texts with
  | nil =>
    cases split
    exact ⟨trivial, by simp⟩
  | cons c cs ih =>
    rw [settingTexts] at split
    split at split
    · obtain ⟨rfl, rfl⟩ := List.cons.inj split
      obtain ⟨next, rest, after⟩ := List.exists_cons_of_ne_nil (settingTexts_ne_nil .key cs)
      rw [after]
      exact ⟨trivial, List.forall_mem_cons.mpr (ih after)⟩
    · next stays =>
      obtain ⟨next, rest, after⟩ :=
        List.exists_cons_of_ne_nil (settingTexts_ne_nil (place.after c) cs)
      rw [after, List.modifyHead_cons] at split
      obtain ⟨rfl, rfl⟩ := List.cons.inj split
      obtain ⟨inside, others⟩ := ih after
      have quoted : c = ';' → place = .quoted :=
        fun semicolon => by_contra fun outside => stays ⟨semicolon, outside⟩
      exact ⟨⟨quoted, inside⟩, others⟩

/-- A text ends at the semicolon behind it, if it is not inside a quoted value there. -/
theorem settingTexts_append (inside : Sealed place text)
    (closed : text.foldl Place.after place ≠ .quoted) (cs : List Char) :
    settingTexts place (text ++ ';' :: cs) = text :: settingTexts .key cs := by
  induction text generalizing place with
  | nil => simp [settingTexts, show place ≠ .quoted from closed]
  | cons c text ih =>
    have stays : ¬ (c = ';' ∧ place ≠ .quoted) := fun ends => ends.2 (inside.1 ends.1)
    rw [List.cons_append, settingTexts, if_neg stays, ih inside.2 closed, List.modifyHead_cons]

theorem settingTexts_of_sealed (inside : Sealed place text) : settingTexts place text = [text] := by
  induction text generalizing place with
  | nil => rfl
  | cons c text ih =>
    have stays : ¬ (c = ';' ∧ place ≠ .quoted) := fun ends => ends.2 (inside.1 ends.1)
    rw [settingTexts, if_neg stays, ih inside.2, List.modifyHead_cons]

theorem settingTexts_intercalate (some : texts ≠ []) (each : ∀ text ∈ texts,
    Sealed .key text ∧ text.foldl Place.after .key ≠ .quoted) :
    settingTexts .key ([';'].intercalate texts) = texts := by
  induction texts with
  | nil => exact absurd rfl some
  | cons text texts ih =>
    obtain ⟨⟨inside, closed⟩, others⟩ := List.forall_mem_cons.mp each
    cases texts with
    | nil => rw [List.intercalate_singleton, settingTexts_of_sealed inside]
    | cons next rest =>
      rw [List.intercalate_cons_cons, List.append_assoc, List.singleton_append,
        settingTexts_append inside closed, ih (by simp) others]

end

section

variable {place : Place} {as bs cs key value text : List Char} {s : Setting}

theorem sealed_append : Sealed place (as ++ bs) ↔
    Sealed place as ∧ Sealed (as.foldl Place.after place) bs := by
  induction as generalizing place with
  | nil => simp [Sealed]
  | cons c as ih => simp [Sealed, ih, and_assoc]

theorem foldl_after_key (one : '=' ∉ key) : key.foldl Place.after .key = .key := by
  induction key with
  | nil => rfl
  | cons c key ih =>
    obtain ⟨here, rest⟩ := List.ne_and_not_mem_of_not_mem_cons one
    rw [List.foldl_cons, Place.after, if_neg (Ne.symm here), ih rest]

theorem sealed_key_iff (one : '=' ∉ key) : Sealed .key key ↔ ';' ∉ key := by
  induction key with
  | nil => simp [Sealed]
  | cons c key ih =>
    obtain ⟨here, rest⟩ := List.ne_and_not_mem_of_not_mem_cons one
    rw [Sealed, Place.after, if_neg (Ne.symm here), ih rest]
    simp [eq_comm]

theorem foldl_after_plain (value : List Char) : value.foldl Place.after .plain = .plain := by
  induction value with
  | nil => rfl
  | cons c value ih => exact ih

theorem sealed_plain_iff : Sealed .plain value ↔ ';' ∉ value := by
  induction value with
  | nil => simp [Sealed]
  | cons c value ih =>
    rw [Sealed, Place.after, ih]
    simp [eq_comm]

/-- Behind the equals sign a value without braces begins at once. -/
theorem sealed_opening_iff (unquoted : value.head? ≠ some '{') :
    Sealed .opening value ↔ ';' ∉ value := by
  cases value with
  | nil => simp [Sealed]
  | cons c value =>
    have plain : c ≠ '{' := fun brace => unquoted (by rw [brace]; rfl)
    rw [Sealed, Place.after, if_neg plain, sealed_plain_iff]
    simp [eq_comm]

theorem foldl_after_opening_ne (unquoted : value.head? ≠ some '{') :
    value.foldl Place.after .opening ≠ .quoted := by
  cases value with
  | nil => simp
  | cons c value =>
    have plain : c ≠ '{' := fun brace => unquoted (by rw [brace]; rfl)
    rw [List.foldl_cons, Place.after, if_neg plain, foldl_after_plain]
    simp

/-- Both braces of a pair belong to the value. -/
theorem foldl_after_quoted (value : List Char) :
    (value.flatMap escapeBrace).foldl Place.after .quoted = .quoted := by
  induction value with
  | nil => rfl
  | cons c value ih =>
    rw [List.flatMap_cons, List.foldl_append]
    by_cases brace : c = '}' <;> simpa [escapeBrace, brace, Place.after] using ih

theorem sealed_quoted (value : List Char) : Sealed .quoted (value.flatMap escapeBrace) := by
  induction value with
  | nil => trivial
  | cons c value ih =>
    rw [List.flatMap_cons, sealed_append]
    by_cases brace : c = '}' <;> simpa [escapeBrace, brace, Sealed, Place.after] using ih

theorem unquote?_cons {c : Char} (plain : c ≠ '}') (cs : List Char) :
    unquote? (c :: cs) = (unquote? cs).map (c :: ·) := by
  rw [unquote?]
  · exact fun brace _ => plain brace
  · exact fun _ brace _ => plain brace
  · exact plain

theorem unquote?_eq_some_iff :
    unquote? cs = some value ↔ cs = value.flatMap escapeBrace ++ ['}'] := by
  constructor
  · intro made
    induction cs using unquote?.induct generalizing value with
    | case1 => cases made
    | case2 =>
      cases made
      rfl
    | case3 cs ih =>
      rw [unquote?] at made
      obtain ⟨rest, here, rfl⟩ := Option.map_eq_some_iff.mp made
      rw [ih here]
      rfl
    | case4 tail some single =>
      rw [unquote?] at made
      · cases made
      · exact some
      · exact single
    | case5 c cs _ _ plain ih =>
      rw [unquote?_cons plain] at made
      obtain ⟨rest, here, rfl⟩ := Option.map_eq_some_iff.mp made
      rw [List.flatMap_cons, escapeBrace, if_neg plain, ih here]
      rfl
  · rintro rfl
    induction value with
    | nil => rfl
    | cons c value ih =>
      by_cases brace : c = '}'
      · rw [brace, List.flatMap_cons, escapeBrace, if_pos rfl]
        exact congrArg (Option.map _) ih
      · rw [List.flatMap_cons, escapeBrace, if_neg brace]
        exact (unquote?_cons brace _).trans (congrArg (Option.map _) ih)

theorem takeWhile_key (one : '=' ∉ key) (cs : List Char) :
    (key ++ '=' :: cs).takeWhile (· != '=') = key := by
  have inside : ∀ c ∈ key, (c != '=') = true := fun c mem => by
    simpa using fun same : c = '=' => one (same ▸ mem)
  rw [List.takeWhile_append_of_pos inside]
  simp

theorem dropWhile_key (one : '=' ∉ key) (cs : List Char) :
    (key ++ '=' :: cs).dropWhile (· != '=') = '=' :: cs := by
  have inside : ∀ c ∈ key, (c != '=') = true := fun c mem => by
    simpa using fun same : c = '=' => one (same ▸ mem)
  rw [List.dropWhile_append_of_pos inside]
  simp

theorem value?_eq_some (unquoted : value.head? ≠ some '{') : value? value = some value := by
  unfold value?
  split
  · exact absurd rfl unquoted
  · rfl

/-- What is spelled is read. -/
theorem Setting.Spells.ofText? (spells : s.Spells text) : Setting.ofText? text = some s := by
  cases spells with
  | plain one _ unquoted =>
    rw [Setting.ofText?, takeWhile_key one.1, dropWhile_key one.1]
    exact congrArg (Option.map _) (value?_eq_some unquoted)
  | quoted one =>
    rw [Setting.ofText?, takeWhile_key one.1, dropWhile_key one.1]
    exact congrArg (Option.map _) (unquote?_eq_some_iff.mpr rfl)

theorem sealed_setting_iff (one : '=' ∉ key) :
    Sealed .key (key ++ '=' :: text) ↔ ';' ∉ key ∧ Sealed .opening text := by
  rw [sealed_append, sealed_key_iff one, foldl_after_key one, Sealed]
  simp [Place.after]

theorem foldl_after_setting (one : '=' ∉ key) (text : List Char) :
    (key ++ '=' :: text).foldl Place.after .key = text.foldl Place.after .opening := by
  rw [List.foldl_append, foldl_after_key one]
  rfl

/-- What is spelled ends at the next semicolon. -/
theorem Setting.Spells.inside (spells : s.Spells text) :
    Sealed .key text ∧ text.foldl Place.after .key ≠ .quoted := by
  cases spells with
  | plain one whole unquoted =>
    rw [sealed_setting_iff one.1, foldl_after_setting one.1]
    exact ⟨⟨one.2, (sealed_opening_iff unquoted).mpr whole⟩, foldl_after_opening_ne unquoted⟩
  | @quoted key value one =>
    have closes : Sealed .quoted (value.flatMap escapeBrace ++ ['}']) := by
      rw [sealed_append, foldl_after_quoted]
      exact ⟨sealed_quoted value, by simp [Sealed]⟩
    rw [sealed_setting_iff one.1, foldl_after_setting one.1, quote, List.foldl_cons]
    refine ⟨⟨one.2, by simp, closes⟩, ?_⟩
    have behind : Place.after .opening '{' = .quoted := rfl
    rw [behind, List.foldl_append, foldl_after_quoted]
    simp [Place.after]

theorem exists_of_ofText? (read : Setting.ofText? text = some s) : '=' ∉ s.key ∧
    ∃ rest, text = s.key ++ '=' :: rest ∧ value? rest = some s.value := by
  have split := List.takeWhile_append_dropWhile (p := (· != '=')) (l := text)
  have first := List.head?_dropWhile_not (· != '=') text
  rw [Setting.ofText?] at read
  cases behind : text.dropWhile (· != '=') with
  | nil =>
    rw [behind] at read
    cases read
  | cons d rest =>
    rw [behind] at read first split
    obtain ⟨value, here, rfl⟩ := Option.map_eq_some_iff.mp read
    have equals : d = '=' := by simpa using first
    refine ⟨fun mem => ?_, rest, equals ▸ split.symm, here⟩
    simpa using List.mem_takeWhile_imp mem

theorem spells_of_ofText? (inside : Sealed .key text) (read : Setting.ofText? text = some s) :
    s.Spells text := by
  obtain ⟨one, rest, rfl, here⟩ := exists_of_ofText? read
  obtain ⟨whole, within⟩ := (sealed_setting_iff one).mp inside
  by_cases brace : rest.head? = some '{'
  · cases rest with
    | nil => cases brace
    | cons c quoted =>
      cases brace
      rw [unquote?_eq_some_iff.mp here]
      exact .quoted ⟨one, whole⟩
  · rw [value?_eq_some brace] at here
    obtain rfl := Option.some.inj here
    exact .plain ⟨one, whole⟩ ((sealed_opening_iff brace).mp within) brace

end

theorem notBlank_iff {text : List Char} :
    notBlank text = true ↔ ∃ c ∈ text, Text.isBlank c = false := by
  simp [notBlank]

theorem Setting.Spells.notBlank {s : Setting} {text : List Char} (spells : s.Spells text) :
    ∃ c ∈ text, Text.isBlank c = false := by
  refine ⟨'=', ?_, by decide⟩
  cases spells <;> simp

section

variable {texts : List (List Char)} {settings : List Setting}

theorem reads_of_mapM (inside : ∀ text ∈ texts, Sealed .key text)
    (made : (texts.filter notBlank).mapM Setting.ofText? = some settings) :
    Reads texts settings := by
  induction texts generalizing settings with
  | nil =>
    cases made
    exact .nil
  | cons text texts ih =>
    obtain ⟨here, others⟩ := List.forall_mem_cons.mp inside
    by_cases visible : notBlank text = true
    · rw [List.filter_cons_of_pos visible, List.mapM_cons] at made
      simp only [Option.bind_eq_bind, Option.bind_eq_some_iff] at made
      obtain ⟨s, read, rest, later, same⟩ := made
      cases same
      exact .setting (spells_of_ofText? here read) (ih others later)
    · rw [List.filter_cons_of_neg visible] at made
      rw [notBlank_iff] at visible
      exact .blank (by simpa using visible) (ih others made)

theorem Reads.mapM (reads : Reads texts settings) :
    (texts.filter notBlank).mapM Setting.ofText? = some settings := by
  induction reads with
  | nil => rfl
  | blank blank _ ih =>
    rw [List.filter_cons_of_neg (by simpa [Sql.notBlank] using blank)]
    exact ih
  | setting spells _ ih =>
    rw [List.filter_cons_of_pos (notBlank_iff.mpr spells.notBlank), List.mapM_cons, spells.ofText?,
      ih]
    rfl

theorem not_mem_of_blank {text : List Char} (blank : ∀ c ∈ text, Text.isBlank c = true) {c : Char}
    (visible : Text.isBlank c = false) : c ∉ text := by
  intro mem
  rw [blank c mem] at visible
  cases visible

theorem Reads.inside (reads : Reads texts settings) : ∀ text ∈ texts,
    Sealed .key text ∧ text.foldl Place.after .key ≠ .quoted := by
  induction reads with
  | nil => simp
  | @blank text _ _ blank _ ih =>
    have one : '=' ∉ text := not_mem_of_blank blank (by decide)
    have whole : ';' ∉ text := not_mem_of_blank blank (by decide)
    refine List.forall_mem_cons.mpr ⟨⟨(sealed_key_iff one).mpr whole, ?_⟩, ih⟩
    rw [foldl_after_key one]
    simp
  | setting spells _ ih => exact List.forall_mem_cons.mpr ⟨spells.inside, ih⟩

/-- A connection string has the settings that it spells. -/
theorem settings?_eq_some_iff {connectionString : List Char} :
    settings? connectionString = some settings ↔ ∃ texts, texts ≠ [] ∧
      [';'].intercalate texts = connectionString ∧ Reads texts settings := by
  constructor
  · intro made
    obtain ⟨first, rest, split⟩ :=
      List.exists_cons_of_ne_nil (settingTexts_ne_nil .key connectionString)
    have inside : ∀ text ∈ settingTexts .key connectionString, Sealed .key text := by
      rw [split]
      exact List.forall_mem_cons.mpr (sealed_of_settingTexts split)
    exact ⟨_, settingTexts_ne_nil _ _, intercalate_settingTexts _ _, reads_of_mapM inside made⟩
  · rintro ⟨texts, some, rfl, reads⟩
    rw [settings?, settingTexts_intercalate some reads.inside]
    exact reads.mapM

end

end SqlBindings.Sql
