import SqlBindings.Proofs.Nullability
import SqlBindings.Proofs.PlainDeclarations

/-!
Lists of parameters between commas, with an AS and any body behind them. Only a last declaration that
is a name and a bare AS can be given a default that it does not declare, by the body of the routine.
-/

namespace SqlBindings.Sql

open Text (isWord isBlank)
open Pattern

theorem not_mem_of_all {p : Char → Bool} {cs : List Char} (all : ∀ c ∈ cs, p c = true)
    (not : p '@' = false) : '@' ∉ cs := fun mem => by
  simp [all _ mem] at not

theorem Gap.quiet {g : Gap} (plain : g.comments = []) : '@' ∉ g.text :=
  g.text_of_plain plain ▸ not_mem_of_all g.allBlank (by decide)

theorem Keyword.quiet {letters : List Char} (word : Keyword letters)
    (lower : letters.all Char.isLower = true) : '@' ∉ word.chars :=
  not_mem_of_all (word.spelled.isWord lower) (by decide)

theorem TypePart.quiet (t : TypePart) : '@' ∉ t.text := by
  have word := not_mem_of_all t.word.allWord (by decide)
  unfold text
  split <;> simp [word]

theorem declarationsFrom_quiet {cs : List Char} (quiet : '@' ∉ cs) : declarationsFrom 0 cs = [] := by
  have nothing := declarationsFrom_append quiet []
  rwa [List.append_nil] at nothing

/-- Where there is an `@` at most at the front, at most one declaration is found. -/
theorem declarationsFrom_quiet_tail {c : Char} {cs : List Char} (quiet : '@' ∉ cs) :
    declarationsFrom 0 (c :: cs) = (declaration? (c :: cs)).toList := by
  rw [declarationsFrom]
  cases declaration? (c :: cs) with
  | none => exact declarationsFrom_quiet quiet
  | some d =>
    have later : declarationsFrom (d.width - 1) cs = [] := by
      rw [declarationsFrom_skip]
      exact declarationsFrom_quiet fun mem => quiet (List.mem_of_mem_drop mem)
    simp [later]

namespace PlainDeclaration

variable (d : PlainDeclaration)

theorem quiet_directionText : '@' ∉ d.directionText := by
  unfold directionText
  cases given : d.direction? with
  | none => simp
  | some o => simp [DirectionClause.text, Gap.quiet (d.directionPlain o given),
      o.keyword.quiet o.known_cases.1]

theorem quiet_clauses (none : d.default? = none) : '@' ∉ d.clauses := by
  have as : '@' ∉ d.asText := by
    unfold asText
    cases given : d.as? with
    | none => simp
    | some a => simp [AsClause.text, Gap.quiet (d.asPlain a given), a.keyword.quiet (by decide)]
  have type : '@' ∉ Declaration.typeName d.schema? d.type := by
    unfold Declaration.typeName
    cases d.schema? with
    | none => simp [d.type.quiet]
    | some s => simp [s.quiet, d.type.quiet]
  have arguments : '@' ∉ d.arguments?.elim [] TypeArguments.text := by
    cases given : d.arguments? with
    | none => simp
    | some a =>
      obtain ⟨plain, quiet⟩ := d.argumentsPlain a given
      simp [TypeArguments.text, Gap.quiet plain, quiet]
  have varying : '@' ∉ d.varying?.elim [] VaryingClause.text := by
    cases given : d.varying? with
    | none => simp
    | some v => simp [VaryingClause.text, Gap.quiet (d.varyingPlain v given),
        v.keyword.quiet (by decide)]
  simp [clauses, afterType, none, Gap.quiet d.gapPlain, as, type, arguments, varying]

/-- Of a declaration its default is found, and the search goes on behind it. -/
theorem search {after : List Char} (closes : Closes after)
    (noType : d.IsBareAs → ¬ Starts (fun c => isWord c || c == '[') (after.dropWhile isBlank)) :
    declarationsFrom 0 (d.text ++ after) =
      (d.default?.map d.reading).toList ++ declarationsFrom 0 after := by
  have read := d.declaration?_text closes noType
  cases given : d.default? with
  | none =>
    have quiet : '@' ∉ d.name.chars ++ (d.clauses ++ d.directionText) := by
      simp [not_mem_of_all d.name.allWord (by decide), d.quiet_clauses given,
        d.quiet_directionText]
    have tail : (d.text ++ after).tail =
        (d.name.chars ++ (d.clauses ++ d.directionText)) ++ after := by
      simp [text, declared, parameterName]
    rw [given] at read
    rw [declarationsFrom_none read, tail, declarationsFrom_append quiet]
    rfl
  | some v =>
    have width : (d.reading v).width =
        (consumed (d.declared ++ (d.directionText ++ after)) (d.directionText ++ after)).length := by
      rw [consumed_append]
      rfl
    have some : d.declared ≠ [] := by simp [declared, parameterName]
    rw [given, text, List.append_assoc] at read
    rw [text, List.append_assoc, declarationsFrom_read read width some d.quiet_directionText]
    rfl

end PlainDeclaration

/-- A text lists declarations: they stand between commas. -/
inductive Lists : List PlainDeclaration → List Char → Prop
  | nil : Lists [] []
  | single (d : PlainDeclaration) : Lists [d] d.text
  | cons (d : PlainDeclaration) (before after : Gap) (beforePlain : before.comments = [])
      (afterPlain : after.comments = []) {e : PlainDeclaration} {ds : List PlainDeclaration}
      {cs : List Char} (rest : Lists (e :: ds) cs) :
      Lists (d :: e :: ds) (d.text ++ (before.text ++ ',' :: (after.text ++ cs)))

/-- The last declaration, if it is a name and a bare AS. -/
def bareLast? (ds : List PlainDeclaration) : Option PlainDeclaration :=
  ds.getLast?.filter fun d => decide d.IsBareAs

theorem bareLast?_cons_cons (d e : PlainDeclaration) (ds : List PlainDeclaration) :
    bareLast? (d :: e :: ds) = bareLast? (e :: ds) := by
  rw [bareLast?, bareLast?, List.getLast?_cons_cons]

theorem isBareAs_of_bareLast? {ds : List PlainDeclaration} {d : PlainDeclaration}
    (last : bareLast? ds = some d) : d.IsBareAs := by
  simpa using (Option.filter_eq_some_iff.mp last).2

/-- The defaults of a list are found one after another. A last declaration with a bare AS remains to be
read with what comes after the list. -/
theorem Lists.search {ds : List PlainDeclaration} {cs after : List Char} (lists : Lists ds cs)
    (closes : Closes after) :
    declarationsFrom 0 (cs ++ after) =
      (ds.filterMap fun d => d.default?.map d.reading) ++
        declarationsFrom 0 ((bareLast? ds).elim [] PlainDeclaration.text ++ after) := by
  induction lists with
  | nil => rfl
  | single d =>
    by_cases bare : d.IsBareAs
    · simp [bareLast?, Option.filter_some, bare, bare.default]
    · rw [d.search closes fun is => absurd is bare]
      cases given : d.default? <;> simp [bareLast?, Option.filter_some, bare, given]
  | cons d before next beforePlain nextPlain rest ih =>
    have quiet : '@' ∉ before.text ++ ',' :: next.text := by
      simp [Gap.quiet beforePlain, Gap.quiet nextPlain]
    have split (cs : List Char) : before.text ++ ',' :: (next.text ++ cs) =
        (before.text ++ ',' :: next.text) ++ cs := by simp
    rw [List.append_assoc, List.append_assoc, List.cons_append, List.append_assoc,
      d.search (closes_comma beforePlain _) fun _ =>
        PlainDeclaration.not_starts_type_sign beforePlain (by decide) (by decide) _,
      split, declarationsFrom_append quiet, ih, bareLast?_cons_cons]
    cases given : d.default? <;> simp [given]

/-- Under what name the default of a parameter is entered. -/
def PlainDeclaration.key (d : PlainDeclaration) : String :=
  String.ofList (Text.lowerChars d.parameterName)

/-- What a declaration contributes to the table of defaults. -/
def PlainDeclaration.entry? (d : PlainDeclaration) : Option (String × String) :=
  d.default?.map fun v => (d.key, String.ofList v.value.text)

/-- The text of a routine: a list of parameters with anything but an `@` before it, then AS and a
body. -/
structure RoutineText where
  head : List Char
  quiet : '@' ∉ head
  parameters : List PlainDeclaration
  list : List Char
  lists : Lists parameters list
  /-- No two names differ in case only. -/
  distinct : (parameters.map PlainDeclaration.key).Nodup
  gap : Gap
  gapPlain : gap.comments = []
  apart : gap.text ≠ []
  as : AsClause
  asPlain : as.gap.comments = []
  body : List Char

/-- The literal that a text gives if it goes on like a declaration behind its type. -/
def strayLiteral? (cs : List Char) : Option (List Char) :=
  (Declaration.atArguments (fun atLiteral =>
    (defaultLiteral atLiteral).map (consumed atLiteral)) cs).head?

/-- What a declaration that is found enters in the table of defaults. -/
def DefaultDeclaration.entry (d : DefaultDeclaration) : String × String :=
  (String.ofList (Text.lowerChars d.name), String.ofList d.literal)

theorem foldl_addNew_of_nodup {found : List DefaultDeclaration} {entries : List (String × String)}
    (distinct : ((entries ++ found.map DefaultDeclaration.entry).map Prod.fst).Nodup) :
    found.foldl (fun entries d => addNew entries d.entry.1 d.entry.2) entries =
      entries ++ found.map DefaultDeclaration.entry := by
  induction found generalizing entries with
  | nil => simp
  | cons d found ih =>
    have new : d.entry.1 ∉ entries.map Prod.fst := fun mem => by
      rw [List.map_append] at distinct
      exact List.disjoint_of_nodup_append distinct mem (by simp)
    have none : entries.lookup d.entry.1 = none := by
      refine List.lookup_eq_none_iff.mpr fun p mem => ?_
      rw [bne_iff_ne]
      exact fun same => new (same ▸ List.mem_map_of_mem mem)
    rw [List.foldl_cons, addNew, none, if_neg (by simp), ih (by simpa using distinct)]
    simp

/-- Where no name is found twice, the table holds what is found. -/
theorem parameterDefaults_of_nodup {cs : List Char}
    (distinct : (((declarationsFrom 0 cs).map DefaultDeclaration.entry).map Prod.fst).Nodup) :
    parameterDefaults (String.ofList cs) = (declarationsFrom 0 cs).map DefaultDeclaration.entry := by
  unfold parameterDefaults
  rw [String.toList_ofList]
  exact foldl_addNew_of_nodup distinct

/-- Each declaration with a default makes one entry. -/
theorem entries_sublist (ds : List PlainDeclaration) :
    ((ds.filterMap PlainDeclaration.entry?).map Prod.fst).Sublist (ds.map PlainDeclaration.key) := by
  induction ds with
  | nil => exact .refl _
  | cons d ds ih =>
    cases given : d.default? with
    | none => simpa [PlainDeclaration.entry?, given] using ih.cons d.key
    | some v => simpa [PlainDeclaration.entry?, given] using ih

namespace RoutineText

variable (r : RoutineText)

/-- What comes after the list of parameters. -/
def rest : List Char := r.gap.text ++ (r.as.text ++ r.body)

def text : List Char := r.head ++ (r.list ++ r.rest)

/-- The last parameter with the literal that the body gives it, if it is declared as a bare AS. -/
def stray? : Option (String × String) :=
  (bareLast? r.parameters).bind fun d =>
    (strayLiteral? (r.as.gap.text ++ r.body)).map fun literal => (d.key, String.ofList literal)

/-- The word AS behind the list. -/
def asPart : TypePart := r.as.keyword.part (by decide) (by decide)

theorem rest_eq : r.rest = r.gap.text ++ (r.asPart.text ++ (r.as.gap.text ++ r.body)) := by
  simp [rest, AsClause.text, asPart, Keyword.part, TypePart.text]

theorem closes_rest : Closes r.rest := by
  rw [rest_eq]
  exact closes_part r.gapPlain r.apart (r.as.keyword.not_is (by decide) (by decide) (by decide))
    (not_starts_word_gap r.as.apart _)

theorem search_text : declarationsFrom 0 r.text =
    (r.parameters.filterMap fun d => d.default?.map d.reading) ++
      declarationsFrom 0 ((bareLast? r.parameters).elim [] PlainDeclaration.text ++ r.rest) := by
  rw [text, declarationsFrom_append r.quiet]
  exact r.lists.search r.closes_rest

/-- The default of a parameter is the first one found under its name. -/
theorem firstNamed_parameter {d : PlainDeclaration} (mem : d ∈ r.parameters) {v : DeclaredDefault}
    (given : d.default? = some v) (later : List DefaultDeclaration) :
    firstNamed d.parameterName ((r.parameters.filterMap fun d => d.default?.map d.reading) ++ later) =
      some (d.reading v) := by
  have distinct := r.distinct
  generalize r.parameters = ds at mem distinct
  induction ds with
  | nil => cases mem
  | cons e ds ih =>
    rw [List.map_cons, List.nodup_cons] at distinct
    rcases List.mem_cons.mp mem with rfl | mem
    · simp [firstNamed, given, PlainDeclaration.reading]
    · have other : (Text.lowerChars e.parameterName == Text.lowerChars d.parameterName) = false := by
        rw [beq_eq_false_iff_ne]
        intro same
        refine distinct.1 (List.mem_map.mpr ⟨d, mem, ?_⟩)
        rw [PlainDeclaration.key, ← same]
        rfl
      have found := ih mem distinct.2
      unfold firstNamed at found ⊢
      cases default : e.default? with
      | none => simpa [default] using found
      | some w => simpa [default, PlainDeclaration.reading, other] using found

end RoutineText

theorem run_map {β γ : Type} (g : β → γ) (pattern : Pattern) (k : List Char → List β) :
    pattern.run (fun cs => (k cs).map g) = fun cs => (pattern.run k cs).map g :=
  funext fun _ => List.map_flatMap.symm

theorem atArguments_map {β γ : Type} (g : β → γ) (k : List Char → List β) :
    Declaration.atArguments (fun cs => (k cs).map g) =
      fun cs => (Declaration.atArguments k cs).map g := by
  unfold Declaration.atArguments Declaration.atVarying Declaration.atDefault
  rw [run_map, run_map, run_map]

/-- What literals at a place in the text of a declaration make of it. -/
theorem PlainDeclaration.head?_readings (d : PlainDeclaration) (after cs : List Char) :
    (Declaration.atArguments (d.readings after) cs).head?.map DefaultDeclaration.entry =
      (strayLiteral? cs).map fun literal => (d.key, String.ofList literal) := by
  rw [strayLiteral?, ← List.head?_map, ← List.head?_map]
  have maps : (fun atLiteral => (d.readings after atLiteral).map DefaultDeclaration.entry) =
      fun atLiteral => ((defaultLiteral atLiteral).map (consumed atLiteral)).map
        fun literal => (d.key, String.ofList literal) := by
    funext atLiteral
    rw [readings, List.map_map, List.map_map]
    rfl
  have both := congrArg (Declaration.atArguments · cs) maps
  simp only [atArguments_map] at both
  rw [both]

namespace RoutineText

variable (r : RoutineText)

/-- What is found at the last declaration, if it is one with a bare AS. -/
theorem search_bareLast (quiet : '@' ∉ r.body) :
    (declarationsFrom 0 ((bareLast? r.parameters).elim [] PlainDeclaration.text ++ r.rest)).map
      DefaultDeclaration.entry = r.stray?.toList := by
  have quietRest : '@' ∉ r.rest := by
    simp [rest, AsClause.text, Gap.quiet r.gapPlain, Gap.quiet r.asPlain, quiet,
      r.as.keyword.quiet (by decide)]
  unfold stray?
  cases last : bareLast? r.parameters with
  | none => simp [declarationsFrom_quiet quietRest]
  | some d =>
    have bare := isBareAs_of_bareLast? last
    have tail : '@' ∉ d.name.chars ++ (d.clauses ++ d.directionText) ++ r.rest := by
      simp [not_mem_of_all d.name.allWord (by decide), d.quiet_clauses bare.default,
        d.quiet_directionText, quietRest]
    have text : d.text ++ r.rest =
        '@' :: (d.name.chars ++ (d.clauses ++ d.directionText) ++ r.rest) := by
      simp [PlainDeclaration.text, PlainDeclaration.declared, PlainDeclaration.parameterName]
    have run : blank.run (Declaration.atType (d.readings r.rest)) r.rest =
        Declaration.atArguments (d.readings r.rest) (r.as.gap.text ++ r.body) :=
      (congrArg (blank.run (Declaration.atType (d.readings r.rest))) r.rest_eq).trans <|
        PlainDeclaration.blank_atType_part r.gapPlain r.apart r.asPart <|
          Declaration.not_starts_gap r.as.gap fun none => absurd none r.as.apart
    rw [Option.elim_some, text, declarationsFrom_quiet_tail tail, ← text,
      d.declaration?_eq r.closes_rest, if_pos bare, run, Option.bind_some, ← Option.toList_map]
    exact congrArg Option.toList (d.head?_readings r.rest (r.as.gap.text ++ r.body))

/-- No parameter is entered twice, and none under the name of another one. -/
theorem keys_sublist : ((r.parameters.filterMap PlainDeclaration.entry? ++ r.stray?.toList).map
    Prod.fst).Sublist (r.parameters.map PlainDeclaration.key) := by
  unfold stray?
  cases last : bareLast? r.parameters with
  | none => simpa using entries_sublist r.parameters
  | some d =>
    have bare := isBareAs_of_bareLast? last
    obtain ⟨front, split⟩ := List.getLast?_eq_some_iff.mp (Option.filter_eq_some_iff.mp last).1
    rw [split, List.filterMap_append, List.map_append, List.map_append, List.map_append]
    have none : [d].filterMap PlainDeclaration.entry? = [] := by
      simp [PlainDeclaration.entry?, bare.default]
    rw [none, List.map_nil, List.append_nil]
    refine (entries_sublist front).append ?_
    cases strayLiteral? (r.as.gap.text ++ r.body) <;> simp

/-- The table of defaults holds what the list declares. Whatever the body is, each declared default is
found under its name, and a body without an `@` adds nothing and leaves the order as it is, unless the
last declaration is a name and a bare AS: then the body may give it a default. -/
theorem parameterDefaults_text :
    (∀ d ∈ r.parameters, ∀ v ∈ d.default?,
      (parameterDefaults (String.ofList r.text)).lookup d.key = some (String.ofList v.value.text)) ∧
    ('@' ∉ r.body → parameterDefaults (String.ofList r.text) =
      r.parameters.filterMap PlainDeclaration.entry? ++ r.stray?.toList) := by
  constructor
  · intro d mem v given
    rw [PlainDeclaration.key, lookup_parameterDefaults, r.search_text,
      r.firstNamed_parameter mem given]
    rfl
  · intro quiet
    have found : (declarationsFrom 0 r.text).map DefaultDeclaration.entry =
        r.parameters.filterMap PlainDeclaration.entry? ++ r.stray?.toList := by
      rw [r.search_text, List.map_append, r.search_bareLast quiet, List.map_filterMap]
      simp only [Option.map_map]
      rfl
    have distinct : (((declarationsFrom 0 r.text).map DefaultDeclaration.entry).map Prod.fst).Nodup := by
      rw [found]
      exact r.distinct.sublist r.keys_sublist
    rw [parameterDefaults_of_nodup distinct, found]

end RoutineText

/-- `@TeamId int`. -/
def teamId : PlainDeclaration := .bare (.ofString "TeamId" (by decide)) (.ofString "int" (by decide))

/-- `@Count AS int = 10`. -/
def countTen : PlainDeclaration :=
  { PlainDeclaration.withDefault
      (.bare (.ofString "Count" (by decide)) (.ofString "int" (by decide)))
      (.run "10".toList (by decide) (List.all_eq_true.mp (by decide))) trivial with
    as? := some ⟨⟨"AS".toList, by decide⟩, .space, Gap.space_ne_nil⟩
    asPlain := fun _ given => by cases given; rfl }

/-- `@Note nvarchar(20) = N'it''s, @TeamId int = 5' OUTPUT`. -/
def note : PlainDeclaration :=
  { PlainDeclaration.withDefault
      (.bare (.ofString "Note" (by decide)) (.ofString "nvarchar" (by decide)))
      (.quoted ['N'] "it's, @TeamId int = 5".toList (.inr (by decide))) trivial with
    arguments? := some ⟨.white "" (by decide), "20".toList, List.all_eq_true.mp (by decide)⟩
    argumentsPlain := fun _ given => by cases given; exact ⟨rfl, by decide⟩
    direction? := some
      ⟨.space, Gap.space_ne_nil, "output".toList, by decide, ⟨"OUTPUT".toList, by decide⟩⟩
    directionPlain := fun _ given => by cases given; rfl }

/-- A procedure with three parameters. -/
def getUsers : RoutineText where
  head := "CREATE PROCEDURE dbo.GetUsers ".toList
  quiet := by decide
  parameters := [teamId, note, countTen]
  list := _
  lists := .cons teamId (.white "" (by decide)) .space rfl rfl <|
    .cons note .space (.white "\n  " (by decide)) rfl rfl <| .single countTen
  distinct := by decide +kernel
  gap := .white "\n" (by decide)
  gapPlain := rfl
  apart := by decide
  as := ⟨⟨"AS".toList, by decide⟩, .space, Gap.space_ne_nil⟩
  asPlain := rfl
  body := "SELECT 1".toList

example : String.ofList getUsers.text = "CREATE PROCEDURE dbo.GetUsers @TeamId int, " ++
    "@Note nvarchar(20) = N'it''s, @TeamId int = 5' OUTPUT ,\n  @Count AS int = 10\nAS SELECT 1" := by
  decide +kernel

theorem RoutineText.parameterDefaults_text_getUsers :
    note ∈ getUsers.parameters ∧ '@' ∉ getUsers.body ∧
      (parameterDefaults (String.ofList getUsers.text)).lookup "@note" =
        some "N'it''s, @TeamId int = 5'" ∧
      parameterDefaults (String.ofList getUsers.text) =
        [("@note", "N'it''s, @TeamId int = 5'"), ("@count", "10")] := by
  obtain ⟨found, only⟩ := getUsers.parameterDefaults_text
  have mem : note ∈ getUsers.parameters := .tail teamId (.head [countTen])
  have quiet : '@' ∉ getUsers.body := by decide
  have key : note.key = "@note" := by decide +kernel
  have entries : getUsers.parameters.filterMap PlainDeclaration.entry? ++ getUsers.stray?.toList =
      [("@note", "N'it''s, @TeamId int = 5'"), ("@count", "10")] := by decide +kernel
  have default := found note mem _ rfl
  rw [key] at default
  exact ⟨mem, quiet, default.trans (by decide +kernel), (only quiet).trans entries⟩

/-- `CREATE PROCEDURE p @a AS AS = 5`, with a bare AS for a type. -/
def strayRoutine : RoutineText where
  head := "CREATE PROCEDURE p ".toList
  quiet := by decide
  parameters := [.bare (.ofString "a" (by decide)) (.ofString "AS" (by decide))]
  list := _
  lists := .single _
  distinct := by decide +kernel
  gap := .space
  gapPlain := Gap.comments_space
  apart := Gap.space_ne_nil
  as := ⟨⟨"AS".toList, by decide⟩, .space, Gap.space_ne_nil⟩
  asPlain := rfl
  body := "= 5".toList

/-- The body of a routine gives a parameter a default that it does not declare. -/
theorem RoutineText.parameterDefaults_strays :
    String.ofList strayRoutine.text = "CREATE PROCEDURE p @a AS AS = 5" ∧ '@' ∉ strayRoutine.body ∧
      strayRoutine.parameters.filterMap PlainDeclaration.entry? = [] ∧
      parameterDefaults (String.ofList strayRoutine.text) = [("@a", "5")] := by
  refine ⟨by decide +kernel, by decide, by decide +kernel, by decide +kernel⟩

end SqlBindings.Sql
