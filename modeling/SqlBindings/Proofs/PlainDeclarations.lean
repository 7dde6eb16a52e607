import SqlBindings.Proofs.DeclarationSearch

/-!
Declarations whose parts are apart by white space alone. The word AS may be taken for a type, and a
type for the word AS; `PlainDeclaration.IsBareAs` is the one case in which that makes a difference.
-/

namespace SqlBindings.Sql

open Text (isWord isBlank isWord_of_isBlank isBlank_of_isWord)
open Pattern

/-- The words that tell which way a parameter is passed. -/
def directions : List (List Char) := ["output".toList, "out".toList, "readonly".toList]

/-- The direction after a declaration. -/
structure DirectionClause where
  gap : Gap
  apart : gap.text ≠ []
  letters : List Char
  known : letters ∈ directions
  keyword : Keyword letters

theorem DirectionClause.known_cases (o : DirectionClause) : o.letters.all Char.isLower = true ∧
    o.letters ≠ [] ∧ "varying".toList.length ≠ o.letters.length := by
  have all : ∀ letters ∈ directions, letters.all Char.isLower = true ∧ letters ≠ [] ∧
      "varying".toList.length ≠ letters.length := by decide
  exact all o.letters o.known

def DirectionClause.text (o : DirectionClause) : List Char := o.gap.text ++ o.keyword.chars

/-- A declaration of a parameter without comments. -/
structure PlainDeclaration where
  name : Word
  gap : Gap
  apart : gap.text ≠ []
  as? : Option AsClause
  schema? : Option TypePart
  type : TypePart
  arguments? : Option TypeArguments
  varying? : Option VaryingClause
  default? : Option DeclaredDefault
  direction? : Option DirectionClause
  gapPlain : gap.comments = []
  asPlain : ∀ a ∈ as?, a.gap.comments = []
  argumentsPlain : ∀ a ∈ arguments?, a.gap.comments = [] ∧ '@' ∉ a.inner
  varyingPlain : ∀ v ∈ varying?, v.gap.comments = []
  /-- The default is a number, a name or a string. -/
  defaultPlain : ∀ v ∈ default?, v.before.comments = [] ∧ v.IsPlain
  directionPlain : ∀ o ∈ direction?, o.gap.comments = []

/-- A name and a bare type. -/
def PlainDeclaration.bare (name type : Word) : PlainDeclaration where
  name
  gap := .space
  apart := Gap.space_ne_nil
  as? := none
  schema? := none
  type := ⟨type, false⟩
  arguments? := none
  varying? := none
  default? := none
  direction? := none
  gapPlain := Gap.comments_space
  asPlain := nofun
  argumentsPlain := nofun
  varyingPlain := nofun
  defaultPlain := nofun
  directionPlain := nofun

/-- A default after an equals sign between spaces. -/
def PlainDeclaration.withDefault (d : PlainDeclaration) (value : DefaultValue)
    (literal : value.IsLiteral) : PlainDeclaration :=
  { d with
    default? := some ⟨.space, .space, value⟩
    defaultPlain := fun _ given => by cases given; exact ⟨rfl, rfl, literal⟩ }

theorem TypePart.text_of_is {letters : List Char} (t : TypePart) (is : t.Is letters) :
    t.text = t.word.chars := by simp [text, is.1]

/-- What comes right after a declaration: white space or a comma, and then nothing that goes on with
it. -/
structure Closes (cs : List Char) : Prop where
  starts : Starts (fun c => isBlank c || c == ',') cs
  ends : Ends cs

section Closes

variable {cs : List Char}

theorem Closes.delimits (closes : Closes cs) : Delimits cs :=
  .inr (.inl (closes.starts.mono (by simp +contextual)))

theorem Closes.not_starts_goesOn (closes : Closes cs) : ¬ Starts Declaration.goesOn cs :=
  Declaration.Delimits.not_starts_goesOn closes.delimits

theorem Closes.not_starts_literal (closes : Closes cs) : ¬ Starts isLiteralChar cs :=
  not_starts_of_starts closes.starts fun c sign => by
    rw [Bool.or_eq_true, beq_iff_eq] at sign
    rcases sign with blank | rfl
    · by_contra literal
      simp [isBlank_of_isLiteralChar (by simpa using literal)] at blank
    · decide

theorem Pattern.Spells.length_eq {letters word : List Char} (spelled : Spells letters word) :
    letters.length = word.length := List.Forall₂.length_eq spelled

/-- A keyword as a bare word. -/
def Keyword.part {letters : List Char} (word : Keyword letters)
    (lower : letters.all Char.isLower = true) (ne : letters ≠ []) : TypePart where
  word := ⟨word.chars, List.length_pos_iff.mp (word.spelled.length_eq ▸ List.length_pos_iff.mpr ne),
    word.spelled.isWord lower⟩
  bracketed := false

theorem Keyword.not_is {letters other : List Char} (word : Keyword letters)
    (lower : letters.all Char.isLower = true) (ne : letters ≠ [])
    (differ : other.length ≠ letters.length) : ¬ (word.part lower ne).Is other :=
  fun is => differ (is.2.length_eq.trans word.spelled.length_eq.symm)

theorem Gap.text_of_plain {g : Gap} (plain : g.comments = []) : g.text = g.blanks := by
  rw [text, plain, List.append_nil]

theorem closes_comma {g : Gap} (plain : g.comments = []) (rest : List Char) :
    Closes (g.text ++ ',' :: rest) := by
  rw [g.text_of_plain plain]
  constructor
  · by_cases none : g.blanks = []
    · simp [none]
    · rw [starts_append none]
      exact (Starts.of_all none g.allBlank).mono (by simp +contextual)
  · refine .of_blanks g.allBlank (.of_not_starts ?_ ?_ ?_) <;> (rw [starts_cons]; decide)

/-- A bare word that is not VARYING ends a declaration. -/
theorem closes_part {g : Gap} (plain : g.comments = []) (apart : g.text ≠ []) {t : TypePart}
    (not : ¬ t.Is "varying".toList) (stop : ¬ Starts isWord cs) : Closes (g.text ++ (t.text ++ cs)) := by
  rw [g.text_of_plain plain] at apart ⊢
  constructor
  · rw [starts_append apart]
    exact (Starts.of_all apart g.allBlank).mono (by simp +contextual)
  · exact .of_blanks g.allBlank (Declaration.ends_part not stop)

theorem not_starts_word_gap {g : Gap} (apart : g.text ≠ []) (cs : List Char) :
    ¬ Starts isWord (g.text ++ cs) := fun starts =>
  Declaration.not_starts_gap g (fun none => absurd none apart)
    (starts.mono (by simp +contextual [Declaration.goesOn]))

end Closes

namespace PlainDeclaration

open Declaration

variable (d : PlainDeclaration)

def parameterName : List Char := '@' :: d.name.chars

def asText : List Char := d.as?.elim [] AsClause.text

/-- The declaration from the arguments of the type to the default. -/
def afterType : List Char :=
  d.arguments?.elim [] TypeArguments.text ++ (d.varying?.elim [] VaryingClause.text ++
    d.default?.elim [] DeclaredDefault.text)

def directionText : List Char := d.direction?.elim [] DirectionClause.text

/-- The declaration after its name, without the direction. -/
def clauses : List Char :=
  d.gap.text ++ (d.asText ++ (typeName d.schema? d.type ++ d.afterType))

/-- The declaration without its direction. -/
def declared : List Char := d.parameterName ++ d.clauses

def text : List Char := d.declared ++ d.directionText

/-- The declaration with a type in brackets in place of its own. -/
def retyped : Declaration where
  name := d.name
  gap := d.gap
  apart := d.apart
  as? := none
  schema? := none
  type := ⟨d.name, true⟩
  notAs := fun is => Bool.noConfusion is.1
  notVarying := fun is => Bool.noConfusion is.1
  arguments? := d.arguments?
  varying? := d.varying?
  default? := d.default?

variable {β : Type} {k : List Char → List β} {tail : List Char}

/-- What is read of a declaration from its default on. -/
def onward (k : List Char → List β) (tail : List Char) : List β :=
  d.default?.elim [] fun v => k (v.value.text ++ tail)

theorem retyped_followedBy (closes : Closes tail) : d.retyped.FollowedBy tail :=
  ⟨closes.delimits, fun _ => closes.ends⟩

theorem atArguments_afterType (closes : Closes tail) (stuck : Stuck k isBlank) :
    atArguments k (d.afterType ++ tail) = d.onward k tail := by
  have follows := d.retyped_followedBy closes
  have stages := ((d.retyped.passes_arguments follows).trans
    (d.retyped.passes_varying follows)).trans (d.retyped.passes_default follows stuck)
  rcases stages with ⟨-, run⟩ | ⟨blocked, -⟩
  · have assoc : d.afterType ++ tail = d.retyped.argumentsText ++ (d.retyped.varyingText ++
        (d.retyped.defaultText ++ tail)) := by
      simp [afterType, retyped, argumentsText, varyingText, defaultText]
    rw [assoc, run]
    show d.default?.elim [] _ = d.default?.elim [] _
    cases given : d.default? with
    | none => rfl
    | some v => rw [Option.elim_some, (d.defaultPlain v given).2.1, List.nil_append]; rfl
  · exact absurd ⟨⟨fun a given => (d.argumentsPlain a given).1, d.varyingPlain⟩,
      fun v given => (d.defaultPlain v given).1⟩ blocked

theorem not_starts_goesOn_afterType (closes : Closes tail) :
    ¬ Starts goesOn (d.afterType ++ tail) := by
  have stop := d.retyped.not_starts_afterType (d.retyped_followedBy closes)
  simpa [afterType, retyped, argumentsText, varyingText, defaultText] using stop

theorem typeName_none (type : TypePart) : typeName none type = type.text := by simp [typeName]

theorem typeName_some (s type : TypePart) (cs : List Char) :
    typeName (some s) type ++ cs = s.text ++ '.' :: (type.text ++ cs) := by simp [typeName]

theorem atDefault_suffix (k : List Char → List β) (cs : List Char) :
    atDefault k cs <:+ atArguments k cs := by
  have varying : atDefault k cs <:+ atVarying k cs := by
    unfold atVarying
    rw [run_optional]
    exact List.suffix_append _ _
  refine varying.trans ?_
  unfold atArguments
  rw [run_optional]
  exact List.suffix_append _ _

/-- Where a bare word is taken for the type, the type can only be taken for VARYING. -/
theorem atVarying_typeName {g : Gap} (plain : g.comments = []) (apart : g.text ≠ [])
    (schema? : Option TypePart) (type : TypePart) {cs : List Char} (stop : ¬ Starts goesOn cs) :
    atVarying k (g.text ++ (typeName schema? type ++ cs)) <:+ atArguments k cs := by
  have noWord : ¬ Starts isWord cs := fun starts => stop (starts.mono (by simp +contextual [goesOn]))
  by_cases varying : (schema?.getD type).Is "varying".toList
  · rw [g.text_of_plain plain] at apart ⊢
    cases schema? with
    | none =>
      rw [typeName_none, type.text_of_is varying,
        atVarying_keyword ⟨type.word.chars, varying.2⟩ apart g.allBlank cs]
      exact atDefault_suffix k cs
    | some s =>
      rw [typeName_some, s.text_of_is varying,
        atVarying_keyword ⟨s.word.chars, varying.2⟩ apart g.allBlank,
        stuck_atDefault _ (starts_cons.mpr (by decide))]
      exact List.nil_suffix
  · obtain ⟨rest, split, stop'⟩ := typeName_append schema? type noWord
    rw [split, atVarying_of_ends (closes_part plain apart varying stop').ends]
    exact List.nil_suffix

/-- No type is read behind white space where neither a word nor a bracket stands. -/
theorem blank_atType_of_not {cs : List Char}
    (not : ¬ Starts (fun c => isWord c || c == '[') (cs.dropWhile isBlank)) :
    blank.run (atType k) cs = [] := by
  have stuck : Stuck (atType k) isBlank := stuck_atType.mono fun c blank => by
    have : c ≠ '[' := by rintro rfl; exact absurd blank (by decide)
    simp [isWord_of_isBlank blank, this]
  unfold blank
  by_cases starts : Starts isBlank cs
  · rw [run_oneOrMore stuck starts, atType_of_not not]
  · exact run_oneOrMore_stuck starts

theorem not_starts_type_sign {g : Gap} (plain : g.comments = []) {c : Char}
    (notBlank : isBlank c = false) (noType : (isWord c || c == '[') = false) (rest : List Char) :
    ¬ Starts (fun c => isWord c || c == '[') ((g.text ++ c :: rest).dropWhile isBlank) := by
  rw [g.text_of_plain plain, dropWhile_run g.allBlank (by simp [notBlank])]
  simpa using noType

/-- No type is read behind white space where another sign stands. -/
theorem blank_atType_sign {g : Gap} (plain : g.comments = []) {c : Char} (notBlank : isBlank c = false)
    (noType : (isWord c || c == '[') = false) (rest : List Char) :
    blank.run (atType k) (g.text ++ c :: rest) = [] :=
  blank_atType_of_not (not_starts_type_sign plain notBlank noType rest)

/-- White space is left behind where a type begins. -/
theorem blank_gap {g : Gap} (plain : g.comments = []) (apart : g.text ≠ [])
    (stuck : Stuck k fun c => !isWord c && c != '[') {cs : List Char}
    (starts : Starts (fun c => isWord c || c == '[') cs) : blank.run k (g.text ++ cs) = k cs := by
  rcases passes_gap g apart stuck (not_starts_blank starts) with ⟨-, read⟩ | ⟨blocked, -⟩
  · exact read
  · exact absurd plain blocked

/-- A type is read behind white space. -/
theorem blank_atType_part {g : Gap} (plain : g.comments = []) (apart : g.text ≠ []) (t : TypePart)
    {cs : List Char} (stop : ¬ Starts goesOn cs) :
    blank.run (atType k) (g.text ++ (t.text ++ cs)) = atArguments k cs := by
  rw [blank_gap plain apart stuck_atType (starts_part t cs), atType_part t stop]

theorem closes_directionText {after : List Char} (closes : Closes after) :
    Closes (d.directionText ++ after) := by
  unfold directionText
  cases given : d.direction? with
  | none => exact closes
  | some o =>
    obtain ⟨lower, ne, differ⟩ := o.known_cases
    rw [Option.elim_some, DirectionClause.text, List.append_assoc]
    exact closes_part (d.directionPlain o given) o.apart (o.keyword.not_is lower ne differ)
      fun starts => closes.not_starts_goesOn (starts.mono (by simp +contextual [goesOn]))

/-- The declaration is a name and the bare word AS in place of a type. -/
structure IsBareAs : Prop where
  as : d.as? = none
  schema : d.schema? = none
  type : d.type.Is "as".toList
  arguments : d.arguments? = none
  varying : d.varying? = none
  default : d.default? = none
  direction : d.direction? = none

instance : Decidable d.IsBareAs :=
  decidable_of_iff (d.as? = none ∧ d.schema? = none ∧ d.type.Is "as".toList ∧ d.arguments? = none ∧
      d.varying? = none ∧ d.default? = none ∧ d.direction? = none)
    ⟨fun ⟨as, schema, type, arguments, varying, default, direction⟩ =>
        ⟨as, schema, type, arguments, varying, default, direction⟩,
      fun ⟨as, schema, type, arguments, varying, default, direction⟩ =>
        ⟨as, schema, type, arguments, varying, default, direction⟩⟩

/-- The declaration without anything between its type and its default. -/
def shortened : PlainDeclaration :=
  { d with
    arguments? := none
    varying? := none
    argumentsPlain := nofun
    varyingPlain := nofun }

/-- VARYING is taken for a type, and the default is found behind it. -/
theorem blank_afterType_varying (arguments : d.arguments? = none) {v : VaryingClause}
    (varying : d.varying? = some v) (closes : Closes tail) (stuck : Stuck k isBlank) :
    blank.run (atType k) (d.afterType ++ tail) = d.onward k tail := by
  let word := v.keyword.part (by decide) (by decide)
  have stop := d.shortened.not_starts_goesOn_afterType closes
  have text : d.afterType ++ tail = v.gap.text ++ (word.text ++ (d.shortened.afterType ++ tail)) := by
    simp [afterType, arguments, varying, VaryingClause.text, word, Keyword.part, TypePart.text,
      shortened]
  rw [text, blank_atType_part (d.varyingPlain v varying) v.apart word stop,
    d.shortened.atArguments_afterType closes stuck]
  rfl

/-- The direction is taken for a type, and nothing is read behind it. -/
theorem blank_directionText {o : DirectionClause} (direction : d.direction? = some o)
    {after : List Char} (closes : Closes after) :
    blank.run (atType k) (d.directionText ++ after) = [] := by
  obtain ⟨lower, ne, -⟩ := o.known_cases
  have text : d.directionText = o.gap.text ++ (o.keyword.part lower ne).text := by
    simp [directionText, direction, DirectionClause.text, Keyword.part, TypePart.text]
  rw [text, List.append_assoc, blank_atType_part (d.directionPlain o direction) o.apart
    (o.keyword.part lower ne) closes.not_starts_goesOn, atArguments_of_ends closes.ends]

/-- Where the type is taken for the word AS, what comes after it is read as the declared default or not
at all, if there is anything. -/
theorem blank_afterType {after : List Char} (closes : Closes after) (stuck : Stuck k isBlank) :
    blank.run (atType k) (d.afterType ++ (d.directionText ++ after)) = [] ∨
      blank.run (atType k) (d.afterType ++ (d.directionText ++ after)) =
        d.onward k (d.directionText ++ after) ∨
      d.arguments? = none ∧ d.varying? = none ∧ d.default? = none ∧ d.direction? = none := by
  cases arguments : d.arguments? with
  | some a =>
    left
    have opened := blank_atType_sign (k := k) (d.argumentsPlain a arguments).1 (c := '(') (by decide)
      (by decide)
    simp only [afterType, arguments, Option.elim_some, TypeArguments.text, List.append_assoc,
      List.cons_append]
    exact opened _
  | none =>
    cases varying : d.varying? with
    | some v =>
      right; left
      exact d.blank_afterType_varying arguments varying (d.closes_directionText closes) stuck
    | none =>
      cases default : d.default? with
      | some v =>
        left
        have equals := blank_atType_sign (k := k) (d.defaultPlain v default).1 (c := '=') (by decide)
          (by decide)
        simp only [afterType, arguments, varying, default, Option.elim_some, Option.elim_none,
          List.nil_append, DeclaredDefault.text, List.append_assoc, List.cons_append]
        exact equals _
      | none =>
        have text : d.afterType = [] := by simp [afterType, arguments, varying, default]
        cases direction : d.direction? with
        | none => exact .inr (.inr ⟨rfl, rfl, rfl, rfl⟩)
        | some o =>
          left
          rw [text, List.nil_append, d.blank_directionText direction closes]

theorem head?_append_suffix {xs ys : List β} (suffix : ys <:+ xs) : (xs ++ ys).head? = xs.head? := by
  cases xs with
  | nil => rw [List.suffix_nil.mp suffix]; rfl
  | cons x xs => rfl

/-- If the type is taken for the word AS, nothing else than the declared default is read. -/
theorem as_typeName (as : d.as? = none) (notBare : ¬ d.IsBareAs) {after : List Char}
    (closes : Closes after) (stuck : Stuck k isBlank) :
    (keyword "as".toList).run (blank.run (atType k)) (typeName d.schema? d.type ++
        (d.afterType ++ (d.directionText ++ after))) = [] ∨
      (keyword "as".toList).run (blank.run (atType k)) (typeName d.schema? d.type ++
        (d.afterType ++ (d.directionText ++ after))) = d.onward k (d.directionText ++ after) := by
  have stop := d.not_starts_goesOn_afterType (d.closes_directionText closes)
  have noWord : ¬ Starts isWord (d.afterType ++ (d.directionText ++ after)) := fun starts =>
    stop (starts.mono (by simp +contextual [goesOn]))
  by_cases isAs : (d.schema?.getD d.type).Is "as".toList
  · cases schema : d.schema? with
    | some s =>
      left
      rw [schema, Option.getD_some] at isAs
      rw [typeName_some, s.text_of_is isAs, run_keyword_append isAs.2]
      exact run_oneOrMore_stuck (by rw [starts_cons]; decide)
    | none =>
      rw [schema, Option.getD_none] at isAs
      rw [typeName_none, d.type.text_of_is isAs, run_keyword_append isAs.2]
      rcases d.blank_afterType closes stuck with none | same | ⟨arguments, varying, default, direction⟩
      · exact .inl none
      · exact .inr same
      · exact absurd ⟨as, schema, isAs, arguments, varying, default, direction⟩ notBare
  · left
    obtain ⟨rest, split, stop'⟩ := typeName_append d.schema? d.type noWord
    have stuckBlank : Stuck (blank.run (atType k)) isWord := fun cs word =>
      run_oneOrMore_stuck (not_starts_of_starts word fun c => isBlank_of_isWord)
    rw [split]
    exact run_keyword_part (by decide) (by decide) isAs stuckBlank stop'

/-- Of what comes after the type the default is read. -/
theorem atType_clauses (closes : Closes tail) (stuck : Stuck k isBlank) :
    atType k (typeName d.schema? d.type ++ (d.afterType ++ tail)) = d.onward k tail :=
  (atType_typeName d.schema? d.type (d.not_starts_goesOn_afterType closes)).trans
    (d.atArguments_afterType closes stuck)

/-- If the word AS is taken for the type, no other default is read. -/
theorem atType_asText {a : AsClause} (as : d.as? = some a) (closes : Closes tail)
    (stuck : Stuck k isBlank) :
    atType k (d.asText ++ (typeName d.schema? d.type ++ (d.afterType ++ tail))) <:+
      d.onward k tail := by
  have plain := d.asPlain a as
  let word := a.keyword.part (by decide) (by decide)
  have text : d.asText = word.text ++ a.gap.text := by
    simp [asText, as, AsClause.text, word, Keyword.part, TypePart.text]
  have noSign : ¬ Starts (· == '(') ((a.gap.text ++ (typeName d.schema? d.type ++
      (d.afterType ++ tail))).dropWhile isBlank) := by
    have starts := starts_typeName d.schema? d.type (d.afterType ++ tail)
    rw [a.gap.text_of_plain plain, dropWhile_run a.gap.allBlank (not_starts_blank starts)]
    exact not_starts_char starts (by decide)
  rw [text, List.append_assoc, atType_part word (not_starts_gap a.gap fun none => absurd none a.apart),
    atArguments_of_not noSign, ← d.atArguments_afterType closes stuck]
  exact atVarying_typeName plain a.apart d.schema? d.type (d.not_starts_goesOn_afterType closes)

/-- Behind the word AS the pattern goes on to the type. -/
theorem as_asText {a : AsClause} (as : d.as? = some a) (closes : Closes tail)
    (stuck : Stuck k isBlank) :
    (keyword "as".toList).run (blank.run (atType k))
        (d.asText ++ (typeName d.schema? d.type ++ (d.afterType ++ tail))) = d.onward k tail := by
  have text : d.asText = a.keyword.chars ++ a.gap.text := by simp [asText, as, AsClause.text]
  rw [text, List.append_assoc, run_keyword_append a.keyword.spelled, blank_gap (d.asPlain a as) a.apart
    stuck_atType (starts_typeName d.schema? d.type _), d.atType_clauses closes stuck]

theorem starts_asText (cs : List Char) :
    Starts (fun c => isWord c || c == '[') (d.asText ++ (typeName d.schema? d.type ++ cs)) := by
  unfold asText
  cases d.as? with
  | none => exact starts_typeName d.schema? d.type cs
  | some a =>
    have starts := starts_part (a.keyword.part (by decide) (by decide))
      (a.gap.text ++ (typeName d.schema? d.type ++ cs))
    simpa [AsClause.text, Keyword.part, TypePart.text] using starts

/-- From the name of a declaration the pattern arrives at its default first. Behind a bare AS it goes on
to a type. -/
theorem head?_declaredType {after : List Char} (closes : Closes after) (stuck : Stuck k isBlank) :
    (declaredType.run k (d.clauses ++ (d.directionText ++ after))).head? =
      if d.IsBareAs then (blank.run (atType k) after).head?
      else (d.onward k (d.directionText ++ after)).head? := by
  have closesTail := d.closes_directionText closes
  rw [declaredType_run]
  simp only [clauses, List.append_assoc]
  rw [blank_gap d.gapPlain d.apart stuck_atAs (d.starts_asText _)]
  unfold atAs
  rw [run_optional, run_followedBy]
  cases as : d.as? with
  | some a =>
    have notBare : ¬ d.IsBareAs := fun bare => Option.some_ne_none a (as.symm.trans bare.as)
    rw [if_neg notBare, d.as_asText as closesTail stuck,
      head?_append_suffix (d.atType_asText as closesTail stuck)]
  | none =>
    have text : d.asText = [] := by simp [asText, as]
    rw [text, List.nil_append, d.atType_clauses closesTail stuck]
    by_cases bare : d.IsBareAs
    · have texts : d.afterType = [] ∧ d.directionText = [] := by
        simp [afterType, directionText, bare.arguments, bare.varying, bare.default, bare.direction]
      have nothing : d.onward k (d.directionText ++ after) = [] := by simp [onward, bare.default]
      rw [if_pos bare, nothing, List.append_nil, bare.schema, typeName_none,
        d.type.text_of_is bare.type, run_keyword_append bare.type.2, texts.1, texts.2]
      rfl
    · rw [if_neg bare]
      rcases d.as_typeName as bare closes stuck with none | same
      · rw [none, List.nil_append]
      · rw [same, head?_append_suffix (List.suffix_refl _)]

/-- What is read at a declaration with a default. -/
def reading (v : DeclaredDefault) : DefaultDeclaration :=
  ⟨d.parameterName, v.value.text, d.declared.length⟩

/-- The declarations that literals from `atLiteral` on would make. -/
def readings (after atLiteral : List Char) : List DefaultDeclaration :=
  (defaultLiteral atLiteral).map fun remaining =>
    ⟨d.parameterName, consumed atLiteral remaining, (consumed (d.text ++ after) remaining).length⟩

theorem stuck_readings (after : List Char) : Stuck (d.readings after) isBlank := fun cs blank => by
  simp [readings, defaultLiteral_blank cs blank]

theorem declaration?_eq {after : List Char} (closes : Closes after) :
    declaration? (d.text ++ after) =
      if d.IsBareAs then (blank.run (atType (d.readings after)) after).head?
      else (d.onward (d.readings after) (d.directionText ++ after)).head? := by
  have text : d.text ++ after = '@' :: (d.name.chars ++ (d.clauses ++ (d.directionText ++ after))) := by
    simp [PlainDeclaration.text, declared, parameterName]
  have stop : ¬ Starts isWord (d.clauses ++ (d.directionText ++ after)) := by
    rw [clauses, List.append_assoc]
    exact not_starts_word_gap d.apart _
  rw [text, declaration?_name d.name stop, ← text,
    ← d.head?_declaredType closes (d.stuck_readings after)]
  rfl

/-- The literal of a default is read as it is written. -/
theorem head?_defaultLiteral {v : DeclaredDefault} (given : d.default? = some v) (closes : Closes tail) :
    (defaultLiteral (v.value.text ++ tail)).head? = some tail := by
  obtain ⟨-, plain⟩ := d.defaultPlain v given
  have read := DeclaredDefault.head?_plain plain closes.delimits
  have whole : v.value.behind tail = tail := by
    cases v.value with
    | run => exact dropWhile_of_not_starts closes.not_starts_literal
    | quoted | other => rfl
  rwa [whole, DeclaredDefault.atValue, plain.1, List.nil_append] at read

theorem head?_onward {after : List Char} (closes : Closes after) :
    (d.onward (d.readings after) (d.directionText ++ after)).head? = d.default?.map d.reading := by
  unfold onward
  cases given : d.default? with
  | none => rfl
  | some v =>
    have read := d.head?_defaultLiteral given (d.closes_directionText closes)
    have width : consumed (d.text ++ after) (d.directionText ++ after) = d.declared := by
      rw [PlainDeclaration.text, List.append_assoc, consumed_append]
    rw [Option.elim_some, readings, List.head?_map, read, Option.map_some, consumed_append, width]
    rfl

/-- A declaration is read exactly if it has a default, and then its literal is what is written. -/
theorem declaration?_text {after : List Char} (closes : Closes after)
    (noType : d.IsBareAs → ¬ Starts (fun c => isWord c || c == '[') (after.dropWhile isBlank)) :
    declaration? (d.text ++ after) = d.default?.map d.reading := by
  rw [d.declaration?_eq closes]
  by_cases bare : d.IsBareAs
  · rw [if_pos bare, blank_atType_of_not (noType bare), bare.default]
    rfl
  · rw [if_neg bare, d.head?_onward closes]

end PlainDeclaration

end SqlBindings.Sql
