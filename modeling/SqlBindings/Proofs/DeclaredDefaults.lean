import SqlBindings.Proofs.DeclaredTypes
import SqlBindings.Proofs.DefaultLiterals

namespace SqlBindings.Sql

open Text (isWord isBlank isWord_of_isBlank isBlank_of_isWord ne_of_isWord)
open Pattern

variable {cs after : List Char}

@[simp] theorem consumed_append (us rest : List Char) : consumed (us ++ rest) rest = us := by
  simp [consumed]

theorem consumed_dropWhile {p : Char → Bool} : consumed cs (cs.dropWhile p) = cs.takeWhile p := by
  have read := consumed_append (cs.takeWhile p) (cs.dropWhile p)
  rwa [List.takeWhile_append_dropWhile] at read

theorem defaultLiteral_blank : Stuck defaultLiteral isBlank := by
  intro cs blank
  have noQuote : ¬ Starts (· == '\'') cs := not_starts_char blank (by decide)
  refine defaultLiteral_stuck (quotedLiteral_of_not noQuote fun mark => ?_) ?_
  · exact absurd mark (not_starts_of_starts blank fun c holds => by
      by_contra same
      have letter : Text.equalsLetter 'n' c = true := by simpa using same
      have word := Text.isWord_of_equalsLetter (by decide) letter
      simp [isWord_of_isBlank holds] at word)
  · exact not_starts_of_starts blank fun c holds => by
      by_contra literal
      simp [isBlank_of_isLiteralChar (by simpa using literal)] at holds

/-- A name is read to its end, and the default is looked for behind it. -/
theorem declaration?_name (name : Word) {rest : List Char} (stop : ¬ Starts isWord rest) :
    declaration? ('@' :: (name.chars ++ rest)) =
      (declaredType.run (fun atLiteral => (defaultLiteral atLiteral).map fun remaining =>
        (⟨'@' :: name.chars, consumed atLiteral remaining,
          (consumed ('@' :: (name.chars ++ rest)) remaining).length⟩ : DefaultDeclaration))
        rest).head? := by
  obtain ⟨chars, ne, all⟩ := name
  unfold declaration?
  congr 1
  have consumedName : consumed ('@' :: (chars ++ rest)) rest = '@' :: chars :=
    consumed_append ('@' :: chars) rest
  set text := '@' :: (chars ++ rest) with textEq
  have stuck : Stuck (fun afterName => (declaredType afterName).flatMap fun atLiteral =>
      (defaultLiteral atLiteral).map fun remaining =>
        (⟨consumed text afterName, consumed atLiteral remaining,
          (consumed text remaining).length⟩ : DefaultDeclaration)) isWord := by
    intro cs word
    show declaredType.run _ cs = []
    rw [Declaration.declaredType_run]
    exact run_oneOrMore_stuck (not_starts_of_starts word fun c => isBlank_of_isWord)
  show parameterName.run _ text = _
  rw [textEq, parameterName, run_followedBy, run_char_cons, if_pos rfl,
    run_oneOrMore_append stuck ne all stop, ← textEq, consumedName]
  rfl

def DefaultValue.IsLiteral : DefaultValue → Prop
  | .other .. => False
  | _ => True

/-- The number or name that goes on with a value where none should. -/
def DefaultValue.glued : DefaultValue → List Char → List Char
  | .run .., after => after.takeWhile isLiteralChar
  | _, _ => []

def DefaultValue.behind : DefaultValue → List Char → List Char
  | .run .., after => after.dropWhile isLiteralChar
  | _, after => after

theorem DefaultValue.glued_append_behind (v : DefaultValue) (after : List Char) :
    v.glued after ++ v.behind after = after := by
  cases v with
  | run => exact List.takeWhile_append_dropWhile
  | quoted | other => rfl

theorem Delimits.not_starts_quote (delimits : Delimits after) : ¬ Starts (· == '\'') after := by
  rcases delimits with rfl | starts | opens
  · simp
  · exact not_starts_char starts (by decide)
  · exact opens.not_starts (by decide) (by decide)

/-- Of what may follow a default only a line comment goes on with a number or a name. -/
theorem Delimits.starts_literal (delimits : Delimits after) :
    Starts isLiteralChar after ↔ ['-', '-'] <+: after := by
  constructor
  · intro starts
    rcases delimits with rfl | other | opens
    · simp at starts
    · refine absurd starts (not_starts_of_starts other fun c sign => ?_)
      simp only [Bool.or_eq_true, beq_iff_eq] at sign
      rcases sign with (blank | rfl) | rfl
      · by_contra literal
        simp [isBlank_of_isLiteralChar (by simpa using literal)] at blank
      all_goals decide
    · cases opens with
      | line rest => simp
      | block rest => exact absurd starts (by rw [starts_cons]; decide)
  · rintro ⟨rest, rfl⟩
    simp [isLiteralChar]

namespace DeclaredDefault

variable (v : DeclaredDefault)

/-- What stands after the equals sign and the white space there. -/
def atValue (after : List Char) : List Char := v.after.comments ++ (v.value.text ++ after)

/-- No comment comes before the value, and the value is a literal. -/
def IsPlain : Prop := v.after.comments = [] ∧ v.value.IsLiteral

/-- A literal is read for the default: the value, or the line comment before it. -/
def IsRead : Prop := v.IsPlain ∨ Starts (· == '-') v.after.comments

/-- A plain default is read up to its end, with the number or name that is glued to it. -/
theorem head?_plain {v : DeclaredDefault} (plain : v.IsPlain) (delimits : Delimits after) :
    (defaultLiteral (v.atValue after)).head? = some (v.value.behind after) := by
  obtain ⟨none, literal⟩ := plain
  unfold atValue
  rw [none, List.nil_append]
  cases value : v.value with
  | run chars ne all =>
    have starts : Starts isLiteralChar (chars ++ after) := (starts_append ne).mpr (.of_all ne all)
    have noQuote : ¬ Starts (· == '\'') (chars ++ after) := not_starts_char starts (by decide)
    have noMark : ¬ Starts (· == '\'') (chars ++ after).tail := by
      obtain ⟨c, chars, rfl⟩ := List.exists_cons_of_ne_nil ne
      rw [List.cons_append, List.tail_cons]
      cases chars with
      | nil => exact Delimits.not_starts_quote delimits
      | cons d chars =>
        have literal := all d (by simp)
        rw [List.cons_append, starts_cons, beq_iff_eq]
        rintro rfl
        exact absurd literal (by decide)
    rw [DefaultValue.text, head?_defaultLiteral (quotedLiteral_of_not noQuote fun _ => noMark) starts,
      List.dropWhile_append_of_pos all]
    rfl
  | quoted mark inner marked =>
    simp only [DefaultValue.text, List.append_assoc, List.cons_append, List.nil_append]
    exact head?_quoted marked inner (Delimits.not_starts_quote delimits)
  | other => simp [value, DefaultValue.IsLiteral] at literal

/-- A line comment in front of the value is read for the value. -/
theorem head?_commented {v : DeclaredDefault} (dashes : Starts (· == '-') v.after.comments)
    (after : List Char) :
    (defaultLiteral (v.atValue after)).head? = some ((v.atValue after).dropWhile isLiteralChar) := by
  obtain ⟨c, rest, comments, dash⟩ := dashes
  obtain rfl : c = '-' := by simpa using dash
  have opens := v.after.opened (by simp [comments])
  rw [comments] at opens
  cases opens with
  | line rest =>
    unfold atValue
    rw [comments]
    exact head?_defaultLiteral (quotedLiteral_of_not (by simp) fun _ => by simp)
      (starts_cons.mpr (by decide))

theorem head?_unread {v : DeclaredDefault} (unread : ¬ v.IsRead) (after : List Char) :
    (defaultLiteral (v.atValue after)).head? = none := by
  have nothing : defaultLiteral (v.atValue after) = [] := by
    unfold atValue
    by_cases none : v.after.comments = []
    · cases value : v.value with
      | run => exact absurd (.inl ⟨none, by simp [value, DefaultValue.IsLiteral]⟩) unread
      | quoted => exact absurd (.inl ⟨none, by simp [value, DefaultValue.IsLiteral]⟩) unread
      | other first rest notBlank notQuote notLiteral =>
        rw [none, List.nil_append, DefaultValue.text, List.cons_append]
        have noMark : ¬ Text.equalsLetter 'n' first = true := fun same => by
          have word := Text.isWord_of_equalsLetter (by decide) same
          simp [isLiteralChar, word] at notLiteral
        exact defaultLiteral_stuck (quotedLiteral_of_not (by simpa using notQuote) fun mark =>
          absurd (starts_cons.mp mark) noMark) (by simpa using notLiteral)
    · have opens := v.after.opened none
      cases comments : v.after.comments with
      | nil => exact absurd comments none
      | cons c rest =>
        rw [comments] at opens
        cases opens with
        | line rest => exact absurd (.inr (by simp [comments])) unread
        | block rest =>
          exact defaultLiteral_stuck (quotedLiteral_of_not (by simp) fun mark =>
            absurd (starts_cons.mp mark) (by decide)) (by rw [List.cons_append, starts_cons]; decide)
  rw [nothing]
  rfl

theorem atValue_plain {v : DeclaredDefault} (plain : v.IsPlain) (after : List Char) :
    v.atValue after = (v.value.text ++ v.value.glued after) ++ v.value.behind after := by
  rw [atValue, plain.1, List.nil_append, List.append_assoc, v.value.glued_append_behind]

/-- A text with a sign that is no letter is not the literal NULL. -/
theorem not_isNullLiteral {cs : List Char} {sign : Char} (mem : sign ∈ cs)
    (other : sign.toLower ∉ "null".toList) (first : ¬ Starts isBlank cs)
    (last : ¬ Starts isBlank cs.reverse) :
    ¬ Attribute.isNullLiteral (String.ofList cs) = true := by
  rw [Attribute.isNullLiteral_iff first last]
  intro null
  exact other (null ▸ List.mem_map_of_mem mem)

theorem not_starts_of_all {p q : Char → Bool} (all : ∀ c ∈ cs, p c = true)
    (apart : ∀ c, p c = true → q c = false) : ¬ Starts q cs := by
  rintro ⟨c, rest, rfl, holds⟩
  simp [apart c (all c (by simp))] at holds

theorem literal_ends (all : ∀ c ∈ cs, isLiteralChar c = true) :
    ¬ Starts isBlank cs ∧ ¬ Starts isBlank cs.reverse :=
  ⟨not_starts_of_all all fun c => isBlank_of_isLiteralChar,
    not_starts_of_all (by simpa using all) fun c => isBlank_of_isLiteralChar⟩

/-- A name that is read is NULL, unless the dashes after it are read with it. -/
theorem isNullLiteral_run {chars : List Char} (all : ∀ c ∈ chars, isLiteralChar c = true)
    (delimits : Delimits after) :
    Attribute.isNullLiteral (String.ofList (chars ++ after.takeWhile isLiteralChar)) = true ↔
      chars.map Char.toLower = "null".toList ∧ ¬ ['-', '-'] <+: after := by
  have allGlued : ∀ c ∈ chars ++ after.takeWhile isLiteralChar, isLiteralChar c = true := by
    intro c mem
    rcases List.mem_append.mp mem with mem | mem
    · exact all c mem
    · exact List.all_eq_true.mp List.all_takeWhile c mem
  obtain ⟨first, last⟩ := literal_ends allGlued
  by_cases dashes : ['-', '-'] <+: after
  · obtain ⟨rest, rfl⟩ := dashes
    have mem : '-' ∈ chars ++ (['-', '-'] ++ rest).takeWhile isLiteralChar := by
      simp [isLiteralChar]
    simpa using not_isNullLiteral mem (by decide) first last
  · have none : after.takeWhile isLiteralChar = [] :=
      takeWhile_of_not_starts fun starts => dashes (delimits.starts_literal.mp starts)
    rw [none, List.append_nil] at first last ⊢
    simp [Attribute.isNullLiteral_iff first last, dashes]

/-- A string is not NULL, whatever it holds. -/
theorem not_isNullLiteral_quoted (mark inner : List Char) (marked : mark = [] ∨ Spells ['n'] mark) :
    ¬ Attribute.isNullLiteral
      (String.ofList (DefaultValue.quoted mark inner marked).text) = true := by
  have first := (DefaultValue.quoted mark inner marked).not_starts_blank []
  rw [List.append_nil] at first
  have last : ¬ Starts isBlank (DefaultValue.quoted mark inner marked).text.reverse := by
    simp only [DefaultValue.text, List.reverse_append, List.reverse_cons, List.reverse_nil,
      List.nil_append, List.cons_append, starts_cons]
    decide
  have quote : '\'' ∈ (DefaultValue.quoted mark inner marked).text := by simp [DefaultValue.text]
  exact not_isNullLiteral quote (by decide) first last

theorem not_isNullLiteral_dashes (dashes : Starts (· == '-') cs) :
    ¬ Attribute.isNullLiteral (String.ofList (cs.takeWhile isLiteralChar)) = true := by
  obtain ⟨first, last⟩ := literal_ends (List.all_eq_true.mp (List.all_takeWhile (l := cs)))
  obtain ⟨c, rest, rfl, dash⟩ := dashes
  obtain rfl : c = '-' := by simpa using dash
  exact not_isNullLiteral (by simp [isLiteralChar] : '-' ∈ _) (by decide) first last

/-- What is read counts as NULL if the default is NULL and nothing is glued to it. -/
theorem isNullLiteral_iff {v : DeclaredDefault} {rest : List Char} (delimits : Delimits after)
    (found : (defaultLiteral (v.atValue after)).head? = some rest) :
    Attribute.isNullLiteral (String.ofList (consumed (v.atValue after) rest)) = true ↔
      v.after.comments = [] ∧ v.value.IsNull ∧ ¬ ['-', '-'] <+: after := by
  by_cases plain : v.IsPlain
  · obtain rfl := Option.some.inj ((head?_plain plain delimits).symm.trans found)
    rw [atValue_plain plain, consumed_append]
    cases value : v.value with
    | run chars ne all =>
      simpa [DefaultValue.text, DefaultValue.glued, DefaultValue.IsNull, plain.1] using
        isNullLiteral_run all delimits
    | quoted mark inner marked =>
      have nothing : (DefaultValue.quoted mark inner marked).glued after = [] := rfl
      rw [nothing, List.append_nil]
      simpa [DefaultValue.IsNull] using not_isNullLiteral_quoted mark inner marked
    | other => exact absurd plain.2 (by simp [value, DefaultValue.IsLiteral])
  · have dashes : Starts (· == '-') v.after.comments := by
      by_contra none
      rw [head?_unread (fun read => read.elim plain none)] at found
      cases found
    obtain rfl := Option.some.inj ((head?_commented dashes after).symm.trans found)
    have ne : v.after.comments ≠ [] := by
      intro none
      simp [none] at dashes
    have starts : Starts (· == '-') (v.atValue after) := (starts_append ne).mpr dashes
    rw [consumed_dropWhile]
    simpa [ne] using not_isNullLiteral_dashes starts

end DeclaredDefault

namespace Declaration

variable (d : Declaration)

/-- A default is read at the declaration. -/
def IsRead : Prop := d.Uninterrupted ∧ ∃ v ∈ d.default?, v.IsRead

/-- The whole declaration is read as one with a default. -/
def IsPlain : Prop := d.Uninterrupted ∧ ∃ v ∈ d.default?, v.IsPlain

/-- The declaration says NULL, no comment comes before the NULL, and no dashes come right after it. -/
structure ReadsNull (after : List Char) : Prop where
  declared : d.DeclaresNull
  uninterrupted : d.Uninterrupted
  plain : ∀ v ∈ d.default?, v.after.comments = []
  apart : ¬ ['-', '-'] <+: after

theorem ReadsNull.isRead {d : Declaration} (null : d.ReadsNull after) : d.IsRead := by
  obtain ⟨v, given, isNull⟩ := null.declared
  refine ⟨null.uninterrupted, v, given, .inl ⟨null.plain v given, ?_⟩⟩
  cases value : v.value with
  | run | quoted => trivial
  | other => simp [value, DefaultValue.IsNull] at isNull

theorem not_starts_word_clauses : ¬ Starts isWord (d.clauses ++ after) := by
  have notWord : ¬ Starts goesOn (d.clauses ++ after) := by
    simp only [clauses, List.append_assoc]
    exact not_starts_gap d.gap fun none => absurd none d.apart
  exact fun starts => notWord (starts.mono (by simp +contextual [goesOn]))

/-- The reading of a declaration at whose default a literal was read. -/
def reading (v : DeclaredDefault) (after rest : List Char) : DefaultDeclaration :=
  ⟨d.parameterName, consumed (v.atValue after) rest, (consumed (d.text ++ after) rest).length⟩

/-- What a declaration is read as when a text comes after it. -/
theorem declaration?_text {d : Declaration} (follows : d.FollowedBy after) :
    d.Uninterrupted ∧ declaration? (d.text ++ after) = (d.default?.bind fun v =>
      (defaultLiteral (v.atValue after)).head?.map (d.reading v after)) ∨
    ¬ d.Uninterrupted ∧ declaration? (d.text ++ after) = none := by
  have text : d.text ++ after = '@' :: (d.name.chars ++ (d.clauses ++ after)) := by
    simp [Declaration.text, parameterName]
  have stuck {β : Type} (f : List Char → List Char → β) :
      Stuck (fun atLiteral => (defaultLiteral atLiteral).map (f atLiteral)) isBlank :=
    fun cs blank => by simp [defaultLiteral_blank cs blank]
  unfold reading
  rw [text, declaration?_name d.name (not_starts_word_clauses d)]
  rcases d.run_declaredType follows (stuck _) with ⟨u, run⟩ | ⟨interrupted, run⟩
  · refine .inl ⟨u, ?_⟩
    rw [run]
    cases d.default? with
    | none => rfl
    | some v => simp [List.head?_map, parameterName, DeclaredDefault.atValue]
  · exact .inr ⟨interrupted, by rw [run]; rfl⟩

/-- A declaration is read exactly if it can be. -/
theorem read_or_unread {d : Declaration} (follows : d.FollowedBy after) :
    (d.IsRead ∧ ∃ v ∈ d.default?, ∃ rest, (defaultLiteral (v.atValue after)).head? = some rest ∧
      declaration? (d.text ++ after) = some (d.reading v after rest)) ∨
    ¬ d.IsRead ∧ declaration? (d.text ++ after) = none := by
  rcases declaration?_text follows with ⟨u, text⟩ | ⟨interrupted, text⟩
  · cases given : d.default? with
    | none => exact .inr ⟨fun ⟨_, v, mem, _⟩ => by simp [given] at mem, by rw [text, given]; rfl⟩
    | some v =>
      rw [given, Option.bind_some] at text
      by_cases read : v.IsRead
      · refine .inl ⟨⟨u, v, given, read⟩, v, rfl, ?_⟩
        obtain ⟨rest, found⟩ : ∃ rest, (defaultLiteral (v.atValue after)).head? = some rest := by
          rcases read with plain | dashes
          · exact ⟨_, DeclaredDefault.head?_plain plain follows.delimits⟩
          · exact ⟨_, DeclaredDefault.head?_commented dashes after⟩
        exact ⟨rest, found, by rw [text, found]; rfl⟩
      · refine .inr ⟨fun ⟨_, w, mem, readW⟩ => ?_, ?_⟩
        · obtain rfl : v = w := by simpa [given] using mem
          exact read readW
        · rw [text, DeclaredDefault.head?_unread read]
          rfl
  · exact .inr ⟨fun read => interrupted read.1, text⟩

/-- Whether NULL is read, by the declaration and what comes right after it. -/
theorem isNullLiteral_reading {d : Declaration} {v : DeclaredDefault} {rest : List Char}
    (follows : d.FollowedBy after) (read : d.IsRead) (given : v ∈ d.default?)
    (found : (defaultLiteral (v.atValue after)).head? = some rest) :
    Attribute.isNullLiteral (String.ofList (d.reading v after rest).literal) = true ↔
      d.ReadsNull after := by
  have null := DeclaredDefault.isNullLiteral_iff follows.delimits found
  unfold reading
  rw [null]
  constructor
  · rintro ⟨plain, null, apart⟩
    refine ⟨⟨v, given, null⟩, read.1, fun w mem => ?_, apart⟩
    obtain rfl : v = w := Option.some.inj (given.symm.trans mem)
    exact plain
  · rintro ⟨⟨w, mem, null⟩, -, plain, apart⟩
    obtain rfl : v = w := Option.some.inj (given.symm.trans mem)
    exact ⟨plain v given, null, apart⟩

end Declaration

end SqlBindings.Sql
