import SqlBindings.Proofs.DeclaredDefaults

/-!
The search through the text of a routine takes the declarations it can read from left to right. Text
without an `@` adds nothing, and mentions without a default add nothing either.
-/

namespace SqlBindings.Sql

open Text (isWord isBlank isWord_of_isBlank isBlank_of_isWord ne_of_isWord)
open Pattern

variable {cs after : List Char}

theorem declarationsFrom_skip (skip : Nat) (cs : List Char) :
    declarationsFrom skip cs = declarationsFrom 0 (cs.drop skip) := by
  induction cs generalizing skip with
  | nil => simp [declarationsFrom]
  | cons c cs ih =>
    cases skip with
    | zero => rfl
    | succ skip => rw [declarationsFrom, ih, List.drop_succ_cons]

theorem declarationsFrom_some {d : DefaultDeclaration} (found : declaration? cs = some d)
    (wide : 0 < d.width) :
    declarationsFrom 0 cs = d :: declarationsFrom 0 (cs.drop d.width) := by
  cases cs with
  | nil => cases found
  | cons c cs =>
    obtain ⟨width, same⟩ : ∃ width, d.width = width + 1 := Nat.exists_eq_add_one.mpr wide
    rw [declarationsFrom, found, same, List.drop_succ_cons]
    exact congrArg (d :: ·) (by rw [declarationsFrom_skip, same, Nat.add_sub_cancel])

/-- A reading at the front of a text is found first. -/
theorem declarationsFrom_cons {d : DefaultDeclaration} (found : declaration? cs = some d) :
    ∃ later, declarationsFrom 0 cs = d :: later := by
  cases cs with
  | nil => cases found
  | cons c cs => exact ⟨declarationsFrom (d.width - 1) cs, by rw [declarationsFrom, found]⟩

theorem declarationsFrom_none (none : declaration? cs = none) :
    declarationsFrom 0 cs = declarationsFrom 0 cs.tail := by
  cases cs with
  | nil => rfl
  | cons c cs => rw [declarationsFrom, none, List.tail_cons]

/-- Text without an `@` is passed over. -/
theorem declarationsFrom_append {us : List Char} (quiet : '@' ∉ us) (cs : List Char) :
    declarationsFrom 0 (us ++ cs) = declarationsFrom 0 cs := by
  induction us with
  | nil => rfl
  | cons u us ih =>
    obtain ⟨notAt, quiet⟩ : '@' ≠ u ∧ '@' ∉ us := by simpa using quiet
    have none : declaration? (u :: us ++ cs) = none := by
      have nothing : parameterName (u :: (us ++ cs)) = [] := by
        rw [apply_eq_run parameterName, parameterName, run_followedBy, run_char_cons,
          if_neg (Ne.symm notAt)]
      simp [declaration?, nothing]
    rw [declarationsFrom_none none, List.cons_append, List.tail_cons, ih quiet]

/-- A text in which neither an equals sign nor a parenthesis comes before the next `@`. -/
def Quiet (cs : List Char) : Prop :=
  ∃ us rest, cs = us ++ rest ∧ '@' ∉ us ∧ '=' ∉ us ∧ '(' ∉ us ∧ (rest = [] ∨ Starts (· == '@') rest)

/-- `f` reads nothing from a quiet text. -/
def Silent {β : Type} (f : List Char → List β) : Prop := ∀ cs, Quiet cs → f cs = []

section Silent
variable {β : Type} {f : List Char → List β} {p : Char → Bool}

theorem Quiet.of_cons {c : Char} (quiet : Quiet (c :: cs)) (notAt : c ≠ '@') : Quiet cs := by
  obtain ⟨us, rest, split, noAt, noEquals, noOpening, next⟩ := quiet
  cases us with
  | nil =>
    rw [List.nil_append] at split
    rcases next with rfl | ⟨d, tail, rfl, isAt⟩
    · cases split
    · obtain ⟨rfl, rfl⟩ := List.cons.inj split
      exact absurd (by simpa using isAt) notAt
  | cons u us =>
    obtain ⟨rfl, rfl⟩ := List.cons.inj split
    exact ⟨us, rest, rfl, fun mem => noAt (by simp [mem]), fun mem => noEquals (by simp [mem]),
      fun mem => noOpening (by simp [mem]), next⟩

theorem Silent.one (silent : Silent f) (noAt : p '@' = false) : Silent ((one p).run f) := by
  intro cs quiet
  cases cs with
  | nil => rfl
  | cons c cs =>
    rw [run_one_cons]
    split
    case isTrue holds => exact silent cs (quiet.of_cons (by rintro rfl; simp [noAt] at holds))
    case isFalse => rfl

theorem Silent.optional {pattern : Pattern} (taken : Silent (pattern.run f)) (left : Silent f) :
    Silent ((optional pattern).run f) := by
  intro cs quiet
  rw [run_optional, taken cs quiet, left cs quiet, List.append_nil]

theorem Silent.many (silent : Silent f) (noAt : p '@' = false) : Silent ((many p).run f) := by
  intro cs quiet
  induction cs with
  | nil => simpa [run, Pattern.many] using silent [] quiet
  | cons c cs ih =>
    have here := silent (c :: cs) quiet
    by_cases holds : p c = true
    · have later := ih (quiet.of_cons (by rintro rfl; simp [noAt] at holds))
      simpa [run, Pattern.many, holds, List.flatMap_append, here] using later
    · simpa [run, Pattern.many, holds] using here

theorem Silent.oneOrMore (silent : Silent f) (noAt : p '@' = false) :
    Silent ((oneOrMore p).run f) := by
  unfold Pattern.oneOrMore
  rw [run_followedBy]
  exact (silent.many noAt).one noAt

theorem Silent.keyword (silent : Silent f) {letters : List Char}
    (lower : letters.all Char.isLower = true) : Silent ((keyword letters).run f) := by
  induction letters with
  | nil => simpa [Silent, Pattern.keyword, run] using silent
  | cons letter letters ih =>
    rw [List.all_cons, Bool.and_eq_true] at lower
    unfold Pattern.keyword
    rw [run_followedBy]
    refine (ih lower.2).one ?_
    by_contra same
    have word := Text.isWord_of_equalsLetter lower.1 (by simpa using same)
    exact absurd word (by decide)

/-- A sign that is not in quiet texts is not read there. -/
theorem silent_char {sign : Char} (other : sign = '=' ∨ sign = '(') :
    Silent ((char sign).run f) := by
  rintro cs ⟨us, rest, rfl, noAt, noEquals, noOpening, next⟩
  refine run_char_stuck ?_
  cases us with
  | nil =>
    rcases next with rfl | isAt
    · simp
    · exact not_starts_of_starts isAt fun c here => by
        obtain rfl : c = '@' := by simpa using here
        rcases other with rfl | rfl <;> decide
  | cons u us =>
    rw [List.cons_append, starts_cons, beq_iff_eq]
    rintro rfl
    rcases other with rfl | rfl
    · exact noEquals (by simp)
    · exact noOpening (by simp)

theorem silent_declaredType : Silent (declaredType.run f) := by
  have part {f : List Char → List β} (silent : Silent f) : Silent (typePart.run f) := by
    unfold typePart
    simp only [run_followedBy]
    have closed : Silent ((Pattern.optional (char ']')).run f) :=
      (silent.one (by decide)).optional silent
    exact ((closed.oneOrMore (by decide)).one (by decide)).optional (closed.oneOrMore (by decide))
  have atDefault : Silent (Declaration.atDefault f) := by
    unfold Declaration.atDefault
    simp only [run_followedBy]
    exact (silent_char (.inl rfl)).many (by decide)
  have atVarying : Silent (Declaration.atVarying f) := by
    unfold Declaration.atVarying
    refine Silent.optional ?_ atDefault
    rw [run_followedBy]
    exact (atDefault.keyword (by decide)).oneOrMore (by decide)
  have atArguments : Silent (Declaration.atArguments f) := by
    unfold Declaration.atArguments
    refine Silent.optional ?_ atVarying
    simp only [run_followedBy]
    exact (silent_char (.inr rfl)).many (by decide)
  have atType : Silent (Declaration.atType f) := by
    unfold Declaration.atType
    rw [run_followedBy]
    refine Silent.optional ?_ (part atArguments)
    rw [run_followedBy]
    exact part ((part atArguments).one (by decide))
  have atAs : Silent (Declaration.atAs f) := by
    unfold Declaration.atAs
    refine Silent.optional ?_ atType
    rw [run_followedBy]
    exact (atType.oneOrMore (by decide)).keyword (by decide)
  rw [Declaration.declaredType_run]
  exact atAs.oneOrMore (by decide)

end Silent

theorem declaration?_quiet (quiet : Quiet cs) : declaration? ('@' :: cs) = none := by
  set text := '@' :: cs with textEq
  have silent : Silent (fun afterName => (declaredType afterName).flatMap fun atLiteral =>
      (defaultLiteral atLiteral).map fun remaining =>
        (⟨consumed text afterName, consumed atLiteral remaining,
          (consumed text remaining).length⟩ : DefaultDeclaration)) :=
    fun cs quiet => silent_declaredType cs quiet
  have nothing : parameterName.run (fun afterName => (declaredType afterName).flatMap
      fun atLiteral => (defaultLiteral atLiteral).map fun remaining =>
        (⟨consumed text afterName, consumed atLiteral remaining,
          (consumed text remaining).length⟩ : DefaultDeclaration)) text = [] := by
    rw [textEq, parameterName, run_followedBy, run_char_cons, if_pos rfl]
    exact silent.oneOrMore (by decide) cs quiet
  exact congrArg List.head? nothing

/-- A place in a text where a parameter is mentioned, with the text up to the next one. -/
inductive Mention
  /-- A declaration, in the list of the parameters or in a comment. It holds no other mention unless
  it is read as a whole. -/
  | declaration (d : Declaration) (following : List Char) (ne_nil : following ≠ [])
      (follows : d.FollowedBy following) (quiet : '@' ∉ following)
      (whole : d.IsPlain ∨ '@' ∉ d.clauses)
  /-- Anything else with neither an equals sign nor a parenthesis in it. -/
  | other (following : List Char) (quiet : '@' ∉ following) (noEquals : '=' ∉ following)
      (noOpening : '(' ∉ following)

namespace Mention

def text : Mention → List Char
  | declaration d following .. => d.text ++ following
  | other following .. => '@' :: following

/-- A default is read at the mention, for a parameter of this name. -/
def Reads (name : List Char) : Mention → Prop
  | declaration d .. => d.IsRead ∧ d.parameterName = name
  | other .. => False

end Mention

theorem Mention.starts (m : Mention) {rest : List Char} : Starts (· == '@') (m.text ++ rest) := by
  cases m <;> simp [text, Declaration.text, Declaration.parameterName]

/-- The text of a routine before a declaration. -/
structure Preamble where
  head : List Char
  quiet : '@' ∉ head
  mentions : List Mention

def Preamble.text (p : Preamble) : List Char := p.head ++ p.mentions.flatMap Mention.text

/-- The end of a text or the place of another mention. -/
def MentionNext (cs : List Char) : Prop := cs = [] ∨ Starts (· == '@') cs

section MentionNext

variable {rest : List Char}

theorem MentionNext.not_starts {p : Char → Bool} (next : MentionNext rest) (noAt : p '@' = false) :
    ¬ Starts p rest := by
  rcases next with rfl | isAt
  · simp
  · exact not_starts_of_starts isAt fun c here => by
      obtain rfl : c = '@' := by simpa using here
      exact noAt

theorem dropWhile_append_next {p : Char → Bool} (next : MentionNext rest) (noAt : p '@' = false)
    (us : List Char) : (us ++ rest).dropWhile p = us.dropWhile p ++ rest := by
  induction us with
  | nil => exact dropWhile_of_not_starts (next.not_starts noAt)
  | cons u us ih => by_cases holds : p u = true <;> simp [holds, ih]

theorem takeWhile_append_next {p : Char → Bool} (next : MentionNext rest) (noAt : p '@' = false)
    (us : List Char) : (us ++ rest).takeWhile p = us.takeWhile p := by
  induction us with
  | nil =>
    rcases next with rfl | ⟨c, rest, rfl, here⟩
    · rfl
    · obtain rfl : c = '@' := by simpa using here
      exact List.takeWhile_cons_of_neg (by simp [noAt])
  | cons u us ih => by_cases holds : p u = true <;> simp [holds, ih]

/-- What follows a declaration still does with another mention behind it. -/
theorem Declaration.FollowedBy.append {d : Declaration} {following : List Char}
    (follows : d.FollowedBy following) (ne : following ≠ []) (next : MentionNext rest) :
    d.FollowedBy (following ++ rest) := by
  refine ⟨?_, fun none => ?_⟩
  · rcases follows.delimits with rfl | starts | opens
    · exact absurd rfl ne
    · exact .inr (.inl ((starts_append ne).mpr starts))
    · exact .inr (.inr (opens.append rest))
  · obtain ⟨noSign, noVarying⟩ := follows.ends none
    constructor <;> rw [dropWhile_append_next next (by decide)]
    · by_cases empty : following.dropWhile isBlank = []
      · rw [empty]
        exact next.not_starts (by decide)
      · rwa [starts_append empty]
    · rwa [takeWhile_append_next next (by decide)]

end MentionNext

/-- A reading is taken, and the search goes on behind it. -/
theorem declarationsFrom_read {e : DefaultDeclaration} {us quiet rest : List Char}
    (found : declaration? (us ++ (quiet ++ rest)) = some e)
    (width : e.width = (consumed (us ++ (quiet ++ rest)) (quiet ++ rest)).length) (ne : us ≠ [])
    (noAt : '@' ∉ quiet) :
    declarationsFrom 0 (us ++ (quiet ++ rest)) = e :: declarationsFrom 0 rest := by
  rw [consumed_append] at width
  rw [declarationsFrom_some found (width ▸ List.length_pos_iff.mpr ne), width, List.drop_left,
    declarationsFrom_append noAt]

theorem Declaration.clauses_append {d : Declaration} {v : DeclaredDefault} (given : v ∈ d.default?) :
    ∃ front, d.clauses = front ++ (v.after.comments ++ v.value.text) := by
  have given : d.default? = some v := given
  refine ⟨d.gap.text ++ d.asText ++ d.typeText ++ d.argumentsText ++ d.varyingText ++ v.before.text ++
    '=' :: v.after.blanks, ?_⟩
  simp [clauses, defaultText, given, DeclaredDefault.text, Gap.text]

theorem DefaultValue.behind_append (v : DefaultValue) {rest : List Char} (next : MentionNext rest)
    (following : List Char) : v.behind (following ++ rest) = v.behind following ++ rest := by
  cases v with
  | run => exact dropWhile_append_next next (by decide) following
  | quoted | other => rfl

/-- A reading ends before the next mention. -/
theorem Declaration.read_before_next {d : Declaration} {v : DeclaredDefault}
    {following rest left : List Char} (follows : d.FollowedBy (following ++ rest))
    (next : MentionNext rest) (quiet : '@' ∉ following) (whole : d.IsPlain ∨ '@' ∉ d.clauses)
    (given : v ∈ d.default?)
    (found : (defaultLiteral (v.atValue (following ++ rest))).head? = some left) :
    ∃ us quietEnd, d.text ++ (following ++ rest) = us ++ (quietEnd ++ rest) ∧ us ≠ [] ∧
      '@' ∉ quietEnd ∧ left = quietEnd ++ rest := by
  by_cases plain : v.IsPlain
  · obtain rfl := Option.some.inj
      ((DeclaredDefault.head?_plain plain follows.delimits).symm.trans found)
    have whole := v.value.glued_append_behind following
    refine ⟨d.text ++ v.value.glued following, v.value.behind following, ?_,
      by simp [text, parameterName], fun mem => quiet ?_, v.value.behind_append next following⟩
    · conv_lhs => rw [← whole]
      simp
    · rw [← whole]
      exact List.mem_append_right _ mem
  · have dashes : Starts (· == '-') v.after.comments := by
      by_contra none
      rw [DeclaredDefault.head?_unread fun read => read.elim plain none] at found
      cases found
    have noAt : '@' ∉ d.clauses := by
      rcases whole with ⟨-, w, mem, plainW⟩ | noAt
      · obtain rfl : v = w := Option.some.inj (given.symm.trans mem)
        exact absurd plainW plain
      · exact noAt
    obtain rfl := Option.some.inj ((DeclaredDefault.head?_commented dashes _).symm.trans found)
    obtain ⟨front, clauses⟩ := clauses_append given
    set value := v.after.comments ++ (v.value.text ++ following) with valueEq
    have noAtValue : '@' ∉ value := by
      simp only [clauses, List.mem_append, not_or] at noAt
      simp [valueEq, noAt, quiet]
    have atValue : v.atValue (following ++ rest) = value ++ rest := by
      simp [DeclaredDefault.atValue, valueEq]
    have split := List.takeWhile_append_dropWhile (p := isLiteralChar) (l := value)
    refine ⟨d.parameterName ++ front ++ value.takeWhile isLiteralChar, value.dropWhile isLiteralChar,
      ?_, by simp [parameterName], fun mem => noAtValue ((List.dropWhile_suffix _).subset mem), ?_⟩
    · rw [List.append_assoc, ← List.append_assoc (value.takeWhile _), split]
      simp [text, clauses, valueEq]
    · rw [atValue, dropWhile_append_next next (by decide)]

theorem Mention.search (m : Mention) {rest : List Char} (next : MentionNext rest) :
    ∃ ds, declarationsFrom 0 (m.text ++ rest) = ds ++ declarationsFrom 0 rest ∧
      ∀ e ∈ ds, m.Reads e.name := by
  cases m with
  | other following quiet noEquals noOpening =>
    have unread := declaration?_quiet ⟨following, rest, rfl, quiet, noEquals, noOpening, next⟩
    refine ⟨[], ?_, by simp⟩
    rw [text, List.cons_append, declarationsFrom_none unread, List.tail_cons,
      declarationsFrom_append quiet, List.nil_append]
  | declaration d following ne follows quiet whole =>
    have follows' := follows.append ne next
    rw [text, List.append_assoc]
    rcases Declaration.read_or_unread follows' with
      ⟨read, v, given, left, found, reading⟩ | ⟨unread, none⟩
    · obtain ⟨us, quietEnd, split, some, noAt, rfl⟩ :=
        Declaration.read_before_next follows' next quiet whole given found
      refine ⟨[d.reading v (following ++ rest) (quietEnd ++ rest)], ?_,
        by simpa [Reads] using ⟨read, rfl⟩⟩
      have width : (d.reading v (following ++ rest) (quietEnd ++ rest)).width =
          (consumed (us ++ (quietEnd ++ rest)) (quietEnd ++ rest)).length := by
        rw [← split]
        rfl
      rw [split] at reading ⊢
      exact declarationsFrom_read reading width some noAt
    · have noAt : '@' ∉ d.clauses := by
        rcases whole with ⟨u, v, mem, plain⟩ | noAt
        · exact absurd ⟨u, v, mem, .inl plain⟩ unread
        · exact noAt
      have quietName : '@' ∉ d.name.chars := fun mem =>
        absurd (d.name.allWord _ mem) (by decide)
      have tail : (d.text ++ (following ++ rest)).tail =
          (d.name.chars ++ (d.clauses ++ following)) ++ rest := by
        simp [Declaration.text, Declaration.parameterName]
      refine ⟨[], ?_, by simp⟩
      rw [declarationsFrom_none none, tail, declarationsFrom_append (by simp [noAt, quietName, quiet]),
        List.nil_append]

/-- What is found in a preamble comes first, and is read at its mentions. -/
theorem Preamble.search_append (p : Preamble) {rest : List Char} (next : MentionNext rest) :
    ∃ ds, declarationsFrom 0 (p.text ++ rest) = ds ++ declarationsFrom 0 rest ∧
      ∀ e ∈ ds, ∃ m ∈ p.mentions, m.Reads e.name := by
  obtain ⟨head, quiet, mentions⟩ := p
  rw [text, List.append_assoc, declarationsFrom_append quiet]
  simp only
  clear head quiet
  induction mentions with
  | nil => exact ⟨[], rfl, by simp⟩
  | cons m mentions ih =>
    obtain ⟨later, found, reads⟩ := ih
    have nextMention : MentionNext (mentions.flatMap Mention.text ++ rest) := by
      cases mentions with
      | nil => exact next
      | cons m mentions =>
        rw [List.flatMap_cons, List.append_assoc]
        exact .inr m.starts
    obtain ⟨here, search, readsHere⟩ := m.search nextMention
    refine ⟨here ++ later, ?_, fun e mem => ?_⟩
    · rw [List.flatMap_cons, List.append_assoc, search, found, List.append_assoc]
    · rcases List.mem_append.mp mem with mem | mem
      · exact ⟨m, by simp, readsHere e mem⟩
      · obtain ⟨n, memN, readsN⟩ := reads e mem
        exact ⟨n, by simp [memN], readsN⟩

end SqlBindings.Sql
