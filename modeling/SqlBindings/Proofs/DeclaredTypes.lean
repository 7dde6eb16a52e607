import SqlBindings.Proofs.Declarations

/-!
# From the name of a parameter to its default

The pattern that looks for a default is followed through a declaration, one part of it at a time.
Each `at..._` function is the rest of the pattern from one part on; its laws say which function goes on
after the part, and that a comment leaves nothing to go on with. `Declaration.run_declaredType` puts
them together.
-/

namespace SqlBindings.Sql

open Text (isWord isBlank isWord_of_isBlank isBlank_of_isWord ne_of_isWord)
open Pattern

namespace Declaration

variable {β : Type} {k : List Char → List β} {cs : List Char}

/-- The rest of the pattern from the default on. -/
def atDefault (k : List Char → List β) : List Char → List β :=
  (blanks >> char '=' >> blanks).run k

/-- The rest of the pattern from `VARYING` on. -/
def atVarying (k : List Char → List β) : List Char → List β :=
  (optional (blank >> keyword "varying".toList)).run (atDefault k)

/-- The rest of the pattern from the arguments of the type on. -/
def atArguments (k : List Char → List β) : List Char → List β :=
  (optional (blanks >> char '(' >> many (· != ')') >> char ')')).run (atVarying k)

/-- The rest of the pattern from the type on. -/
def atType (k : List Char → List β) : List Char → List β :=
  (optional (typePart >> char '.') >> typePart).run (atArguments k)

/-- The rest of the pattern from `AS` on. -/
def atAs (k : List Char → List β) : List Char → List β :=
  (optional (keyword "as".toList >> blank)).run (atType k)

theorem declaredType_run : declaredType.run k = blank.run (atAs k) := by
  unfold declaredType parameterType atAs atType atArguments atVarying atDefault
  simp only [run_followedBy]

/-! ## The default -/

theorem atDefault_of_not (not : ¬ Starts (· == '=') (cs.dropWhile isBlank)) :
    atDefault k cs = [] := by
  unfold atDefault
  rw [run_followedBy, run_followedBy, run_blanks (stuck_char (by decide))]
  exact run_char_stuck not

theorem atDefault_eq (stuck : Stuck k isBlank) {bs : List Char}
    (all : ∀ c ∈ bs, isBlank c = true) (cs : List Char) :
    atDefault k (bs ++ '=' :: cs) = k (cs.dropWhile isBlank) := by
  have stop : ¬ Starts isBlank ('=' :: cs) := by rw [starts_cons]; decide
  unfold atDefault
  rw [run_followedBy, run_followedBy, run_blanks (stuck_char (by decide)), dropWhile_run all stop,
    run_char_cons, if_pos rfl, run_blanks stuck]

/-- A character that begins no white space and no default. -/
theorem stuck_atDefault : Stuck (atDefault k) fun c => !isBlank c && c != '=' := by
  intro cs starts
  have nonblank : ¬ Starts isBlank cs := not_starts_of_starts starts (by simp +contextual)
  apply atDefault_of_not
  rw [dropWhile_of_not_starts nonblank]
  exact not_starts_of_starts starts (by simp +contextual)

theorem atDefault_of_ends (ends : Ends cs) : atDefault k cs = [] :=
  atDefault_of_not fun starts => ends.noSign (starts.mono (by simp +contextual))

/-! ## `VARYING` -/

/-- Where no `VARYING` and no default can be read together, the default comes next. -/
theorem atVarying_of_not
    (not : (keyword "varying".toList).run (atDefault k) (cs.dropWhile isBlank) = []) :
    atVarying k cs = atDefault k cs := by
  have stuck : Stuck ((keyword "varying".toList).run (atDefault k)) isBlank := fun cs blank =>
    run_keyword_of_not_starts (by decide) (by decide)
      (not_starts_of_starts blank fun c => isWord_of_isBlank)
  have none : blank.run ((keyword "varying".toList).run (atDefault k)) cs = [] := by
    unfold blank
    by_cases starts : Starts isBlank cs
    · rw [run_oneOrMore stuck starts, not]
    · exact run_oneOrMore_stuck starts
  unfold atVarying
  rw [run_optional, run_followedBy, none, List.nil_append]

theorem atVarying_of_not_starts (not : ¬ Starts isWord (cs.dropWhile isBlank)) :
    atVarying k cs = atDefault k cs :=
  atVarying_of_not (run_keyword_of_not_starts (by decide) (by decide) not)

theorem atVarying_keyword (word : Keyword "varying".toList) {bs : List Char} (ne : bs ≠ [])
    (all : ∀ c ∈ bs, isBlank c = true) (cs : List Char) :
    atVarying k (bs ++ (word.chars ++ cs)) = atDefault k cs := by
  have starts := word.starts cs (by decide) (by decide)
  have stop : ¬ Starts isBlank (word.chars ++ cs) :=
    not_starts_of_starts starts fun c => isBlank_of_isWord
  have stuck : Stuck ((keyword "varying".toList).run (atDefault k)) isBlank := fun cs blank =>
    run_keyword_of_not_starts (by decide) (by decide)
      (not_starts_of_starts blank fun c => isWord_of_isBlank)
  have none : atDefault k (bs ++ (word.chars ++ cs)) = [] := by
    apply atDefault_of_not
    rw [dropWhile_run all stop]
    exact not_starts_char starts (by decide)
  unfold atVarying blank
  rw [run_optional, run_followedBy, run_oneOrMore_append stuck ne all stop,
    run_keyword_append word.spelled, none, List.append_nil]

theorem atVarying_of_ends (ends : Ends cs) : atVarying k cs = [] := by
  have split := List.takeWhile_append_dropWhile (p := isWord) (l := cs.dropWhile isBlank)
  rw [atVarying_of_not, atDefault_of_ends ends]
  rw [← split]
  exact run_keyword_stuck (by decide) (stuck_atDefault.mono fun c word => by
      simp [isBlank_of_isWord word, ne_of_isWord (d := '=') word (by decide)])
    (fun c mem => List.all_eq_true.mp List.all_takeWhile c mem) not_starts_dropWhile ends.noVarying

theorem stuck_atVarying : Stuck (atVarying k) fun c => !isBlank c && c != '=' := by
  intro cs starts
  have nonblank : ¬ Starts isBlank cs := not_starts_of_starts starts (by simp +contextual)
  unfold atVarying
  rw [run_optional, run_followedBy, stuck_atDefault cs starts, List.append_nil]
  exact run_oneOrMore_stuck nonblank

/-! ## The arguments of a type -/

theorem atArguments_of_not (not : ¬ Starts (· == '(') (cs.dropWhile isBlank)) :
    atArguments k cs = atVarying k cs := by
  unfold atArguments
  rw [run_optional, run_followedBy, run_blanks, run_followedBy, run_char_stuck not, List.nil_append]
  rw [run_followedBy]
  exact stuck_char (by decide)

theorem atArguments_append {bs inner : List Char} (all : ∀ c ∈ bs, isBlank c = true)
    (closed : ∀ c ∈ inner, (c != ')') = true) (cs : List Char) :
    atArguments k (bs ++ '(' :: (inner ++ ')' :: cs)) = atVarying k cs := by
  have stop : ¬ Starts isBlank ('(' :: (inner ++ ')' :: cs)) := by rw [starts_cons]; decide
  have none : atVarying k (bs ++ '(' :: (inner ++ ')' :: cs)) = [] := by
    rw [atVarying_of_not_starts, atDefault_of_not] <;> rw [dropWhile_run all stop, starts_cons] <;>
      decide
  unfold atArguments
  rw [run_optional, none, List.append_nil]
  simp only [run_followedBy]
  rw [run_blanks (stuck_char (by decide)), dropWhile_run all stop, run_char_cons, if_pos rfl,
    run_many (stuck_char (by decide)), dropWhile_run closed (by simp), run_char_cons, if_pos rfl]

theorem atArguments_of_ends (ends : Ends cs) : atArguments k cs = [] := by
  rw [atArguments_of_not, atVarying_of_ends ends]
  exact fun starts => ends.noSign (starts.mono (by simp +contextual))

theorem stuck_atArguments : Stuck (atArguments k) fun c => !isBlank c && c != '=' && c != '(' := by
  intro cs starts
  have nonblank : ¬ Starts isBlank cs := not_starts_of_starts starts (by simp +contextual)
  rw [atArguments_of_not, stuck_atVarying cs (starts.mono (by simp +contextual))]
  rw [dropWhile_of_not_starts nonblank]
  exact not_starts_of_starts starts (by simp +contextual)

/-! ## The type -/

/-- A character that goes on with the name of a type. -/
def goesOn (c : Char) : Bool := isWord c || c == ']' || c == '.'

theorem goesOn_stuck {c : Char} (on : goesOn c = true) :
    (!isBlank c && c != '=' && c != '(') = true := by
  simp only [goesOn, Bool.or_eq_true, beq_iff_eq] at on
  rcases on with (word | rfl) | rfl
  · simp [isBlank_of_isWord word, ne_of_isWord (d := '=') word (by decide),
      ne_of_isWord (d := '(') word (by decide)]
  all_goals decide

/-- A gap, or what follows an empty one, does not go on with a type. -/
theorem not_starts_gap (g : Gap) (stop : g.text = [] → ¬ Starts goesOn cs) :
    ¬ Starts goesOn (g.text ++ cs) := by
  by_cases empty : g.text = []
  · simpa [empty] using stop empty
  rw [starts_append empty]
  unfold Gap.text at empty ⊢
  by_cases none : g.blanks = []
  · rw [none, List.nil_append] at empty ⊢
    exact (g.opened empty).not_starts (by decide) (by decide)
  · rw [starts_append none]
    exact not_starts_of_starts (.of_all none g.allBlank) fun c blank => by
      have sign : c ≠ ']' ∧ c ≠ '.' := by
        constructor <;> (rintro rfl; exact absurd blank (by decide))
      simp [goesOn, isWord_of_isBlank blank, sign]

/-- A part of a type is read as a whole if nothing can be read on inside it. -/
theorem run_typePart (t : TypePart) (stuck : Stuck k fun c => isWord c || c == ']')
    (stop : ¬ Starts (fun c => isWord c || c == ']') cs) : typePart.run k (t.text ++ cs) = k cs := by
  have stuckWord : Stuck k isWord := stuck.mono (by simp +contextual)
  have noWord : ¬ Starts isWord cs := fun starts => stop (starts.mono (by simp +contextual))
  have stuckClosing : Stuck ((optional (char ']')).run k) isWord := fun cs starts => by
    rw [run_optional, stuckWord cs starts, stuck_char (by decide) cs starts, List.append_nil]
  obtain ⟨⟨chars, ne, all⟩, bracketed⟩ := t
  unfold typePart
  simp only [run_followedBy]
  rw [run_optional]
  cases bracketed with
  | false =>
    have starts : Starts isWord (chars ++ cs) := (starts_append ne).mpr (.of_all ne all)
    have noClosing : ¬ Starts (· == ']') cs := fun starts => stop (starts.mono (by simp +contextual))
    simp only [TypePart.text, Bool.false_eq_true, if_false]
    rw [run_oneOrMore_append stuckClosing ne all noWord, run_optional, run_char_stuck noClosing,
      stuck_char (p := isWord) (by decide) _ starts, List.nil_append, List.nil_append]
  | true =>
    have noWord' : ¬ Starts isWord (']' :: cs) := by rw [starts_cons]; decide
    have opened : ¬ Starts isWord ('[' :: (chars ++ ']' :: cs)) := by rw [starts_cons]; decide
    simp only [TypePart.text, if_true, List.append_assoc, List.cons_append, List.nil_append]
    rw [run_char_cons, if_pos rfl, run_oneOrMore_append stuckClosing ne all noWord', run_optional,
      run_char_cons, if_pos rfl, stuck.cons (by simp), run_oneOrMore_stuck opened]
    simp

theorem run_typePart_stuck (not : ¬ Starts (fun c => isWord c || c == '[') cs) :
    typePart.run k cs = [] := by
  have noWord : ¬ Starts isWord cs := fun starts => not (starts.mono (by simp +contextual))
  have noOpening : ¬ Starts (· == '[') cs := fun starts => not (starts.mono (by simp +contextual))
  unfold typePart
  simp only [run_followedBy]
  rw [run_optional, run_char_stuck noOpening, run_oneOrMore_stuck noWord, List.nil_append]

theorem atType_part (t : TypePart) (stop : ¬ Starts goesOn cs) :
    atType k (t.text ++ cs) = atArguments k cs := by
  have stop' : ¬ Starts (fun c => isWord c || c == ']') cs := fun starts =>
    stop (starts.mono (by simp +contextual [goesOn]))
  have noPoint : ¬ Starts (· == '.') cs := fun starts =>
    stop (starts.mono (by simp +contextual [goesOn]))
  have stuck : Stuck (atArguments k) fun c => isWord c || c == ']' :=
    stuck_atArguments.mono fun c on => goesOn_stuck (by
      simp only [goesOn, Bool.or_eq_true] at on ⊢
      exact .inl on)
  have stuckPoint : Stuck ((char '.').run (typePart.run (atArguments k))) fun c =>
      isWord c || c == ']' := stuck_char (by decide)
  unfold atType
  simp only [run_followedBy]
  rw [run_optional, run_followedBy, run_typePart t stuckPoint stop', run_typePart t stuck stop',
    run_char_stuck noPoint, List.nil_append]

/-- The name of a type, with the schema it may have. -/
def typeName (schema? : Option TypePart) (type : TypePart) : List Char :=
  (schema?.elim [] fun s => s.text ++ ['.']) ++ type.text

theorem atType_typeName (schema? : Option TypePart) (type : TypePart) (stop : ¬ Starts goesOn cs) :
    atType k (typeName schema? type ++ cs) = atArguments k cs := by
  unfold typeName
  cases schema? with
  | none => simpa using atType_part type stop
  | some s =>
    have stop' : ¬ Starts (fun c => isWord c || c == ']') cs := fun starts =>
      stop (starts.mono (by simp +contextual [goesOn]))
    have stuck : Stuck (atArguments k) goesOn := stuck_atArguments.mono fun c => goesOn_stuck
    have stuck' : Stuck (atArguments k) fun c => isWord c || c == ']' :=
      stuck.mono (by simp +contextual [goesOn])
    have atPoint : ¬ Starts (fun c => isWord c || c == ']') ('.' :: (type.text ++ cs)) := by
      rw [starts_cons]; decide
    have stuckPoint : Stuck ((char '.').run (typePart.run (atArguments k))) fun c =>
        isWord c || c == ']' := stuck_char (by decide)
    simp only [Option.elim_some, List.append_assoc, List.cons_append, List.nil_append]
    unfold atType
    simp only [run_followedBy]
    rw [run_optional, run_followedBy, run_typePart s stuckPoint atPoint, run_char_cons, if_pos rfl,
      run_typePart type stuck' stop', run_typePart s stuck' atPoint, stuck.cons (by decide),
      List.append_nil]

theorem atType_typeText (d : Declaration) (stop : ¬ Starts goesOn cs) :
    atType k (d.typeText ++ cs) = atArguments k cs :=
  atType_typeName d.schema? d.type stop

/-! ## `AS` and the gaps -/

theorem run_keyword_part {letters : List Char} (lower : letters.all Char.isLower = true)
    (ne : letters ≠ []) {t : TypePart} (not : ¬ t.Is letters) (stuck : Stuck k isWord)
    (stop : ¬ Starts isWord cs) : (keyword letters).run k (t.text ++ cs) = [] := by
  obtain ⟨⟨chars, chars_ne, all⟩, bracketed⟩ := t
  cases bracketed with
  | false =>
    exact run_keyword_stuck lower stuck all stop fun spelled => not ⟨rfl, spelled⟩
  | true =>
    refine run_keyword_of_not_starts lower ne ?_
    simp only [TypePart.text, if_true, List.cons_append, starts_cons]
    decide

theorem ends_part {t : TypePart} (not : ¬ t.Is "varying".toList) (stop : ¬ Starts isWord cs) :
    Ends (t.text ++ cs) := by
  obtain ⟨⟨chars, ne, all⟩, bracketed⟩ := t
  cases bracketed with
  | false =>
    have starts : Starts isWord (chars ++ cs) := (starts_append ne).mpr (.of_all ne all)
    simp only [TypePart.text, Bool.false_eq_true, if_false]
    constructor <;>
      rw [dropWhile_of_not_starts (not_starts_of_starts starts fun c => isBlank_of_isWord)]
    · exact not_starts_of_starts starts fun c word => by
        simp [ne_of_isWord (d := '=') word (by decide), ne_of_isWord (d := '(') word (by decide)]
    · rw [List.takeWhile_append_of_pos all, takeWhile_of_not_starts stop, List.append_nil]
      exact fun spelled => not ⟨rfl, spelled⟩
  | true =>
    simp only [TypePart.text, if_true, List.cons_append]
    exact .of_not_starts (by rw [starts_cons]; decide) (by simp) (by rw [starts_cons]; decide)

/-- The name of a type begins with its first part. -/
theorem typeName_append (schema? : Option TypePart) (type : TypePart) (stop : ¬ Starts isWord cs) :
    ∃ rest, typeName schema? type ++ cs = (schema?.getD type).text ++ rest ∧ ¬ Starts isWord rest := by
  unfold typeName
  cases schema? with
  | none => exact ⟨cs, by simp, stop⟩
  | some s => exact ⟨'.' :: (type.text ++ cs), by simp, by rw [starts_cons]; decide⟩

theorem typeText_append (d : Declaration) (stop : ¬ Starts isWord cs) :
    ∃ rest, d.typeText ++ cs = (d.schema?.getD d.type).text ++ rest ∧ ¬ Starts isWord rest :=
  typeName_append d.schema? d.type stop

theorem atType_of_not (not : ¬ Starts (fun c => isWord c || c == '[') cs) : atType k cs = [] := by
  unfold atType
  simp only [run_followedBy]
  rw [run_optional, run_followedBy, run_typePart_stuck not, run_typePart_stuck not, List.nil_append]

theorem stuck_atType : Stuck (atType k) fun c => !isWord c && c != '[' := fun _ starts =>
  atType_of_not (not_starts_of_starts starts (by simp +contextual))

theorem stuck_atAs : Stuck (atAs k) fun c => !isWord c && c != '[' := by
  intro cs starts
  have not : ¬ Starts isWord cs := not_starts_of_starts starts (by simp +contextual)
  unfold atAs
  rw [run_optional, run_followedBy, run_keyword_of_not_starts (by decide) (by decide) not,
    stuck_atType cs starts, List.nil_append]

/-- A part of a declaration is passed: if it is `clear`, what was to be read is what comes next, and
otherwise nothing is. -/
def Passes (clear : Prop) (now next : List β) : Prop := clear ∧ now = next ∨ ¬ clear ∧ now = []

theorem Passes.trans {p q : Prop} {xs ys zs : List β} (first : Passes p xs ys)
    (second : Passes q ys zs) : Passes (p ∧ q) xs zs := by
  rcases first with ⟨clear, rfl⟩ | ⟨blocked, rfl⟩
  · rcases second with ⟨clear', rfl⟩ | ⟨blocked', rfl⟩
    · exact .inl ⟨⟨clear, clear'⟩, rfl⟩
    · exact .inr ⟨fun both => blocked' both.2, rfl⟩
  · exact .inr ⟨fun both => blocked both.1, rfl⟩

theorem passes_gap (g : Gap) (ne : g.text ≠ []) (stuck : Stuck k fun c => !isWord c && c != '[')
    (stop : ¬ Starts isBlank cs) :
    Passes (g.comments = []) (blank.run k (g.text ++ cs)) (k cs) := by
  have stuckBlank : Stuck k isBlank := stuck.mono fun c blank => by
    have : c ≠ '[' := by rintro rfl; exact absurd blank (by decide)
    simp [isWord_of_isBlank blank, this]
  unfold Gap.text at ne ⊢
  unfold blank
  by_cases none : g.comments = []
  · refine .inl ⟨none, ?_⟩
    rw [none, List.append_nil] at ne ⊢
    exact run_oneOrMore_append stuckBlank ne g.allBlank stop
  · have opens := (g.opened none).append cs
    have comment : ¬ Starts isBlank (g.comments ++ cs) := opens.not_starts (by decide) (by decide)
    refine .inr ⟨none, ?_⟩
    rw [List.append_assoc]
    by_cases empty : g.blanks = []
    · rw [empty]
      exact run_oneOrMore_stuck comment
    · rw [run_oneOrMore_append stuckBlank empty g.allBlank comment]
      refine stuck _ (opens.starts.mono fun c sign => ?_)
      simp only [Bool.or_eq_true, beq_iff_eq] at sign
      rcases sign with rfl | rfl <;> decide

/-- The first part of the name of a type ends what comes before it. -/
theorem ends_typeText (d : Declaration) (stop : ¬ Starts isWord cs) : Ends (d.typeText ++ cs) := by
  obtain ⟨rest, split, stop'⟩ := d.typeText_append stop
  rw [split]
  exact ends_part d.notVarying stop'

theorem starts_part (t : TypePart) (cs : List Char) :
    Starts (fun c => isWord c || c == '[') (t.text ++ cs) := by
  obtain ⟨⟨chars, ne, all⟩, bracketed⟩ := t
  cases bracketed with
  | false => exact ((starts_append ne).mpr (.of_all ne all)).mono (by simp +contextual)
  | true =>
    simp only [TypePart.text, if_true, List.cons_append, starts_cons]
    decide

/-- A type begins with a word or a bracket. -/
theorem starts_typeName (schema? : Option TypePart) (type : TypePart) (cs : List Char) :
    Starts (fun c => isWord c || c == '[') (typeName schema? type ++ cs) := by
  unfold typeName
  cases schema? with
  | none => exact starts_part type cs
  | some s =>
    simp only [Option.elim_some, List.append_assoc]
    exact starts_part s _

theorem not_starts_blank (starts : Starts (fun c => isWord c || c == '[') cs) :
    ¬ Starts isBlank cs :=
  not_starts_of_starts starts fun c first => by
    rw [Bool.or_eq_true, beq_iff_eq] at first
    rcases first with word | rfl
    · exact isBlank_of_isWord word
    · decide

theorem not_starts_blank_typeText (d : Declaration) : ¬ Starts isBlank (d.typeText ++ cs) :=
  not_starts_blank (starts_typeName d.schema? d.type cs)

theorem passes_as (d : Declaration) (stop : ¬ Starts goesOn cs) :
    Passes (∀ a ∈ d.as?, a.gap.comments = []) (atAs k (d.asText ++ (d.typeText ++ cs)))
      (atArguments k cs) := by
  have noWord : ¬ Starts isWord cs := fun starts => stop (starts.mono (by simp +contextual [goesOn]))
  have stuck : Stuck (blank.run (atType k)) isWord := fun cs word =>
    run_oneOrMore_stuck (not_starts_of_starts word fun c => isBlank_of_isWord)
  unfold atAs asText
  rw [run_optional, run_followedBy]
  cases d.as? with
  | none =>
    refine .inl ⟨by simp, ?_⟩
    obtain ⟨rest, split, stop'⟩ := d.typeText_append noWord
    have noAs : (keyword "as".toList).run (blank.run (atType k)) (d.typeText ++ cs) = [] := by
      rw [split]
      exact run_keyword_part (by decide) (by decide) d.notAs stuck stop'
    rw [Option.elim_none, List.nil_append, noAs, List.nil_append, atType_typeText d stop]
  | some a =>
    obtain ⟨⟨chars, spelled⟩, gap, apart⟩ := a
    simp only [Option.elim_some, AsClause.text, List.append_assoc, Option.mem_def, Option.some.injEq,
      forall_eq']
    have ends : Ends (gap.text ++ (d.typeText ++ cs)) := by
      by_cases none : gap.comments = []
      · rw [Gap.text, none, List.append_nil]
        exact .of_blanks gap.allBlank (d.ends_typeText noWord)
      · exact gap.ends none _
    have ne : chars ≠ [] := by rintro rfl; cases spelled
    have noType : atType k (chars ++ (gap.text ++ (d.typeText ++ cs))) = [] := by
      rw [← atArguments_of_ends (k := k) ends]
      exact atType_part ⟨⟨chars, ne, spelled.isWord (by decide)⟩, false⟩
        (not_starts_gap gap fun none => absurd none apart)
    rw [run_keyword_append spelled, noType, List.append_nil, ← atType_typeText d stop]
    exact passes_gap gap apart stuck_atType d.not_starts_blank_typeText

/-! ## The whole of a declaration -/

variable {d : Declaration} {after : List Char}

/-- Where the default is expected stands an equals sign, or the type has ended. -/
theorem ends_or_equals (d : Declaration) (follows : d.FollowedBy after) :
    Ends (d.defaultText ++ after) ∨ ∃ bs rest, (∀ c ∈ bs, isBlank c = true) ∧
      d.defaultText ++ after = bs ++ '=' :: rest := by
  unfold defaultText
  cases given : d.default? with
  | none => exact .inl (follows.ends given)
  | some v =>
    simp only [Option.elim_some, DeclaredDefault.text, List.append_assoc]
    by_cases none : v.before.comments = []
    · rw [Gap.text, none, List.append_nil]
      exact .inr ⟨v.before.blanks, _, v.before.allBlank, rfl⟩
    · exact .inl (v.before.ends none _)

theorem not_starts_blank_value (v : DeclaredDefault) :
    ¬ Starts isBlank (v.after.comments ++ (v.value.text ++ after)) := by
  by_cases none : v.after.comments = []
  · rw [none, List.nil_append]
    exact v.value.not_starts_blank _
  · exact ((v.after.opened none).append _).not_starts (by decide) (by decide)

theorem passes_default (d : Declaration) (follows : d.FollowedBy after) (stuck : Stuck k isBlank) :
    Passes (∀ v ∈ d.default?, v.before.comments = []) (atDefault k (d.defaultText ++ after))
      (d.default?.elim [] fun v => k (v.after.comments ++ (v.value.text ++ after))) := by
  unfold defaultText
  cases given : d.default? with
  | none => exact .inl ⟨by simp, atDefault_of_ends (follows.ends given)⟩
  | some v =>
    simp only [Option.elim_some, DeclaredDefault.text, List.append_assoc, List.cons_append,
      Option.mem_def, Option.some.injEq, forall_eq']
    by_cases none : v.before.comments = []
    · refine .inl ⟨none, ?_⟩
      rw [Gap.text, none, List.append_nil, atDefault_eq stuck v.before.allBlank, Gap.text,
        List.append_assoc, dropWhile_run v.after.allBlank (not_starts_blank_value v)]
    · exact .inr ⟨none, atDefault_of_ends (v.before.ends none _)⟩

theorem passes_varying (d : Declaration) (follows : d.FollowedBy after) :
    Passes (∀ v ∈ d.varying?, v.gap.comments = [])
      (atVarying k (d.varyingText ++ (d.defaultText ++ after)))
      (atDefault k (d.defaultText ++ after)) := by
  unfold varyingText
  cases d.varying? with
  | none =>
    refine .inl ⟨by simp, ?_⟩
    rw [Option.elim_none, List.nil_append]
    rcases d.ends_or_equals follows with ends | ⟨bs, rest, all, equals⟩
    · rw [atVarying_of_ends ends, atDefault_of_ends ends]
    · rw [equals]
      refine atVarying_of_not_starts ?_
      rw [dropWhile_run all] <;> rw [starts_cons] <;> decide
  | some v =>
    simp only [Option.elim_some, VaryingClause.text, List.append_assoc, Option.mem_def,
      Option.some.injEq, forall_eq']
    by_cases none : v.gap.comments = []
    · have apart : v.gap.blanks ≠ [] := by simpa [Gap.text, none] using v.apart
      refine .inl ⟨none, ?_⟩
      rw [Gap.text, none, List.append_nil]
      exact atVarying_keyword v.keyword apart v.gap.allBlank _
    · exact .inr ⟨none, atVarying_of_ends (v.gap.ends none _)⟩

/-- What comes after the arguments of a type opens none. -/
theorem atArguments_varyingText (d : Declaration) (follows : d.FollowedBy after) :
    atArguments k (d.varyingText ++ (d.defaultText ++ after)) =
      atVarying k (d.varyingText ++ (d.defaultText ++ after)) := by
  unfold varyingText
  cases d.varying? with
  | none =>
    rw [Option.elim_none, List.nil_append]
    rcases d.ends_or_equals follows with ends | ⟨bs, rest, all, equals⟩
    · rw [atArguments_of_ends ends, atVarying_of_ends ends]
    · rw [equals]
      refine atArguments_of_not ?_
      rw [dropWhile_run all] <;> rw [starts_cons] <;> decide
  | some v =>
    simp only [Option.elim_some, VaryingClause.text, List.append_assoc]
    by_cases none : v.gap.comments = []
    · rw [Gap.text, none, List.append_nil]
      have starts := v.keyword.starts (d.defaultText ++ after) (by decide) (by decide)
      refine atArguments_of_not ?_
      rw [dropWhile_run v.gap.allBlank (not_starts_of_starts starts fun c => isBlank_of_isWord)]
      exact not_starts_char starts (by decide)
    · have ends := v.gap.ends none (v.keyword.chars ++ (d.defaultText ++ after))
      rw [atArguments_of_ends ends, atVarying_of_ends ends]

theorem passes_arguments (d : Declaration) (follows : d.FollowedBy after) :
    Passes (∀ a ∈ d.arguments?, a.gap.comments = [])
      (atArguments k (d.argumentsText ++ (d.varyingText ++ (d.defaultText ++ after))))
      (atVarying k (d.varyingText ++ (d.defaultText ++ after))) := by
  unfold argumentsText
  cases d.arguments? with
  | none =>
    refine .inl ⟨by simp, ?_⟩
    rw [Option.elim_none, List.nil_append]
    exact d.atArguments_varyingText follows
  | some a =>
    simp only [Option.elim_some, TypeArguments.text, List.append_assoc, Option.mem_def,
      Option.some.injEq, forall_eq', List.cons_append, List.nil_append]
    by_cases none : a.gap.comments = []
    · refine .inl ⟨none, ?_⟩
      rw [Gap.text, none, List.append_nil]
      exact atArguments_append a.gap.allBlank a.closed _
    · exact .inr ⟨none, atArguments_of_ends (a.gap.ends none _)⟩

theorem Delimits.not_starts_goesOn (delimits : Delimits after) : ¬ Starts goesOn after := by
  rcases delimits with rfl | starts | opens
  · simp
  · exact not_starts_of_starts starts fun c sign => by
      simp only [Bool.or_eq_true, beq_iff_eq] at sign
      rcases sign with (blank | rfl) | rfl
      · by_contra on
        have := goesOn_stuck (by simpa using on)
        simp [blank] at this
      all_goals decide
  · exact opens.not_starts (by decide) (by decide)

/-- Nothing after the name of the type goes on with it. -/
theorem not_starts_afterType (d : Declaration) (follows : d.FollowedBy after) :
    ¬ Starts goesOn (d.argumentsText ++ (d.varyingText ++ (d.defaultText ++ after))) := by
  have atDefault : ¬ Starts goesOn (d.defaultText ++ after) := by
    unfold defaultText
    cases d.default? with
    | none => exact Delimits.not_starts_goesOn follows.delimits
    | some v =>
      simp only [Option.elim_some, DeclaredDefault.text, List.append_assoc, List.cons_append]
      exact not_starts_gap v.before fun _ => by rw [starts_cons]; decide
  have atVarying : ¬ Starts goesOn (d.varyingText ++ (d.defaultText ++ after)) := by
    unfold varyingText
    cases d.varying? with
    | none => exact atDefault
    | some v =>
      simp only [Option.elim_some, VaryingClause.text, List.append_assoc]
      exact not_starts_gap v.gap fun none => absurd none v.apart
  unfold argumentsText
  cases d.arguments? with
  | none => exact atVarying
  | some a =>
    simp only [Option.elim_some, TypeArguments.text, List.append_assoc, List.cons_append]
    exact not_starts_gap a.gap fun _ => by rw [starts_cons]; decide

/-- From the name of a declaration the pattern arrives at its default, unless a comment stands in
between. -/
theorem run_declaredType (d : Declaration) (follows : d.FollowedBy after) (stuck : Stuck k isBlank) :
    Passes d.Uninterrupted (declaredType.run k (d.clauses ++ after))
      (d.default?.elim [] fun v => k (v.after.comments ++ (v.value.text ++ after))) := by
  have notBlank : ¬ Starts isBlank (d.asText ++ (d.typeText ++
      (d.argumentsText ++ (d.varyingText ++ (d.defaultText ++ after))))) := by
    unfold asText
    cases d.as? with
    | none => exact d.not_starts_blank_typeText
    | some a =>
      simp only [Option.elim_some, AsClause.text, List.append_assoc]
      exact not_starts_of_starts (a.keyword.starts _ (by decide) (by decide)) fun c =>
        isBlank_of_isWord
  have stages := (((passes_gap d.gap d.apart stuck_atAs notBlank).trans
    (d.passes_as (d.not_starts_afterType follows))).trans
    (d.passes_arguments follows)).trans (d.passes_varying follows)
    |>.trans (d.passes_default follows stuck)
  have assembled : d.Uninterrupted ↔ ((((d.gap.comments = [] ∧ ∀ a ∈ d.as?, a.gap.comments = []) ∧
      ∀ a ∈ d.arguments?, a.gap.comments = []) ∧ ∀ v ∈ d.varying?, v.gap.comments = []) ∧
      ∀ v ∈ d.default?, v.before.comments = []) :=
    ⟨fun u => ⟨⟨⟨⟨u.gap, u.as⟩, u.arguments⟩, u.varying⟩, u.default⟩,
      fun ⟨⟨⟨⟨gap, as⟩, arguments⟩, varying⟩, default⟩ => ⟨gap, as, arguments, varying, default⟩⟩
  rw [declaredType_run, assembled]
  simpa only [clauses, List.append_assoc] using stages

end Declaration

end SqlBindings.Sql
