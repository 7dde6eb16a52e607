import SqlBindings.Proofs.Patterns

namespace SqlBindings.Sql

open Text (isWord isBlank isWord_of_isBlank isBlank_of_isWord)
open Pattern

/-- A text that begins with a comment. -/
inductive OpensComment : List Char → Prop
  | line (rest : List Char) : OpensComment ('-' :: '-' :: rest)
  | block (rest : List Char) : OpensComment ('/' :: '*' :: rest)

theorem opensComment_iff {cs : List Char} :
    OpensComment cs ↔ ['-', '-'] <+: cs ∨ ['/', '*'] <+: cs := by
  constructor
  · rintro (rest | rest)
    · exact .inl ⟨rest, rfl⟩
    · exact .inr ⟨rest, rfl⟩
  · rintro (⟨rest, rfl⟩ | ⟨rest, rfl⟩)
    · exact .line rest
    · exact .block rest

instance (cs : List Char) : Decidable (OpensComment cs) := decidable_of_iff' _ opensComment_iff

/-- What may stand between two tokens: white space and, from the first comment on, anything. -/
structure Gap where
  blanks : List Char
  comments : List Char
  allBlank : ∀ c ∈ blanks, isBlank c = true
  opened : comments ≠ [] → OpensComment comments

def Gap.text (g : Gap) : List Char := g.blanks ++ g.comments

/-- A gap of one space. -/
def Gap.space : Gap := ⟨[' '], [], List.all_eq_true.mp (by decide), fun ne => absurd rfl ne⟩

theorem Gap.space_ne_nil : Gap.space.text ≠ [] := by decide

theorem Gap.comments_space : Gap.space.comments = [] := rfl

/-- A gap of white space. -/
def Gap.white (s : String) (blank : s.toList.all isBlank = true) : Gap :=
  ⟨s.toList, [], List.all_eq_true.mp blank, fun ne => absurd rfl ne⟩

/-- A word. -/
structure Word where
  chars : List Char
  ne_nil : chars ≠ []
  allWord : ∀ c ∈ chars, isWord c = true

/-- The word of a text that is one. -/
def Word.ofString (s : String) (isWord : s.toList ≠ [] ∧ s.toList.all isWord = true) : Word :=
  ⟨s.toList, isWord.1, List.all_eq_true.mp isWord.2⟩

/-- A word that stands for a given keyword, in any case. -/
structure Keyword (letters : List Char) where
  chars : List Char
  spelled : Spells letters chars

/-- A part of the name of a type, in brackets or not. -/
structure TypePart where
  word : Word
  bracketed : Bool

namespace TypePart

def text (t : TypePart) : List Char :=
  if t.bracketed then '[' :: t.word.chars ++ [']'] else t.word.chars

/-- Whether the part is a keyword. In brackets it is none. -/
def Is (letters : List Char) (t : TypePart) : Prop := t.bracketed = false ∧ Spells letters t.word.chars

instance (letters : List Char) (t : TypePart) : Decidable (t.Is letters) :=
  inferInstanceAs (Decidable (_ ∧ _))

end TypePart

/-- The `AS` before a type. -/
structure AsClause where
  keyword : Keyword "as".toList
  gap : Gap
  apart : gap.text ≠ []

def AsClause.text (a : AsClause) : List Char := a.keyword.chars ++ a.gap.text

/-- The arguments of a type. -/
structure TypeArguments where
  gap : Gap
  inner : List Char
  closed : ∀ c ∈ inner, (c != ')') = true

def TypeArguments.text (a : TypeArguments) : List Char := a.gap.text ++ '(' :: (a.inner ++ [')'])

/-- The `VARYING` after a type. -/
structure VaryingClause where
  gap : Gap
  apart : gap.text ≠ []
  keyword : Keyword "varying".toList

def VaryingClause.text (v : VaryingClause) : List Char := v.gap.text ++ v.keyword.chars

/-- A character of a number or a name that is a default. -/
def isLiteralChar (c : Char) : Bool := c == '-' || c == '+' || isWord c || c == '.'

/-- The value of a default. -/
inductive DefaultValue
  /-- A number, a name or `NULL`. -/
  | run (chars : List Char) (ne_nil : chars ≠ []) (all : ∀ c ∈ chars, isLiteralChar c = true)
  /-- A string, perhaps marked with `N`, given without its quotes. -/
  | quoted (mark : List Char) (inner : List Char) (marked : mark = [] ∨ Spells ['n'] mark)
  /-- Anything else, told by the character it begins with. -/
  | other (first : Char) (rest : List Char) (notBlank : isBlank first = false)
      (notQuote : first ≠ '\'') (notLiteral : isLiteralChar first = false)

namespace DefaultValue

/-- A text with each quote written twice. -/
def doubleQuotes : List Char → List Char
  | [] => []
  | c :: rest => if c = '\'' then '\'' :: '\'' :: doubleQuotes rest else c :: doubleQuotes rest

def text : DefaultValue → List Char
  | run chars _ _ => chars
  | quoted mark inner _ => mark ++ '\'' :: (doubleQuotes inner ++ ['\''])
  | other first rest _ _ _ => first :: rest

/-- The token NULL in any case. -/
def IsNull : DefaultValue → Prop
  | run chars _ _ => chars.map Char.toLower = "null".toList
  | _ => False

instance : (v : DefaultValue) → Decidable v.IsNull
  | run chars _ _ => inferInstanceAs (Decidable (chars.map Char.toLower = "null".toList))
  | quoted .. | other .. => inferInstanceAs (Decidable False)

end DefaultValue

/-- The default of a declaration, with the gaps on both sides of the equals sign. -/
structure DeclaredDefault where
  before : Gap
  after : Gap
  value : DefaultValue

def DeclaredDefault.text (v : DeclaredDefault) : List Char :=
  v.before.text ++ '=' :: (v.after.text ++ v.value.text)

/-- A declaration of a parameter. The name of its type does not begin with a bare keyword. -/
structure Declaration where
  name : Word
  gap : Gap
  apart : gap.text ≠ []
  as? : Option AsClause
  schema? : Option TypePart
  type : TypePart
  notAs : ¬ (schema?.getD type).Is "as".toList
  notVarying : ¬ (schema?.getD type).Is "varying".toList
  arguments? : Option TypeArguments
  varying? : Option VaryingClause
  default? : Option DeclaredDefault

/-- What may stand right after a declaration: white space, a comma, a closing parenthesis or a
comment. -/
def Delimits (cs : List Char) : Prop :=
  cs = [] ∨ Starts (fun c => isBlank c || c == ',' || c == ')') cs ∨ OpensComment cs

instance (cs : List Char) : Decidable (Delimits cs) := inferInstanceAs (Decidable (_ ∨ _))

/-- The next token is none that goes on with a type or gives a default. -/
structure Ends (cs : List Char) : Prop where
  noSign : ¬ Starts (fun c => c == '(' || c == '=') (cs.dropWhile isBlank)
  noVarying : ¬ Spells "varying".toList ((cs.dropWhile isBlank).takeWhile isWord)

namespace Declaration

variable (d : Declaration)

def parameterName : List Char := '@' :: d.name.chars

/-- The name of the type, with its schema. -/
def typeText : List Char := (d.schema?.elim [] fun s => s.text ++ ['.']) ++ d.type.text

def asText : List Char := d.as?.elim [] AsClause.text

def argumentsText : List Char := d.arguments?.elim [] TypeArguments.text

def varyingText : List Char := d.varying?.elim [] VaryingClause.text

def defaultText : List Char := d.default?.elim [] DeclaredDefault.text

/-- The declaration after the name. -/
def clauses : List Char :=
  d.gap.text ++ (d.asText ++ (d.typeText ++ (d.argumentsText ++ (d.varyingText ++ d.defaultText))))

def text : List Char := d.parameterName ++ d.clauses

/-- No comment stands between the name and the equals sign, or the end of the declaration. -/
structure Uninterrupted : Prop where
  gap : d.gap.comments = []
  as : ∀ a ∈ d.as?, a.gap.comments = []
  arguments : ∀ a ∈ d.arguments?, a.gap.comments = []
  varying : ∀ v ∈ d.varying?, v.gap.comments = []
  default : ∀ v ∈ d.default?, v.before.comments = []

/-- The default of the declaration is NULL. -/
def DeclaresNull : Prop := ∃ v ∈ d.default?, v.value.IsNull

/-- What may follow a declaration: a delimiter, and after it nothing that belongs to a declaration
without a default. -/
structure FollowedBy (cs : List Char) : Prop where
  delimits : Delimits cs
  ends : d.default? = none → Ends cs

end Declaration

section Gaps
variable {cs : List Char}

theorem OpensComment.starts (opens : OpensComment cs) :
    Starts (fun c => c == '-' || c == '/') cs := by
  cases opens <;> simp

/-- A comment begins with a sign of its own. -/
theorem OpensComment.not_starts {p : Char → Bool} (opens : OpensComment cs) (dash : p '-' = false)
    (slash : p '/' = false) : ¬ Starts p cs := by
  cases opens <;> simp [dash, slash]

theorem OpensComment.append (opens : OpensComment cs) (rest : List Char) :
    OpensComment (cs ++ rest) := by
  cases opens with
  | line => exact .line _
  | block => exact .block _

theorem Ends.of_blanks {bs : List Char} (all : ∀ c ∈ bs, isBlank c = true) (ends : Ends cs) :
    Ends (bs ++ cs) := by
  constructor <;> rw [List.dropWhile_append_of_pos all]
  exacts [ends.noSign, ends.noVarying]

/-- What begins with a sign of its own ends a type. -/
theorem Ends.of_not_starts (stop : ¬ Starts isBlank cs)
    (noSign : ¬ Starts (fun c => c == '(' || c == '=') cs) (noWord : ¬ Starts isWord cs) :
    Ends cs := by
  constructor <;> rw [dropWhile_of_not_starts stop]
  · exact noSign
  · rw [takeWhile_of_not_starts noWord]
    intro spelled
    cases spelled

theorem OpensComment.ends (opens : OpensComment cs) : Ends cs :=
  .of_not_starts (opens.not_starts (by decide) (by decide))
    (opens.not_starts (by decide) (by decide)) (opens.not_starts (by decide) (by decide))

theorem Gap.ends (g : Gap) (commented : g.comments ≠ []) (cs : List Char) : Ends (g.text ++ cs) := by
  rw [Gap.text, List.append_assoc]
  exact .of_blanks g.allBlank ((g.opened commented).append cs).ends

end Gaps

theorem Keyword.starts {letters : List Char} (word : Keyword letters) (cs : List Char)
    (lower : letters.all Char.isLower = true) (ne : letters ≠ []) :
    Starts isWord (word.chars ++ cs) := by
  obtain ⟨chars, spelled⟩ := word
  have words := spelled.isWord lower
  cases spelled with
  | nil => exact absurd rfl ne
  | cons => exact starts_cons.mpr (words _ (by simp))

theorem isBlank_of_isLiteralChar {c : Char} (literal : isLiteralChar c = true) :
    isBlank c = false := by
  simp only [isLiteralChar, Bool.or_eq_true, beq_iff_eq] at literal
  rcases literal with ((rfl | rfl) | word) | rfl
  case inl.inr => exact isBlank_of_isWord word
  all_goals decide

theorem DefaultValue.not_starts_blank (v : DefaultValue) (cs : List Char) :
    ¬ Starts isBlank (v.text ++ cs) := by
  cases v with
  | run chars ne all =>
    exact not_starts_of_starts ((starts_append ne).mpr (.of_all ne all)) fun c =>
      isBlank_of_isLiteralChar
  | quoted mark inner marked =>
    rcases marked with rfl | spelled
    · simp only [text, List.nil_append, List.cons_append, starts_cons]
      decide
    · simp only [text, List.append_assoc]
      exact not_starts_of_starts (Keyword.starts ⟨mark, spelled⟩ _ (by decide) (by decide)) fun c =>
        isBlank_of_isWord
  | other first rest notBlank => simp [text, notBlank]

end SqlBindings.Sql
