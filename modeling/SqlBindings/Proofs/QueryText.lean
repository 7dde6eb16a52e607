import SqlBindings.Proofs.Construction
import SqlBindings.Proofs.Rendering

/-!
# Query texts

A query text is read token by token: words, names in brackets and marks.

* `Spells`: a text gives some tokens, wherever it stands;
* `spells_qualifiedName`, `spells_commaSeparated`: so do names and lists;
* `text_unambiguous`: the text of a command gives just its keywords, its name and its placeholders,
  and from them the command is known.
-/

namespace SqlBindings.Sql

/-- A token of a query text. -/
inductive Token where
  /-- A keyword or a variable. -/
  | word (text : String)
  /-- A part of a name, read out of its brackets. -/
  | quoted (part : String)
  | mark (c : Char)
deriving DecidableEq, Repr

namespace Token

def word? : Token → Option String
  | word text => some text
  | _ => none

def quoted? : Token → Option String
  | quoted part => some part
  | _ => none

/-- An opening parenthesis or a placeholder. -/
def argument? : Token → Option Char
  | mark c => if c ∈ ['(', '?'] then some c else none
  | _ => none

end Token

def isWordChar (c : Char) : Bool := Text.isIdentifierContinue c || ['@', '#', '$'].contains c

def blanks : List Char := [' ', '\t', '\n', '\r']

def marks : List Char := ['.', ',', '(', ')', '=', '?', '*']

/-- What has been read of the token in which a text goes on. -/
inductive Reading where
  | between
  | word (read : List Char)
  | quoted (part : List Char)
  /-- Behind a closing bracket. It ends the part, unless it is doubled. -/
  | closing (part : List Char)
deriving DecidableEq, Repr

namespace Reading

/-- Reads a character between tokens. What belongs to no token is refused. -/
def start (c : Char) : Option (List Token × Reading) :=
  if c = '[' then some ([], quoted [])
  else if isWordChar c then some ([], word [c])
  else if c ∈ blanks then some ([], between)
  else if c ∈ marks then some ([.mark c], between)
  else none

/-- Reads a character behind a token. -/
def startAfter (token : Token) (c : Char) : Option (List Token × Reading) :=
  (start c).map fun (tokens, next) => (token :: tokens, next)

/-- Reads a character. Gives the tokens that are complete then. -/
def step (c : Char) : Reading → Option (List Token × Reading)
  | between => start c
  | word read =>
    if isWordChar c then some ([], word (read ++ [c])) else startAfter (.word (.ofList read)) c
  | quoted part => if c = ']' then some ([], closing part) else some ([], quoted (part ++ [c]))
  | closing part =>
    if c = ']' then some ([], quoted (part ++ [']'])) else startAfter (.quoted (.ofList part)) c

/-- The last token. A name must end in its bracket. -/
def finish : Reading → Option (List Token)
  | between => some []
  | word read => some [.word (.ofList read)]
  | quoted _ => none
  | closing part => some [.quoted (.ofList part)]

end Reading

def tokensFrom? (reading : Reading) : List Char → Option (List Token)
  | [] => reading.finish
  | c :: rest => do
    let (tokens, next) ← reading.step c
    return tokens ++ (← tokensFrom? next rest)

/-- The tokens of a query text. -/
def tokens? (text : String) : Option (List Token) := tokensFrom? .between text.toList

variable {reading next : Reading} {c : Char} {rest : List Char} {tokens more : List Token}

theorem tokensFrom?_cons (step : reading.step c = some (tokens, next))
    (read : tokensFrom? next rest = some more) :
    tokensFrom? reading (c :: rest) = some (tokens ++ more) := by
  simp [tokensFrom?, step, read]

theorem tokensFrom?_skip (step : reading.step c = some ([], next)) :
    tokensFrom? reading (c :: rest) = tokensFrom? next rest := by
  simp [tokensFrom?, step]

theorem tokensFrom?_word (read : List Char) {cs : List Char} (word : ∀ c ∈ cs, isWordChar c = true)
    (h : tokensFrom? .between rest = some more) :
    tokensFrom? (.word read) (cs ++ ' ' :: rest) =
      some (.word (.ofList (read ++ cs)) :: more) := by
  induction cs generalizing read with
  | nil =>
    have step : (Reading.word read).step ' ' = some ([.word (.ofList read)], .between) := rfl
    rw [List.append_nil]
    exact tokensFrom?_cons step h
  | cons c cs ih =>
    obtain ⟨first, others⟩ := List.forall_mem_cons.mp word
    have step : (Reading.word read).step c = some ([], .word (read ++ [c])) := if_pos first
    rw [List.cons_append, tokensFrom?_skip step, ih _ others, List.append_assoc,
      List.singleton_append]

/-- Inside of brackets nothing but a single closing bracket has a meaning. -/
theorem tokensFrom?_quoted (part cs rest : List Char) :
    tokensFrom? (.quoted part) (doubleBrackets cs ++ rest) =
      tokensFrom? (.quoted (part ++ cs)) rest := by
  induction cs generalizing part with
  | nil => simp [doubleBrackets]
  | cons c cs ih =>
    by_cases hc : c = ']'
    · simp [doubleBrackets, hc, tokensFrom?, Reading.step, ih]
    · simp [doubleBrackets, hc, tokensFrom?, Reading.step, ih]

/-- What is read next does not begin with a bracket that would double the last one. -/
theorem tokensFrom?_closing (part : List Char) (h : tokensFrom? .between rest = some more) :
    tokensFrom? (.closing part) rest = some (.quoted (.ofList part) :: more) := by
  cases rest with
  | nil =>
    cases h
    rfl
  | cons c rest =>
    by_cases double : c = ']'
    · subst double
      cases h
    · simp only [tokensFrom?, Reading.step, if_neg double, Reading.startAfter] at h ⊢
      cases started : Reading.start c with
      | none =>
        rw [started] at h
        cases h
      | some first =>
        rw [started] at h
        simp only [Option.map_some, Option.bind_eq_bind, Option.bind_some, Option.pure_def] at h ⊢
        cases later : tokensFrom? first.2 rest <;> simp_all

/-- The text gives the tokens, whatever else is read behind it. -/
def Spells (text : String) (tokens : List Token) : Prop :=
  ∀ rest more, tokensFrom? .between rest = some more →
    tokensFrom? .between (text.toList ++ rest) = some (tokens ++ more)

theorem Spells.tokens?_eq {text : String} (h : Spells text tokens) :
    tokens? text = some tokens := by
  have read := h [] [] rfl
  rwa [List.append_nil, List.append_nil] at read

theorem spells_empty : Spells "" [] := fun _ _ h => h

theorem Spells.append {s t : String} {ts us : List Token} (hs : Spells s ts) (ht : Spells t us) :
    Spells (s ++ t) (ts ++ us) := by
  intro rest more h
  rw [String.toList_append, List.append_assoc, List.append_assoc]
  exact hs _ _ (ht _ _ h)

theorem spells_mark {c : Char} (h : c ∈ marks) : Spells (.ofList [c]) [.mark c] := by
  have apart : marks.all (fun c => c ≠ '[' ∧ isWordChar c = false ∧ c ∉ blanks) = true := by
    decide
  obtain ⟨bracket, word, blank⟩ := of_decide_eq_true (List.all_eq_true.mp apart c h)
  have step : Reading.between.step c = some ([.mark c], .between) := by
    simp [Reading.step, Reading.start, bracket, word, blank, h]
  intro rest more read
  rw [String.toList_ofList]
  exact tokensFrom?_cons step read

theorem spells_blank : Spells " " [] := by
  have step : Reading.between.step ' ' = some ([], .between) := by decide
  exact fun rest more read => tokensFrom?_cons step read

theorem spells_spaced {text : String} {c : Char} (h : text = .ofList [c] ++ " ")
    (mark : c ∈ marks) : Spells text [.mark c] := by
  rw [h]
  exact (spells_mark mark).append spells_blank

/-- A word ends before a blank. -/
theorem spells_word {text : String} (some : text ≠ "")
    (word : text.toList.all isWordChar = true) : Spells (text ++ " ") [.word text] := by
  intro rest more h
  rw [String.toList_append, List.append_assoc]
  cases chars : text.toList with
  | nil => exact absurd (String.toList_eq_nil_iff.mp chars) some
  | cons c cs =>
    rw [chars] at word
    obtain ⟨first, others⟩ := List.forall_mem_cons.mp (List.all_eq_true.mp word)
    have bracket : c ≠ '[' := by
      rintro rfl
      revert first
      decide
    have step : Reading.between.step c = Option.some ([], .word [c]) := by
      simp [Reading.step, Reading.start, bracket, first]
    have read := tokensFrom?_word [c] others h
    rw [List.singleton_append, ← chars, String.ofList_toList] at read
    exact (tokensFrom?_skip step).trans read

theorem spells_bracketed (part : String) : Spells (bracketed part) [.quoted part] := by
  intro rest more h
  have closed := tokensFrom?_closing part.toList h
  have step : Reading.between.step '[' = some ([], .quoted []) := rfl
  have close : (Reading.quoted part.toList).step ']' = some ([], .closing part.toList) := rfl
  have chars : (bracketed part).toList ++ rest =
      '[' :: (doubleBrackets part.toList ++ ']' :: rest) := by
    simp [bracketed]
  rw [String.ofList_toList] at closed
  rw [chars, tokensFrom?_skip step, tokensFrom?_quoted, List.nil_append, tokensFrom?_skip close]
  exact closed

/-- The tokens of a name. -/
def nameTokens (schema name : String) : List Token :=
  (if schema = "" then [] else [.quoted schema, .mark '.']) ++ [.quoted name]

theorem spells_qualifiedName (schema : String) {name : String} (some : name ≠ "") :
    Spells (qualifiedName schema name) (nameTokens schema name) := by
  have dots (s t : String) : ".".intercalate [s, t] = s ++ "." ++ t := rfl
  have dot : Spells "." [.mark '.'] := spells_mark (by decide)
  unfold qualifiedName nameTokens
  by_cases empty : schema = ""
  · simpa [empty, some] using spells_bracketed name
  · have parts : [schema, name].filter (· != "") = [schema, name] := by simp [empty, some]
    rw [parts, if_neg empty]
    exact ((spells_bracketed schema).append dot).append (spells_bracketed name)

/-- The tokens of a list are those of its entries, with commas between them. -/
theorem spells_commaSeparated {α : Type} {entries : List α} {text : α → String}
    {read : α → List Token} (each : ∀ a ∈ entries, Spells (text a) (read a)) :
    Spells (Render.commaSeparated (entries.map text))
      (List.intercalate [.mark ','] (entries.map read)) := by
  have comma : Spells ", " [.mark ','] := spells_spaced (by decide +kernel) (by decide)
  unfold Render.commaSeparated
  induction entries with
  | nil => exact spells_empty
  | cons a entries ih =>
    obtain ⟨first, others⟩ := List.forall_mem_cons.mp each
    cases entries with
    | nil => simpa using first
    | cons b entries =>
      have here := first.append comma
      have read := here.append (ih others)
      simpa [String.intercalate_cons_cons, List.intercalate, List.intersperse] using read

/-- Commas are left out of whatever is collected from the entries of a list. -/
theorem filterMap_intercalate {α β : Type} {f : Token → Option β} (comma : f (.mark ',') = none)
    (read : α → List Token) (entries : List α) :
    (List.intercalate [.mark ','] (entries.map read)).filterMap f =
      entries.flatMap fun a => (read a).filterMap f := by
  induction entries with
  | nil => rfl
  | cons a entries ih =>
    cases entries with
    | nil => simp [List.intercalate]
    | cons b entries => simp_all [List.intercalate]

end SqlBindings.Sql

namespace SqlBindings

open Sql (Token Spells spells_mark spells_blank spells_word)

/-! ### Parameters -/

namespace Attribute

/-- The assignment of a placeholder to a parameter. -/
def assignmentTokens (a : Attribute) : List Token := [.word a.bindName, .mark '=', .mark '?']

theorem IsDerived.spells_assignment {a : Attribute} (h : a.IsDerived) :
    Spells (a.bindName ++ " = ?") a.assignmentTokens := by
  obtain ⟨sqlName, identifier, _, bindName⟩ := h
  have word : a.bindName.toList.all Sql.isWordChar = true := by
    have atSign : Name.bindPrefix.toList = ['@'] := by decide
    rw [bindName, String.toList_append, atSign, List.singleton_append, List.all_eq_true]
    refine List.forall_mem_cons.mpr ⟨by decide, fun c mem => ?_⟩
    rw [Sql.isWordChar, Text.isIdentifierContinue_of_mem identifier c mem, Bool.true_or]
  have some : a.bindName ≠ "" := by
    rw [bindName]
    simp [Name.bindPrefix]
  have equals : Spells "= " [.mark '='] := Sql.spells_spaced (by decide +kernel) (by decide)
  have hole : Spells "?" [.mark '?'] := spells_mark (by decide)
  have text : a.bindName ++ " = ?" = a.bindName ++ " " ++ "= " ++ "?" := by
    simp only [String.append_assoc]
    rfl
  rw [text]
  exact ((spells_word some word).append equals).append hole

theorem spells_bindList {attributes : List Attribute} (h : ∀ a ∈ attributes, a.IsDerived) :
    Spells (bindList attributes) (List.intercalate [.mark ','] (attributes.map assignmentTokens)) :=
  Sql.spells_commaSeparated fun a mem => (h a mem).spells_assignment

theorem spells_placeholders (attributes : List Attribute) :
    Spells (placeholders attributes)
      (List.intercalate [.mark ','] (attributes.map fun _ => [.mark '?'])) :=
  Sql.spells_commaSeparated fun _ _ => spells_mark (by decide)

end Attribute

namespace Command

/-! ### Commands -/

/-- The command is made by one of the constructors, from parameters with derived names. -/
inductive IsBuilt : Command → Prop
  | storedProcedure {schema name : String} {parameters : List Attribute} {returns : Returns}
      {c : Command} (derived : ∀ p ∈ parameters, p.IsDerived)
      (made : ofStoredProcedure schema name parameters returns = .ok c) : IsBuilt c
  | function {schema name : String} {parameters : List Attribute} {returns : Returns}
      {c : Command} (derived : ∀ p ∈ parameters, p.IsDerived)
      (made : ofFunction schema name parameters returns = .ok c) : IsBuilt c
  | tableGetter {schema name : String} {columns : List Attribute} {c : Command}
      (made : ofTable schema name columns = .ok c) : IsBuilt c

/-- The fixed words of a command's text. -/
def keywords (c : Command) : List Token :=
  match c.kind, c.returns with
  | .storedProcedure, _ => [.word "EXEC"]
  | .function, .single _ _ => [.word "SELECT"]
  | .function, _ | .tableGetter, _ => [.word "SELECT", .mark '*', .word "FROM"]
  | .rawSql _, _ => []

/-- One placeholder for each parameter. A table getter has none. -/
def argumentTokens (c : Command) : List Token :=
  match c.kind with
  | .storedProcedure =>
    List.intercalate [.mark ','] (c.parameters.map Attribute.assignmentTokens)
  | .function =>
    [.mark '('] ++ List.intercalate [.mark ','] (c.parameters.map fun _ => [.mark '?']) ++
      [.mark ')']
  | .tableGetter | .rawSql _ => []

/-- What the text of a command is read as. -/
def tokens (c : Command) : List Token :=
  c.keywords ++ Sql.nameTokens c.schema c.name ++ c.argumentTokens

/-- What the text of a command tells about it. -/
structure SameCall (c d : Command) : Prop where
  kind : c.kind = d.kind
  schema : c.schema = d.schema
  name : c.name = d.name
  bindNames : c.kind = .storedProcedure →
    c.parameters.map Attribute.bindName = d.parameters.map Attribute.bindName
  parameterCount : c.kind = .function → c.parameters.length = d.parameters.length
  shape : c.kind = .function → c.returns.label = d.returns.label

theorem spells_exec : Spells "EXEC " [.word "EXEC"] := by
  have word : Spells ("EXEC" ++ " ") [.word "EXEC"] :=
    spells_word (by decide) (by decide +kernel)
  exact word

theorem spells_select : Spells "SELECT " [.word "SELECT"] := by
  have word : Spells ("SELECT" ++ " ") [.word "SELECT"] :=
    spells_word (by decide) (by decide +kernel)
  exact word

theorem spells_selectFrom : Spells "SELECT * FROM " [.word "SELECT", .mark '*', .word "FROM"] := by
  have star : Spells "* " [.mark '*'] := Sql.spells_spaced (by decide +kernel) (by decide)
  have word : Spells ("FROM" ++ " ") [.word "FROM"] :=
    spells_word (by decide) (by decide +kernel)
  have text : "SELECT * FROM " = "SELECT " ++ "* " ++ ("FROM" ++ " ") := by decide +kernel
  rw [text]
  exact (spells_select.append star).append word

theorem spells_arguments (parameters : List Attribute) :
    Spells ("(" ++ Attribute.placeholders parameters ++ ")")
      ([.mark '('] ++ List.intercalate [.mark ','] (parameters.map fun _ => [.mark '?']) ++
        [.mark ')']) := by
  have left : Spells "(" [.mark '('] := spells_mark (by decide)
  have right : Spells ")" [.mark ')'] := spells_mark (by decide)
  exact (left.append (Attribute.spells_placeholders parameters)).append right

theorem IsBuilt.tokens?_text {c : Command} (h : c.IsBuilt) :
    ∃ text, c.text = .ok text ∧ Sql.tokens? text = some c.tokens := by
  have named (schema : String) {name : String} (className : Name.IsClassName name) :
      Spells (Sql.qualifiedName schema name) (Sql.nameTokens schema name) := by
    refine Sql.spells_qualifiedName schema ?_
    rintro rfl
    exact absurd className.1 (by decide)
  cases h with
  | @storedProcedure schema name parameters returns _ derived made =>
    obtain ⟨className, _, rfl⟩ := make_eq_ok.mp made
    have called := spells_exec.append (named schema className)
    cases parameters with
    | nil =>
      refine ⟨_, rfl, ?_⟩
      simpa [tokens, keywords, argumentTokens] using called.tokens?_eq
    | cons p rest =>
      have read := (called.append spells_blank).append (Attribute.spells_bindList derived)
      rw [List.append_nil] at read
      exact ⟨_, rfl, read.tokens?_eq⟩
  | @function schema name parameters returns _ derived made =>
    obtain ⟨some, made⟩ := ofFunction_eq_ok.mp made
    obtain ⟨className, _, rfl⟩ := make_eq_ok.mp made
    have called := (named schema className).append (spells_arguments parameters)
    cases returns with
    | nothing => exact absurd rfl some
    | single type nullable =>
      refine ⟨_, rfl, ?_⟩
      simpa [tokens, keywords, argumentTokens, String.append_assoc]
        using (spells_select.append called).tokens?_eq
    | table columns =>
      refine ⟨_, rfl, ?_⟩
      simpa [tokens, keywords, argumentTokens, String.append_assoc]
        using (spells_selectFrom.append called).tokens?_eq
  | @tableGetter schema name columns _ made =>
    obtain ⟨_, _, made⟩ := bind_eq_ok.mp made
    obtain ⟨className, _, rfl⟩ := make_eq_ok.mp made
    have called := spells_selectFrom.append (named schema className)
    refine ⟨_, rfl, ?_⟩
    simpa [tokens, keywords, argumentTokens] using called.tokens?_eq

/-! ### What the tokens tell -/

/-- The command is no raw SQL, and one that is a function returns something. -/
theorem IsBuilt.kind_cases {c : Command} (h : c.IsBuilt) :
    c.kind = .storedProcedure ∨ (c.kind = .function ∧ c.returns ≠ .nothing) ∨
      c.kind = .tableGetter := by
  cases h with
  | storedProcedure _ made =>
    obtain ⟨_, _, rfl⟩ := make_eq_ok.mp made
    exact .inl rfl
  | function _ made =>
    obtain ⟨some, made⟩ := ofFunction_eq_ok.mp made
    obtain ⟨_, _, rfl⟩ := make_eq_ok.mp made
    exact .inr (.inl ⟨rfl, some⟩)
  | tableGetter made =>
    obtain ⟨_, _, made⟩ := bind_eq_ok.mp made
    obtain ⟨_, _, rfl⟩ := make_eq_ok.mp made
    exact .inr (.inr rfl)

/-- What is collected from the arguments of a command. -/
theorem filterMap_argumentTokens {β : Type} {f : Token → Option β} (comma : f (.mark ',') = none)
    (c : Command) : c.argumentTokens.filterMap f = match c.kind with
      | .storedProcedure => c.parameters.flatMap fun p => p.assignmentTokens.filterMap f
      | .function => [.mark '('].filterMap f ++
          (c.parameters.flatMap fun _ => [.mark '?'].filterMap f) ++ [.mark ')'].filterMap f
      | .tableGetter | .rawSql _ => [] := by
  unfold argumentTokens
  cases c.kind with
  | storedProcedure => exact Sql.filterMap_intercalate comma _ _
  | function =>
    simp only [List.filterMap_append]
    rw [Sql.filterMap_intercalate comma]
  | tableGetter => rfl
  | rawSql _ => rfl

theorem quoted_tokens (c : Command) : c.tokens.filterMap Token.quoted? =
    if c.schema = "" then [c.name] else [c.schema, c.name] := by
  have keywords : c.keywords.filterMap Token.quoted? = [] := by
    unfold keywords
    split <;> rfl
  have arguments : c.argumentTokens.filterMap Token.quoted? = [] := by
    rw [filterMap_argumentTokens rfl]
    cases c.kind <;> simp [Token.quoted?, Attribute.assignmentTokens]
  rw [tokens, List.filterMap_append, List.filterMap_append, keywords, arguments, Sql.nameTokens]
  split <;> rfl

theorem words_tokens (c : Command) : c.tokens.filterMap Token.word? =
    c.keywords.filterMap Token.word? ++
      if c.kind = .storedProcedure then c.parameters.map Attribute.bindName else [] := by
  have name : (Sql.nameTokens c.schema c.name).filterMap Token.word? = [] := by
    unfold Sql.nameTokens
    split <;> rfl
  rw [tokens, List.filterMap_append, List.filterMap_append, name, List.append_nil,
    filterMap_argumentTokens rfl]
  cases c.kind with
  | storedProcedure =>
    rw [if_pos rfl, List.map_eq_flatMap]
    rfl
  | function => simp [Token.word?]
  | tableGetter => rfl
  | rawSql _ => rfl

theorem arguments_tokens (c : Command) : c.tokens.filterMap Token.argument? = match c.kind with
    | .storedProcedure => List.replicate c.parameters.length '?'
    | .function => '(' :: List.replicate c.parameters.length '?'
    | .tableGetter | .rawSql _ => [] := by
  have keywords : c.keywords.filterMap Token.argument? = [] := by
    unfold keywords
    split <;> rfl
  have name : (Sql.nameTokens c.schema c.name).filterMap Token.argument? = [] := by
    unfold Sql.nameTokens
    split <;> rfl
  have holes : (c.parameters.flatMap fun _ => ['?']) = List.replicate c.parameters.length '?' := by
    rw [← List.map_eq_flatMap, List.map_const']
  rw [tokens, List.filterMap_append, List.filterMap_append, keywords, name,
    filterMap_argumentTokens rfl, ← holes]
  cases c.kind with
  | storedProcedure => rfl
  | function => simp [Token.argument?]
  | tableGetter => rfl
  | rawSql _ => rfl

theorem IsBuilt.begins_exec_iff {c : Command} (h : c.IsBuilt) :
    (c.tokens.filterMap Token.word?).head? = some "EXEC" ↔ c.kind = .storedProcedure := by
  rw [words_tokens, keywords]
  rcases h.kind_cases with kind | ⟨kind, _⟩ | kind
  · simp [kind, Token.word?]
  · cases returns : c.returns <;> simp [kind, Token.word?]
  · simp [kind, Token.word?]

theorem IsBuilt.opens_iff {c : Command} (h : c.IsBuilt) :
    (c.tokens.filterMap Token.argument?).head? = some '(' ↔ c.kind = .function := by
  rw [arguments_tokens]
  rcases h.kind_cases with kind | ⟨kind, _⟩ | kind
  · simp [kind, List.head?_replicate]
  · simp [kind]
  · simp [kind]

/-- A function that is selected from returns a table. -/
theorem IsBuilt.label_eq {c : Command} (h : c.IsBuilt) (function : c.kind = .function) :
    c.returns.label =
      if c.tokens.filterMap Token.word? = ["SELECT"] then "single" else "table" := by
  have some : c.returns ≠ .nothing := by
    rcases h.kind_cases with other | ⟨_, some⟩ | other
    · cases function.symm.trans other
    · exact some
    · cases function.symm.trans other
  rw [words_tokens, keywords, function]
  cases returns : c.returns with
  | nothing => exact absurd returns some
  | single type nullable => rfl
  | table columns => rfl

/-- Commands that are read as the same tokens are the same call. -/
theorem sameCall_of_tokens {c d : Command} (hc : c.IsBuilt) (hd : d.IsBuilt)
    (same : c.tokens = d.tokens) : SameCall c d := by
  have procedure : c.kind = .storedProcedure ↔ d.kind = .storedProcedure := by
    rw [← hc.begins_exec_iff, ← hd.begins_exec_iff, same]
  have function : c.kind = .function ↔ d.kind = .function := by
    rw [← hc.opens_iff, ← hd.opens_iff, same]
  have kind : c.kind = d.kind := by
    rcases hc.kind_cases with hc | ⟨hc, _⟩ | hc <;> rcases hd.kind_cases with hd | ⟨hd, _⟩ | hd <;>
      simp_all
  have quoted := congrArg (List.filterMap Token.quoted?) same
  rw [quoted_tokens, quoted_tokens] at quoted
  have named : c.schema = d.schema ∧ c.name = d.name := by
    split at quoted <;> split at quoted <;> simp_all
  refine ⟨kind, named.1, named.2, fun isProcedure => ?_, fun isFunction => ?_, fun isFunction => ?_⟩
  · have words := congrArg (List.filterMap Token.word?) same
    rw [words_tokens, words_tokens, if_pos isProcedure, if_pos (procedure.mp isProcedure)] at words
    simpa [keywords, isProcedure, procedure.mp isProcedure, Token.word?] using words
  · have arguments := congrArg (List.filterMap Token.argument?) same
    rw [arguments_tokens, arguments_tokens] at arguments
    simpa [isFunction, function.mp isFunction] using arguments
  · rw [hc.label_eq isFunction, hd.label_eq (function.mp isFunction), same]

/-- The text of a command is read as just its keywords, its name and its placeholders, whatever the
schema is called, and no other call has the same text. -/
theorem text_unambiguous {c : Command} (h : c.IsBuilt) :
    ∃ text, c.text = .ok text ∧ Sql.tokens? text = some c.tokens ∧
      ∀ d : Command, d.IsBuilt → d.text = .ok text → SameCall c d := by
  obtain ⟨text, made, read⟩ := h.tokens?_text
  refine ⟨text, made, read, fun d hd same => ?_⟩
  obtain ⟨text', made', read'⟩ := hd.tokens?_text
  cases same.symm.trans made'
  exact sameCall_of_tokens h hd (Option.some.inj (read.symm.trans read'))

/-- A procedure in a schema whose name looks like a name in brackets and a query. -/
def oddProcedure : Command :=
  ⟨"dbo].[t]; SELECT '?", "Touch", "[dbo]].[t]]; SELECT '?].[Touch]",
    [⟨"order", .plain .int32, false, "@order"⟩, ⟨"from_", .plain .string, true, "@from"⟩], .nothing,
    .storedProcedure⟩

theorem isBuilt_oddProcedure : oddProcedure.IsBuilt := by
  have order : Attribute.derive "order" (.plain .int32) false =
      .ok ⟨"order", .plain .int32, false, "@order"⟩ := by
    decide +kernel
  have since : Attribute.derive "from" (.plain .string) true =
      .ok ⟨"from_", .plain .string, true, "@from"⟩ := by
    decide +kernel
  have made : ofStoredProcedure oddProcedure.schema "Touch" oddProcedure.parameters .nothing =
      .ok oddProcedure := by
    decide +kernel
  refine .storedProcedure (List.forall_mem_cons.mpr ⟨?_, List.forall_mem_singleton.mpr ?_⟩) made
  · exact Attribute.isDerived_of_derive order
  · exact Attribute.isDerived_of_derive since

theorem text_unambiguous_oddProcedure :
    oddProcedure.IsBuilt ∧
      oddProcedure.text = .ok "EXEC [dbo]].[t]]; SELECT '?].[Touch] @order = ?, @from = ?" ∧
      Sql.tokens? "EXEC [dbo]].[t]]; SELECT '?].[Touch] @order = ?, @from = ?" =
        some oddProcedure.tokens ∧
      ∀ d : Command, d.IsBuilt → d.text = oddProcedure.text → SameCall oddProcedure d := by
  obtain ⟨text, made, read, alone⟩ := text_unambiguous isBuilt_oddProcedure
  obtain rfl : "EXEC [dbo]].[t]]; SELECT '?].[Touch] @order = ?, @from = ?" = text :=
    Except.ok.inj made
  exact ⟨isBuilt_oddProcedure, rfl, read, fun d hd same => alone d hd same⟩

end Command

end SqlBindings
