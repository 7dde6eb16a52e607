import SqlBindings.Name
import SqlBindings.Proofs.Result

namespace SqlBindings.Text

def within (r r' : Nat × Nat) : Bool := r'.1 ≤ r.1 && r.2 ≤ r'.2

/-- Both lists ascend, so it is enough to go along the second one and leave out what lies in it. -/
theorem startRanges_covered : identifierContinueRanges.foldl (fun starts r' =>
    starts.dropWhile fun r => within r r') identifierStartRanges = [] := by
  decide +kernel

theorem exists_within_of_foldl {outer inner : List (Nat × Nat)}
    (h : outer.foldl (fun starts r' => starts.dropWhile fun r => within r r') inner = []) :
    ∀ r ∈ inner, ∃ r' ∈ outer, within r r' = true := by
  induction outer generalizing inner with
  | nil =>
    rw [List.foldl_nil] at h
    rw [h]
    exact fun _ mem => absurd mem List.not_mem_nil
  | cons r' outer ih =>
    intro r mem
    rw [← List.takeWhile_append_dropWhile (p := fun r => within r r') (l := inner)] at mem
    rcases List.mem_append.mp mem with here | later
    · exact ⟨r', List.mem_cons_self, List.all_eq_true.mp List.all_takeWhile r here⟩
    · obtain ⟨r'', mem, inside⟩ := ih h r later
      exact ⟨r'', List.mem_cons_of_mem _ mem, inside⟩

/-- A character that an identifier may begin with is one that it may go on with. -/
theorem isIdentifierContinue_of_start {c : Char} (h : isIdentifierStart c = true) :
    isIdentifierContinue c = true := by
  unfold isIdentifierStart at h
  unfold isIdentifierContinue
  split at h
  · rename_i ascii
    rw [if_pos ascii]
    rw [Bool.or_eq_true] at h ⊢
    exact h.imp_left fun alpha => by simp [Char.isAlphanum, alpha]
  · rename_i beyond
    rw [if_neg beyond]
    obtain ⟨r, mem, inside⟩ := List.any_eq_true.mp h
    obtain ⟨r', mem', within⟩ := exists_within_of_foldl startRanges_covered r mem
    refine List.any_eq_true.mpr ⟨r', mem', ?_⟩
    simp only [Text.within, Bool.and_eq_true, decide_eq_true_eq] at within inside ⊢
    omega

theorem isIdentifierContinue_of_mem {name : String} (h : isIdentifier name = true) :
    ∀ c ∈ name.toList, isIdentifierContinue c = true := by
  unfold isIdentifier at h
  cases chars : name.toList with
  | nil => exact fun _ mem => absurd mem List.not_mem_nil
  | cons first rest =>
    rw [chars] at h
    obtain ⟨start, others⟩ := Bool.and_eq_true_iff.mp h
    exact List.forall_mem_cons.mpr ⟨isIdentifierContinue_of_start start, List.all_eq_true.mp others⟩

end SqlBindings.Text

namespace SqlBindings.Name

/-- A name that stands unescaped as the name of a class. -/
def IsClassName (name : String) : Prop := Text.isIdentifier name = true ∧ name ∉ keywords

/-- A name that is escaped. -/
def NeedsEscape (name : String) : Prop :=
  name ∈ keywords ∨ name ∈ reserved ∨ schemaAliasPrefix.toList <+: name.toList

instance (name : String) : Decidable (NeedsEscape name) :=
  inferInstanceAs (Decidable (_ ∨ _ ∨ _))

/-- The name in generated code of an identifier in SQL. -/
def escape (name : String) : String := if NeedsEscape name then name ++ "_" else name

theorem isTaken_iff {name : String} :
    isTaken name = true ↔ name ∈ reserved ∨ schemaAliasPrefix.toList <+: name.toList := by
  simp [isTaken]

theorem getLast?_append_underscore (name : String) : (name ++ "_").toList.getLast? = some '_' := by
  simp

theorem getLast?_ne_underscore :
    ∀ word ∈ keywords ++ reserved, word.toList.getLast? ≠ some '_' := by
  decide +kernel

theorem append_underscore_not_mem (name : String) : name ++ "_" ∉ keywords ++ reserved :=
  fun mem => getLast?_ne_underscore _ mem (getLast?_append_underscore name)

theorem schemaAliasPrefix_not_prefix :
    ∀ word ∈ keywords ++ reserved, ¬ schemaAliasPrefix.toList <+: (word ++ "_").toList := by
  decide +kernel

/-- An escaped keyword is not escaped again. -/
theorem not_isTaken_keyword {word : String} (h : word ∈ keywords) :
    isTaken (word ++ "_") = false := by
  have fresh : word ++ "_" ∉ reserved := fun mem =>
    append_underscore_not_mem word (List.mem_append_right _ mem)
  have noAlias := schemaAliasPrefix_not_prefix word (List.mem_append_left _ h)
  exact Bool.eq_false_iff.mpr fun taken => (isTaken_iff.mp taken).elim fresh noAlias

theorem escapeKeyword_eq_ok {name result : String} :
    escapeKeyword name = .ok result ↔
      Text.isIdentifier name = true ∧ result = if name ∈ keywords then name ++ "_" else name := by
  have noName : Text.isIdentifier "" = false := by decide
  unfold escapeKeyword
  by_cases empty : name = ""
  · simp [empty, noName]
  · cases Text.isIdentifier name <;> simp [empty, eq_comm]

theorem attributeName_eq_ok {name result : String} :
    attributeName name = .ok result ↔ Text.isIdentifier name = true ∧ result = escape name := by
  simp only [attributeName, bind_eq_ok, escapeKeyword_eq_ok, pure_eq_ok, Except.ok.injEq]
  by_cases keyword : name ∈ keywords
  · have escaped : escape name = name ++ "_" := if_pos (.inl keyword)
    simp only [if_pos keyword, escaped]
    constructor
    · rintro ⟨_, ⟨identifier, rfl⟩, rfl⟩
      simp only [not_isTaken_keyword keyword, identifier, Bool.false_eq_true, if_false, and_self]
    · rintro ⟨identifier, rfl⟩
      refine ⟨_, ⟨identifier, rfl⟩, ?_⟩
      simp only [not_isTaken_keyword keyword, Bool.false_eq_true, if_false]
  · have taken : NeedsEscape name ↔ isTaken name = true := by
      rw [isTaken_iff, NeedsEscape, or_iff_right keyword]
    simp only [if_neg keyword, escape, taken]
    constructor
    · rintro ⟨_, ⟨identifier, rfl⟩, rfl⟩
      exact ⟨identifier, rfl⟩
    · rintro ⟨identifier, rfl⟩
      exact ⟨_, ⟨identifier, rfl⟩, rfl⟩

theorem checkClassName_eq_ok {name : String} : checkClassName name = .ok () ↔ IsClassName name := by
  have differs : name ++ "_" ≠ name := by simp
  simp only [checkClassName, bind_eq_ok, escapeKeyword_eq_ok, IsClassName]
  constructor
  · rintro ⟨_, ⟨identifier, rfl⟩, h⟩
    refine ⟨identifier, fun keyword => ?_⟩
    rw [if_pos keyword, if_pos differs] at h
    cases h
  · rintro ⟨identifier, plain⟩
    refine ⟨name, ⟨identifier, (if_neg plain).symm⟩, ?_⟩
    rw [if_neg (not_not.mpr rfl)]
    rfl

theorem isIdentifier_append {name ending : String} (h : Text.isIdentifier name = true)
    (goesOn : ∀ c ∈ ending.toList, Text.isIdentifierContinue c = true) :
    Text.isIdentifier (name ++ ending) = true := by
  unfold Text.isIdentifier at h ⊢
  rw [String.toList_append]
  cases hn : name.toList with
  | nil =>
    rw [hn] at h
    cases h
  | cons c cs =>
    rw [hn] at h
    obtain ⟨start, rest⟩ := Bool.and_eq_true_iff.mp h
    simp only [List.cons_append, Text.isIdentifierChars, List.all_append, start, rest,
      Bool.true_and]
    exact List.all_eq_true.mpr goesOn

theorem isIdentifier_append_underscore {name : String} (h : Text.isIdentifier name = true) :
    Text.isIdentifier (name ++ "_") = true := by
  have goesOn : "_".toList.all Text.isIdentifierContinue = true := by decide
  exact isIdentifier_append h (List.all_eq_true.mp goesOn)

theorem isIdentifier_escape {name : String} (h : Text.isIdentifier name = true) :
    Text.isIdentifier (escape name) = true := by
  unfold escape
  split
  · exact isIdentifier_append_underscore h
  · exact h

theorem escape_not_mem (name : String) : escape name ∉ keywords ++ reserved := by
  unfold escape
  split
  · exact append_underscore_not_mem name
  · rename_i plain
    rw [List.mem_append]
    exact fun mem => plain (mem.imp_right .inl)

theorem escape_eq_iff {name result : String} :
    escape name = result ↔
      (result = name ∧ ¬ NeedsEscape name) ∨ (result = name ++ "_" ∧ NeedsEscape name) := by
  unfold escape
  split <;> simp [*, eq_comm]

theorem needsEscape_schemaAlias (schema : String) : NeedsEscape (schemaAlias schema) :=
  .inr (.inr ⟨schema.toList, (String.toList_append ..).symm⟩)

/-- The name of an attribute is the alias of a module only if it comes from the alias of another
one, whose schema lacks the trailing underscore. -/
theorem escape_eq_schemaAlias {name schema : String} :
    escape name = schemaAlias schema ↔ ∃ stem, schema = stem ++ "_" ∧ name = schemaAlias stem := by
  constructor
  · intro h
    rcases escape_eq_iff.mp h with ⟨rfl, plain⟩ | ⟨same, escaped⟩
    · exact absurd (needsEscape_schemaAlias schema) plain
    -- one underscore was added: what stands before it begins like an alias or is one of the words
    · have aliased : schemaAliasPrefix.toList <+: (name ++ "_").toList :=
        ⟨schema.toList, by rw [← same, schemaAlias, String.toList_append]⟩
      have noWord : name ∉ keywords ++ reserved := fun mem =>
        schemaAliasPrefix_not_prefix name mem aliased
      rw [List.mem_append, not_or] at noWord
      obtain ⟨stem, hs⟩ := (escaped.resolve_left noWord.1).resolve_left noWord.2
      have name_eq : name = schemaAlias (String.ofList stem) :=
        String.toList_injective (by rw [schemaAlias, String.toList_append, String.toList_ofList, hs])
      refine ⟨String.ofList stem, ?_, name_eq⟩
      rw [name_eq, schemaAlias, schemaAlias, String.append_assoc] at same
      exact (String.append_right_inj _).mp same
  · rintro ⟨stem, rfl, rfl⟩
    rw [escape, if_pos (needsEscape_schemaAlias stem), schemaAlias, schemaAlias, String.append_assoc]

end SqlBindings.Name
