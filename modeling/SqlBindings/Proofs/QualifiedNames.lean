import SqlBindings.Sql.QualifiedName

/-!
A part of a name may hold dots and brackets of its own, so the length of a run of closing brackets
decides where the part ends.
-/

namespace SqlBindings.Sql

/-- What stands in brackets for a part. A closing bracket is written twice. -/
inductive Quotes : List Char → List Char → Prop
  | nil : Quotes [] []
  | plain {c : Char} {part text : List Char} (other : c ≠ ']') (rest : Quotes part text) :
      Quotes (c :: part) (c :: text)
  | doubled {part text : List Char} (rest : Quotes part text) :
      Quotes (']' :: part) (']' :: ']' :: text)

/-- The text of parts. There is at least one. -/
inductive NameText : List (List Char) → List Char → Prop
  | last {part text : List Char} (quotes : Quotes part text) :
      NameText [part] ('[' :: (text ++ [']']))
  | next {part text : List Char} {parts : List (List Char)} {rest : List Char}
      (quotes : Quotes part text) (others : NameText parts rest) :
      NameText (part :: parts) ('[' :: (text ++ ']' :: '.' :: rest))

section

variable {part text cs : List Char} {parts : List (List Char)}

theorem quotes_doubleBrackets (part : List Char) : Quotes part (doubleBrackets part) := by
  induction part with
  | nil => exact .nil
  | cons c part ih =>
    by_cases closing : c = ']'
    · subst closing
      exact .doubled ih
    · rw [doubleBrackets, if_neg closing]
      exact .plain closing ih

theorem Quotes.eq_doubleBrackets (h : Quotes part text) : text = doubleBrackets part := by
  induction h with
  | nil => rfl
  | plain other _ ih => rw [doubleBrackets, if_neg other, ih]
  | doubled _ ih => rw [doubleBrackets, if_pos rfl, ih]

/-- A name begins with the bracket of its first part. -/
theorem NameText.exists_behind (h : NameText parts cs) : ∃ rest, cs = '[' :: rest := by
  cases h with
  | last => exact ⟨_, rfl⟩
  | next => exact ⟨_, rfl⟩

/-- A character in front of the first part of a name, as it is written in brackets. -/
theorem NameText.cons {others : List (List Char)} {c : Char} {written rest : List Char}
    (h : NameText (part :: others) ('[' :: rest))
    (quotes : ∀ text, Quotes part text → Quotes (c :: part) (written ++ text)) :
    NameText ((c :: part) :: others) ('[' :: (written ++ rest)) := by
  cases h with
  | last inside =>
    rw [← List.append_assoc]
    exact .last (quotes _ inside)
  | next inside others =>
    rw [← List.append_assoc]
    exact .next (quotes _ inside) others

/-- What the reader finds behind an opening bracket is what the grammar gives. -/
theorem nameText_of_partsFrom? {read : List Char} (h : partsFrom? read cs = some parts) :
    ∃ part others, parts = (read ++ part) :: others ∧ NameText (part :: others) ('[' :: cs) := by
  fun_induction partsFrom? read cs generalizing parts with
  | case1 => cases h
  | case2 read =>
    cases h
    exact ⟨[], [], by rw [List.append_nil], .last .nil⟩
  | case3 read rest ih =>
    obtain ⟨part, others, rfl, name⟩ := ih h
    have doubled (text : List Char) (h : Quotes part text) :
        Quotes (']' :: part) ([']', ']'] ++ text) := .doubled h
    exact ⟨']' :: part, others, by rw [List.append_assoc, List.singleton_append],
      name.cons doubled⟩
  | case4 read rest ih =>
    obtain ⟨_, found, rfl⟩ := Option.map_eq_some_iff.mp h
    obtain ⟨part, others, rfl, name⟩ := ih found
    exact ⟨[], part :: others, by rw [List.append_nil]; rfl, .next .nil name⟩
  | case5 => cases h
  | case6 read c rest _ _ _ other ih =>
    obtain ⟨part, others, rfl, name⟩ := ih h
    have plain (text : List Char) (h : Quotes part text) : Quotes (c :: part) ([c] ++ text) :=
      .plain other h
    exact ⟨c :: part, others, by rw [List.append_assoc, List.singleton_append], name.cons plain⟩

theorem readParts?_of_nameText (h : NameText parts cs) : readParts? cs = some parts := by
  induction h with
  | last quotes =>
    rw [readParts?, quotes.eq_doubleBrackets]
    exact partsFrom?_doubleBrackets _ _
  | next quotes others ih =>
    obtain ⟨rest, rfl⟩ := others.exists_behind
    rw [readParts?] at ih
    rw [readParts?, quotes.eq_doubleBrackets, partsFrom?_doubleBrackets_dot, ih]
    rfl

/-- The reader takes a text to the end exactly if it is the text of a name, and finds its parts. -/
theorem readParts?_eq_some_iff : readParts? cs = some parts ↔ NameText parts cs := by
  refine ⟨fun h => ?_, readParts?_of_nameText⟩
  unfold readParts? at h
  split at h
  · obtain ⟨part, others, rfl, name⟩ := nameText_of_partsFrom? h
    exact name
  · cases h

theorem NameText.unique {others : List (List Char)} (h : NameText parts cs)
    (h' : NameText others cs) : parts = others :=
  Option.some.inj ((readParts?_of_nameText h).symm.trans (readParts?_of_nameText h'))

end

/-- The parts of a name. Without a schema there is only one. -/
def nameParts (schema name : String) : List (List Char) :=
  if schema = "" then [name.toList] else [schema.toList, name.toList]

theorem toList_bracketed (part : String) :
    (bracketed part).toList = '[' :: (doubleBrackets part.toList ++ [']']) := by
  simp [bracketed]

theorem nameText_qualifiedName (schema : String) {name : String} (some : name ≠ "") :
    NameText (nameParts schema name) (qualifiedName schema name).toList := by
  have last : NameText [name.toList] (bracketed name).toList := by
    rw [toList_bracketed]
    exact .last (quotes_doubleBrackets _)
  have joined (s t : String) : ".".intercalate [s, t] = s ++ "." ++ t := rfl
  unfold qualifiedName nameParts
  by_cases empty : schema = ""
  · simpa [empty, some] using last
  · have both : [schema, name].filter (· != "") = [schema, name] := by simp [empty, some]
    have text : (bracketed schema ++ "." ++ bracketed name).toList =
        '[' :: (doubleBrackets schema.toList ++ ']' :: '.' :: (bracketed name).toList) := by
      simp [toList_bracketed]
    rw [both, if_neg empty, List.map_cons, List.map_singleton, joined, text]
    exact .next (quotes_doubleBrackets _) last

theorem nameParts_inj {schema name schema' name' : String} :
    nameParts schema name = nameParts schema' name' ↔ schema = schema' ∧ name = name' := by
  unfold nameParts
  by_cases empty : schema = "" <;> by_cases empty' : schema' = "" <;>
    simp [empty, empty', String.toList_inj, eq_comm]

/-- A qualified name gives back the schema, if there is one, and the name, and no other schema and
name have it. -/
theorem qualifiedName_decodes (schema name : String) (some : name ≠ "") :
    readParts? (qualifiedName schema name).toList = Option.some (nameParts schema name) ∧
    (∀ parts, NameText parts (qualifiedName schema name).toList ↔ parts = nameParts schema name) ∧
    ∀ schema' name', name' ≠ "" →
      (qualifiedName schema' name' = qualifiedName schema name ↔ schema' = schema ∧ name' = name) := by
  have text := nameText_qualifiedName schema some
  refine ⟨readParts?_of_nameText text, fun parts => ?_, fun schema' name' some' => ?_⟩
  · exact ⟨fun other => other.unique text, fun same => same ▸ text⟩
  · constructor
    · intro same
      have text' := nameText_qualifiedName schema' some'
      rw [same] at text'
      exact nameParts_inj.mp (text'.unique text)
    · rintro ⟨rfl, rfl⟩
      rfl

/-- A schema that looks like the end of one part and the beginning of another. -/
theorem qualifiedName_decodes_brackets :
    qualifiedName "a].[b" "]]" = "[a]].[b].[]]]]]" ∧
      readParts? "[a]].[b].[]]]]]".toList = some ["a].[b".toList, "]]".toList] ∧
      qualifiedName "a" "b].[]]" ≠ qualifiedName "a].[b" "]]" := by
  obtain ⟨decoded, -, unique⟩ := qualifiedName_decodes "a].[b" "]]" (by decide)
  have text : qualifiedName "a].[b" "]]" = "[a]].[b].[]]]]]" := by decide +kernel
  have parts : nameParts "a].[b" "]]" = ["a].[b".toList, "]]".toList] := by decide +kernel
  rw [text, parts] at decoded
  refine ⟨text, decoded, fun same => ?_⟩
  exact absurd ((unique "a" "b].[]]" (by decide)).mp same) (by decide)

end SqlBindings.Sql
