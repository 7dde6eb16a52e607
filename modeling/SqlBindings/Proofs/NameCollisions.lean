import SqlBindings.Proofs.Attributes

namespace SqlBindings

namespace Name

/-- One name is a keyword or a word that generated code uses, and the other one is that word with an
underscore behind it. -/
def Collide (a b : String) : Prop :=
  ∃ word ∈ keywords ++ reserved, (a = word ∧ b = word ++ "_") ∨ (b = word ∧ a = word ++ "_")

instance (a b : String) : Decidable (Collide a b) :=
  inferInstanceAs (Decidable (∃ word ∈ keywords ++ reserved, _))

theorem Collide.symm {a b : String} (h : Collide a b) : Collide b a := by
  obtain ⟨word, mem, either⟩ := h
  exact ⟨word, mem, either.symm⟩

theorem needsEscape_of_mem {word : String} (h : word ∈ keywords ++ reserved) : NeedsEscape word :=
  (List.mem_append.mp h).imp_right .inl

theorem prefix_append_underscore {start : List Char} {name : String} (h : start <+: name.toList) :
    start <+: (name ++ "_").toList := by
  rw [String.toList_append]
  exact h.trans (List.prefix_append _ _)

theorem not_prefix_of_mem {word : String} (h : word ∈ keywords ++ reserved) :
    ¬ schemaAliasPrefix.toList <+: word.toList :=
  fun aliased => schemaAliasPrefix_not_prefix word h (prefix_append_underscore aliased)

/-- The underscore leaves a name at the beginning of an alias only if it was there before. -/
theorem needsEscape_append_iff {name : String} (h : NeedsEscape name) :
    NeedsEscape (name ++ "_") ↔ schemaAliasPrefix.toList <+: name.toList := by
  have fresh : name ++ "_" ∉ keywords ++ reserved := append_underscore_not_mem name
  rw [List.mem_append, not_or] at fresh
  rw [NeedsEscape, or_iff_right fresh.1, or_iff_right fresh.2]
  refine ⟨fun aliased => ?_, prefix_append_underscore⟩
  by_contra plain
  have word : name ∈ keywords ++ reserved :=
    List.mem_append.mpr (h.imp_right fun other => other.resolve_right plain)
  exact schemaAliasPrefix_not_prefix name word aliased

/-- A name that is escaped to another one is a word, for the alias of a module would still be
escaped itself. -/
theorem collide_of_escaped {a b : String} (escaped : NeedsEscape a) (plain : ¬ NeedsEscape b)
    (same : a ++ "_" = b) : Collide a b := by
  subst same
  have noAlias := mt (needsEscape_append_iff escaped).mpr plain
  have word : a ∈ keywords ++ reserved :=
    List.mem_append.mpr (escaped.imp_right fun other => other.resolve_right noAlias)
  exact ⟨a, word, .inl ⟨rfl, rfl⟩⟩

theorem escape_eq_of_collide {a b : String} (h : Collide a b) : escape a = escape b := by
  have each {word : String} (mem : word ∈ keywords ++ reserved) :
      escape word = escape (word ++ "_") := by
    have once := needsEscape_of_mem mem
    have twice := mt (needsEscape_append_iff once).mp (not_prefix_of_mem mem)
    rw [escape, if_pos once, escape, if_neg twice]
  obtain ⟨word, mem, ⟨rfl, rfl⟩ | ⟨rfl, rfl⟩⟩ := h
  · exact each mem
  · exact (each mem).symm

/-- Two names are escaped to the same one exactly if they collide. -/
theorem escape_eq_escape_iff {a b : String} (differ : a ≠ b) :
    escape a = escape b ↔ Collide a b := by
  refine ⟨fun same => ?_, escape_eq_of_collide⟩
  by_cases ha : NeedsEscape a <;> by_cases hb : NeedsEscape b <;>
    simp only [escape, ha, hb, if_true, if_false] at same
  · exact absurd ((String.append_left_inj "_").mp same) differ
  · exact collide_of_escaped ha hb same
  · exact (collide_of_escaped hb ha same.symm).symm
  · exact absurd same differ

/-- Escaping a second time changes a name exactly if it begins like the alias of a module. -/
theorem escape_escape_iff {name : String} :
    escape (escape name) = escape name ↔ ¬ schemaAliasPrefix.toList <+: name.toList := by
  by_cases escaped : NeedsEscape name
  · have once : escape name = name ++ "_" := if_pos escaped
    have longer : name ++ "_" ++ "_" ≠ name ++ "_" := by simp
    rw [once, escape, ite_eq_right_iff, needsEscape_append_iff escaped]
    exact forall_congr' fun _ => iff_false_intro longer
  · have never : escape name = name := if_neg escaped
    rw [never, never]
    exact iff_of_true rfl fun aliased => escaped (.inr (.inr aliased))

theorem isIdentifier_of_mem :
    ∀ word ∈ keywords ++ reserved, Text.isIdentifier word = true := by
  decide +kernel

end Name

namespace Attribute

open Name (Collide keywords reserved)

/-- Two identifiers yield attributes with one name exactly if they collide, and the names that are
bound are never the same. What was escaped once for being a word stays as it is. -/
theorem derive_collides_iff :
    (∀ a b : String, Text.isIdentifier a = true → Text.isIdentifier b = true → a ≠ b →
      ∀ (s t : SqlType) (m n : Bool), ∃ x y, derive a s m = .ok x ∧ derive b t n = .ok y ∧
        (x.name = y.name ↔ Collide a b) ∧ x.bindName ≠ y.bindName) ∧
    ∀ word ∈ keywords ++ reserved, ∀ (t : SqlType) (n : Bool), ∃ x y,
      derive word t n = .ok x ∧ x.name = word ++ "_" ∧
        derive x.name t n = .ok y ∧ y.name = x.name := by
  constructor
  · intro a b ha hb differ s t m n
    refine ⟨_, _, derive_eq_ok.mpr ⟨ha, rfl⟩, derive_eq_ok.mpr ⟨hb, rfl⟩,
      Name.escape_eq_escape_iff differ, ?_⟩
    exact fun same => differ ((String.append_right_inj _).mp same)
  · intro word mem t n
    have identifier := Name.isIdentifier_of_mem word mem
    have again := Name.isIdentifier_escape identifier
    refine ⟨_, _, derive_eq_ok.mpr ⟨identifier, rfl⟩, if_pos (Name.needsEscape_of_mem mem),
      derive_eq_ok.mpr ⟨again, rfl⟩, ?_⟩
    exact Name.escape_escape_iff.mpr (Name.not_prefix_of_mem mem)

/-- A keyword collides with the escaped keyword, the alias of a module with nothing. -/
theorem derive_collides_iff_from :
    (∃ x y, derive "from" (.plain .int32) false = .ok x ∧
      derive "from_" (.plain .string) true = .ok y ∧ x.name = y.name ∧ x.bindName ≠ y.bindName) ∧
    (∃ x y, derive "_schema_hr" (.plain .int32) false = .ok x ∧
      derive "_schema_hr_" (.plain .int32) false = .ok y ∧ x.name ≠ y.name) ∧
    ∃ x y, derive "values" (.plain .int32) false = .ok x ∧ x.name = "values_" ∧
      derive x.name (.plain .int32) false = .ok y ∧ y.name = "values_" := by
  obtain ⟨pairs, words⟩ := derive_collides_iff
  refine ⟨?_, ?_, ?_⟩
  · obtain ⟨x, y, hx, hy, collide, bound⟩ := pairs "from" "from_" (by decide) (by decide)
      (by decide) (.plain .int32) (.plain .string) false true
    exact ⟨x, y, hx, hy, collide.mpr (by decide +kernel), bound⟩
  · obtain ⟨x, y, hx, hy, collide, -⟩ := pairs "_schema_hr" "_schema_hr_" (by decide) (by decide)
      (by decide) (.plain .int32) (.plain .int32) false false
    exact ⟨x, y, hx, hy, mt collide.mp (by decide +kernel)⟩
  · obtain ⟨x, y, hx, once, hy, twice⟩ := words "values" (by decide) (.plain .int32) false
    exact ⟨x, y, hx, once, hy, twice.trans once⟩

end Attribute

end SqlBindings
