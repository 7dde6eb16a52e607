import Mathlib.Data.List.Nodup
import SqlBindings.Introspection
import SqlBindings.Proofs.Naming

namespace SqlBindings.Attribute

open Catalog Introspection

/-- Both names of the attribute come from one name in SQL, which is an identifier. -/
def IsDerived (a : Attribute) : Prop :=
  ∃ sqlName, Text.isIdentifier sqlName = true ∧ a.name = Name.escape sqlName ∧
    a.bindName = Name.bindPrefix ++ sqlName

/-- Attributes with names derived from SQL, no two of them called the same. -/
structure Derived (attributes : List Attribute) : Prop where
  isDerived : ∀ a ∈ attributes, a.IsDerived
  nodup : (attributes.map name).Nodup

/-- What generated code relies on in the names of parameters or columns. -/
structure WellNamed (attributes : List Attribute) : Prop where
  isIdentifier : ∀ a ∈ attributes, Text.isIdentifier a.name = true
  not_keyword : ∀ a ∈ attributes, a.name ∉ Name.keywords
  not_reserved : ∀ a ∈ attributes, a.name ∉ Name.reserved
  names_nodup : (attributes.map name).Nodup
  bindNames : ∀ a ∈ attributes, ∃ sqlName, Text.isIdentifier sqlName = true ∧
    a.bindName = "@" ++ sqlName
  bindNames_nodup : (attributes.map bindName).Nodup

theorem derive_eq_ok {sqlName : String} {type : SqlType} {nullable : Bool} {a : Attribute} :
    derive sqlName type nullable = .ok a ↔ Text.isIdentifier sqlName = true ∧
      a = ⟨Name.escape sqlName, type, nullable, Name.bindPrefix ++ sqlName⟩ := by
  simp only [derive, bind_eq_ok, Name.attributeName_eq_ok, pure_eq_ok, Except.ok.injEq]
  constructor
  · rintro ⟨_, ⟨identifier, rfl⟩, rfl⟩
    exact ⟨identifier, rfl⟩
  · rintro ⟨identifier, rfl⟩
    exact ⟨_, ⟨identifier, rfl⟩, rfl⟩

theorem isDerived_of_derive {sqlName : String} {type : SqlType} {nullable : Bool} {a : Attribute}
    (h : derive sqlName type nullable = .ok a) : a.IsDerived := by
  obtain ⟨identifier, rfl⟩ := derive_eq_ok.mp h
  exact ⟨sqlName, identifier, rfl, rfl⟩

theorem isDerived_of_ofColumn {c : Column} {a : Attribute} (h : ofColumn c = .ok a) :
    a.IsDerived := by
  obtain ⟨_, _, h⟩ := bind_eq_ok.mp h
  exact isDerived_of_derive h

theorem isDerived_of_ofParameter {p : Parameter} {a : Attribute} (h : ofParameter p = .ok a) :
    a.IsDerived := by
  obtain ⟨_, _, h⟩ := bind_eq_ok.mp h
  obtain ⟨_, _, h⟩ := bind_eq_ok.mp h
  exact isDerived_of_derive h

theorem isDerived_of_ofResultColumn {c : ResultColumn} {position : Nat} {a : Attribute}
    (h : ofResultColumn c position = .ok a) : a.IsDerived := by
  obtain ⟨_, _, h⟩ := bind_eq_ok.mp h
  exact isDerived_of_derive h

theorem isDerived_of_numbered {taken : List String} {base : String} {type : SqlType}
    {nullable : Bool} {suffix tries : Nat} {a : Attribute}
    (h : numbered taken base type nullable suffix tries = .ok a) : a.IsDerived := by
  -- every try derives a name anew, whichever of them is taken in the end
  induction tries generalizing suffix with
  | zero => exact isDerived_of_derive h
  | succ tries ih =>
    obtain ⟨b, hb, h⟩ := bind_eq_ok.mp h
    split at h
    · exact ih h
    · cases h
      exact isDerived_of_derive hb

theorem isDerived_of_resultAttribute {taken : List String} {c : ResultColumn} {position : Nat}
    {a : Attribute} (h : resultAttribute taken c position = .ok a) : a.IsDerived := by
  obtain ⟨b, hb, h⟩ := bind_eq_ok.mp h
  split at h
  · exact isDerived_of_numbered h
  · cases h
    exact isDerived_of_ofResultColumn hb

theorem isDerived_of_resultAttributesFrom {taken : List String} {position : Nat}
    {columns : List ResultColumn} {attributes : List Attribute}
    (h : resultAttributesFrom taken position columns = .ok attributes) :
    ∀ a ∈ attributes, a.IsDerived := by
  induction columns generalizing taken position attributes with
  | nil =>
    cases h
    exact fun _ mem => absurd mem List.not_mem_nil
  | cons c columns ih =>
    obtain ⟨a, ha, h⟩ := bind_eq_ok.mp h
    obtain ⟨rest, hrest, h⟩ := bind_eq_ok.mp h
    cases h
    exact List.forall_mem_cons.mpr ⟨isDerived_of_resultAttribute ha, ih hrest⟩

theorem isDerived_of_resultAttributes {columns : List ResultColumn} {attributes : List Attribute}
    (h : resultAttributes columns = .ok attributes) : ∀ a ∈ attributes, a.IsDerived :=
  isDerived_of_resultAttributesFrom h

theorem checkDistinct_go_eq_ok {seen : List String} {attributes : List Attribute} :
    checkDistinct.go seen attributes = .ok () ↔
      (attributes.map name).Nodup ∧ ∀ a ∈ attributes, a.name ∉ seen := by
  induction attributes generalizing seen with
  | nil => simp [checkDistinct.go]
  | cons a rest ih =>
    by_cases taken : a.name ∈ seen
    · simp [checkDistinct.go, taken]
    · rw [checkDistinct.go, if_neg (by simpa using taken), ih, List.map_cons, List.nodup_cons,
        List.forall_mem_cons]
      simp only [List.mem_cons, List.mem_map]
      grind

theorem checkDistinct_eq_ok {attributes : List Attribute} :
    checkDistinct attributes = .ok () ↔ (attributes.map name).Nodup := by
  simp [checkDistinct, checkDistinct_go_eq_ok]

/-- Two attributes bound under one name are called the same. -/
theorem IsDerived.name_eq {a b : Attribute} (ha : a.IsDerived) (hb : b.IsDerived)
    (same : a.bindName = b.bindName) : a.name = b.name := by
  obtain ⟨s, _, hs, bindS⟩ := ha
  obtain ⟨t, _, ht, bindT⟩ := hb
  rw [bindS, bindT, String.append_right_inj] at same
  rw [hs, ht, same]

theorem Derived.wellNamed {attributes : List Attribute} (h : Derived attributes) :
    WellNamed attributes := by
  have escaped : ∀ a ∈ attributes, a.name ∉ Name.keywords ++ Name.reserved := by
    intro a ha
    obtain ⟨sqlName, _, hn, _⟩ := h.isDerived a ha
    exact hn ▸ Name.escape_not_mem sqlName
  refine ⟨?_, ?_, ?_, h.nodup, ?_, ?_⟩
  · intro a ha
    obtain ⟨sqlName, identifier, hn, _⟩ := h.isDerived a ha
    exact hn ▸ Name.isIdentifier_escape identifier
  · exact fun a ha mem => escaped a ha (List.mem_append_left _ mem)
  · exact fun a ha mem => escaped a ha (List.mem_append_right _ mem)
  · intro a ha
    obtain ⟨sqlName, identifier, _, hb⟩ := h.isDerived a ha
    exact ⟨sqlName, identifier, hb⟩
  -- escaping is not injective, but names that differ after it have differed before
  · refine List.Nodup.map_on ?_ h.nodup.of_map
    intro a ha b hb same
    exact List.inj_on_of_nodup_map h.nodup ha hb
      ((h.isDerived a ha).name_eq (h.isDerived b hb) same)

end SqlBindings.Attribute
