import SqlBindings.Proofs.RepeatedColumns

/-!
A column that repeats a name is given a new one, and that may be the name of a column still to come.
-/

namespace SqlBindings.Introspection

open Catalog Attribute

theorem FirstNew.unique {taken : List String} {base : String} {start i j : Nat}
    (first : FirstNew taken base start i) (other : FirstNew taken base start j) : i = j := by
  rcases Nat.lt_trichotomy i j with before | same | after
  · exact absurd (other.least i first.start_le before) first.new
  · exact same
  · exact absurd (first.least j other.start_le after) other.new

/-- The name of a column that stands alone, a placeholder if it reports none. -/
def ownName (c : ResultColumn) (position : Nat) : String :=
  Name.escape ((resultName? c).getD (placeholderName position))

theorem name_ofResultColumn {c : ResultColumn} {position : Nat} {own : Attribute}
    (h : ofResultColumn c position = .ok own) : own.name = ownName c position := by
  obtain ⟨_, _, h⟩ := bind_eq_ok.mp h
  obtain ⟨_, rfl⟩ := derive_eq_ok.mp h
  rfl

/-- No column but the one at `i` has the name. -/
def OnlyAt (columns : List ResultColumn) (i : Nat) (name : String) : Prop :=
  ∀ j c, columns[j]? = some c → j ≠ i → ownName c j ≠ name

/-- The column at `j` repeats a name, and is given `name`: the first new one among those it may have,
which are numbered from its position on. -/
def GivenTo (name : String) (columns : List ResultColumn) (attributes : List Attribute) (j : Nat) :
    Prop :=
  ∃ c, columns[j]? = some c ∧ ownName c j ∈ (attributes.take j).map Attribute.name ∧
    ∃ number, FirstNew ((attributes.take j).map Attribute.name) (baseName c) j number ∧
      Name.numbered (baseName c) number = name

section

variable {columns : List ResultColumn} {attributes : List Attribute}

/-- What became of the column at a position. -/
theorem AllSettled.at (settled : AllSettled [] columns 0 attributes) {i : Nat} {c : ResultColumn}
    (here : columns[i]? = some c) :
    ∃ a own, attributes[i]? = some a ∧ own.name = ownName c i ∧
      Settled ((attributes.take i).map Attribute.name) c i own a := by
  have inside : i < attributes.length := by
    rw [settled.length_eq]
    exact (List.getElem?_eq_some_iff.mp here).1
  obtain ⟨own, converts, each⟩ :=
    settled.each i c attributes[i] here (List.getElem?_eq_getElem inside)
  rw [Nat.zero_add] at converts each
  exact ⟨attributes[i], own, List.getElem?_eq_getElem inside, name_ofResultColumn converts, each⟩

/-- A name that only one column has is taken before its turn exactly if it was given away. -/
theorem name_mem_iff (settled : AllSettled [] columns 0 attributes) {i : Nat} {name : String}
    (only : OnlyAt columns i name) :
    name ∈ (attributes.take i).map Attribute.name ↔
      ∃ j < i, GivenTo name columns attributes j := by
  constructor
  · intro taken
    obtain ⟨a, mem, rfl⟩ := List.mem_map.mp taken
    obtain ⟨j, before, there⟩ := List.mem_take_iff_getElem.mp mem
    have before : j < i ∧ j < attributes.length := by omega
    have inside : j < columns.length := settled.length_eq ▸ before.2
    have column := List.getElem?_eq_getElem inside
    obtain ⟨b, own, found, name, each⟩ := settled.at column
    obtain rfl : b = a := by
      rw [List.getElem?_eq_getElem before.2, there] at found
      exact (Option.some.inj found).symm
    -- it is not the name of that column itself, which must then have been renamed
    have other : own.name ≠ b.name := name ▸ only j _ column (Nat.ne_of_lt before.1)
    have repeated : own.name ∈ (attributes.take j).map Attribute.name := by
      by_contra new
      exact other (congrArg Attribute.name (each.kept new)).symm
    obtain ⟨number, first, given, _⟩ := each.renamed repeated
    exact ⟨j, before.1, _, column, name ▸ repeated, number, first, given.symm⟩
  · rintro ⟨j, before, c, column, repeated, number, first, rfl⟩
    obtain ⟨b, own, found, name, each⟩ := settled.at column
    obtain ⟨number', first', given, _⟩ := each.renamed (name ▸ repeated)
    obtain rfl := first.unique first'
    rw [← given]
    refine List.mem_map_of_mem (List.mem_of_getElem? (i := j) ?_)
    rw [List.getElem?_take_of_lt before, found]

theorem settled_of_ok (made : resultAttributes columns = .ok attributes) :
    AllSettled [] columns 0 attributes := by
  rcases allConvert_or_firstFailure columns 0 with converts | ⟨e, fails⟩
  · obtain ⟨attributes', made', settled⟩ := resultAttributesFrom_of_allConvert [] converts
    obtain rfl := Except.ok.inj (made.symm.trans made')
    exact settled
  · exact nomatch made.symm.trans (resultAttributesFrom_of_firstFailure [] fails)

/-- A column that shares its name with no other keeps it, unless an earlier column that repeats some
other name was given it. -/
theorem resultAttributes_keepsName_iff (made : resultAttributes columns = .ok attributes) {i : Nat}
    {c : ResultColumn} (here : columns[i]? = some c) (only : OnlyAt columns i (ownName c i)) :
    ∃ a, attributes[i]? = some a ∧
      (a.name = ownName c i ↔ ¬ ∃ j < i, GivenTo (ownName c i) columns attributes j) := by
  obtain ⟨a, own, found, name, each⟩ := (settled_of_ok made).at here
  refine ⟨a, found, ?_⟩
  rw [← name_mem_iff (settled_of_ok made) only]
  constructor
  · exact fun same taken => each.new (same ▸ taken)
  · intro free
    rw [each.kept (name ▸ free), name]

end

/-- Columns of a join: a repeated `Id`, a column with the name that the repeated one is given, and one
with a name that no number makes. -/
def displacedColumns : List ResultColumn :=
  [⟨some "Id", .int, some 10, false⟩, ⟨some "Id", .int, some 10, false⟩,
    ⟨some "Id1", .str, none, true⟩, ⟨some "Name", .str, none, true⟩]

def displacedAttributes : List Attribute :=
  [⟨"Id", .plain .int32, false, "@Id"⟩, ⟨"Id1", .plain .int32, false, "@Id1"⟩,
    ⟨"Id12", .plain .string, true, "@Id12"⟩, ⟨"Name", .plain .string, true, "@Name"⟩]

theorem displacedColumns_made : resultAttributes displacedColumns = .ok displacedAttributes := by
  decide +kernel

theorem displacedColumns_onlyAt :
    OnlyAt displacedColumns 2 "Id1" ∧ OnlyAt displacedColumns 3 "Name" := by
  constructor
  all_goals
    intro j c column other
    match j with
    | 0 | 1 | 2 | 3 =>
      obtain rfl := Option.some.inj column
      first | exact absurd rfl other | decide +kernel
    | j + 4 => cases column

theorem resultAttributes_keepsName_iff_displaced :
    resultAttributes displacedColumns = .ok displacedAttributes ∧
      OnlyAt displacedColumns 2 "Id1" ∧ OnlyAt displacedColumns 3 "Name" ∧
      (∃ j < 2, GivenTo "Id1" displacedColumns displacedAttributes j) ∧
      ¬ ∃ j < 3, GivenTo "Name" displacedColumns displacedAttributes j := by
  obtain ⟨only2, only3⟩ := displacedColumns_onlyAt
  have own2 : ownName ⟨some "Id1", .str, none, true⟩ 2 = "Id1" := by decide +kernel
  have own3 : ownName ⟨some "Name", .str, none, true⟩ 3 = "Name" := by decide +kernel
  obtain ⟨a, here, lost⟩ := resultAttributes_keepsName_iff displacedColumns_made rfl (own2 ▸ only2)
  obtain ⟨b, there, kept⟩ := resultAttributes_keepsName_iff displacedColumns_made rfl (own3 ▸ only3)
  obtain rfl := Option.some.inj here
  obtain rfl := Option.some.inj there
  rw [own2] at lost
  rw [own3] at kept
  refine ⟨displacedColumns_made, only2, only3, ?_, kept.mp rfl⟩
  by_contra free
  exact absurd (lost.mpr free) (by decide)

/-- The name `Id1`, which one column has, is given to the column before it. -/
theorem resultAttributes_losesName :
    ∃ columns attributes c, resultAttributes columns = .ok attributes ∧ columns[2]? = some c ∧
      resultName? c = some "Id1" ∧ OnlyAt columns 2 (ownName c 2) ∧
      attributes[2]?.map Attribute.name ≠ some (ownName c 2) := by
  have own : ownName ⟨some "Id1", .str, none, true⟩ 2 = "Id1" := by decide +kernel
  refine ⟨displacedColumns, displacedAttributes, _, displacedColumns_made, rfl, by decide, ?_, ?_⟩
  · exact own ▸ displacedColumns_onlyAt.1
  · rw [own]
    decide

end SqlBindings.Introspection
