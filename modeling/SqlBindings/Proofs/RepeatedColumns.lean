import Mathlib.Data.List.Perm.Subperm
import Mathlib.Data.Nat.Find
import SqlBindings.Proofs.Construction

/-! A query may report a name twice. A column whose name is taken is tried under its position, then
under the numbers after it, until its name is a new one. -/

namespace SqlBindings

namespace Name

/-- The name that a column gets in generated code under a number. -/
def numbered (base : String) (number : Nat) : String := escape (base ++ toString number)

theorem toList_toString (number : Nat) : (toString number).toList = Nat.toDigits 10 number := by
  rw [Nat.toString_eq_ofList_toDigits, String.toList_ofList]

theorem toString_injective {i j : Nat} (h : toString i = toString j) : i = j := by
  have digits : Nat.toDigits 10 i = Nat.toDigits 10 j := by
    rw [← toList_toString, h, toList_toString]
  calc
    i = Nat.ofDigitChars 10 (Nat.toDigits 10 i) 0 := Nat.ofDigitChars_ten_toDigits.symm
    _ = Nat.ofDigitChars 10 (Nat.toDigits 10 j) 0 := by rw [digits]
    _ = j := Nat.ofDigitChars_ten_toDigits

theorem isIdentifierContinue_of_isDigit {c : Char} (h : c.isDigit = true) :
    Text.isIdentifierContinue c = true := by
  have ascii : c.toNat < 0x80 := by
    simp only [Char.isDigit, Bool.and_eq_true, decide_eq_true_eq] at h
    have := UInt32.le_iff_toNat_le.mp h.2
    simp only [Char.toNat]
    exact Nat.lt_of_le_of_lt this (by decide)
  rw [Text.isIdentifierContinue, if_pos ascii, Char.isAlphanum, h, Bool.or_true, Bool.true_or]

theorem isIdentifier_append_toString {base : String} (h : Text.isIdentifier base = true)
    (number : Nat) : Text.isIdentifier (base ++ toString number) = true := by
  refine isIdentifier_append h fun c mem => ?_
  rw [toList_toString] at mem
  exact isIdentifierContinue_of_isDigit (Nat.isDigit_of_mem_toDigits (by decide) (by decide) mem)

theorem getLast?_append_toString_ne (base : String) (number : Nat) :
    (base ++ toString number).toList.getLast? ≠ some '_' := by
  rw [String.toList_append, toList_toString, List.getLast?_append_of_ne_nil _ Nat.toDigits_ne_nil]
  exact fun last => Nat.underscore_not_in_toDigits (List.mem_of_getLast? last)

/-- Two numbers never make one name. Escaping only adds an underscore, and no number ends in one. -/
theorem numbered_injective (base : String) : Function.Injective (numbered base) := by
  intro i j same
  have number (h : base ++ toString i = base ++ toString j) : i = j :=
    toString_injective ((String.append_right_inj base).mp h)
  have ends (i j : Nat) : base ++ toString i ≠ base ++ toString j ++ "_" := by
    intro h
    have last := getLast?_append_underscore (base ++ toString j)
    rw [← h] at last
    exact getLast?_append_toString_ne base i last
  rcases escape_eq_iff.mp (show escape (base ++ toString i) = numbered base j from same) with
    ⟨plain, _⟩ | ⟨escaped, _⟩ <;>
    rcases escape_eq_iff.mp (show escape (base ++ toString j) = numbered base j from rfl) with
      ⟨plain', _⟩ | ⟨escaped', _⟩
  · exact number (plain.symm.trans plain')
  · exact absurd (plain.symm.trans escaped') (ends i j)
  · exact absurd (plain'.symm.trans escaped) (ends j i)
  · exact number ((String.append_left_inj "_").mp (escaped.symm.trans escaped'))

end Name

namespace Introspection

open Catalog Attribute

/-- The first number from `start` on that makes a new name. -/
structure FirstNew (taken : List String) (base : String) (start number : Nat) : Prop where
  start_le : start ≤ number
  new : Name.numbered base number ∉ taken
  least : ∀ earlier, start ≤ earlier → earlier < number → Name.numbered base earlier ∈ taken

/-- The numbers that are tried in vain make distinct names, all of which are taken. -/
theorem exists_new (taken : List String) (base : String) (start : Nat) :
    ∃ number, start ≤ number ∧ Name.numbered base number ∉ taken ∧
      number ≤ start + taken.length := by
  by_contra none
  have inVain : ∀ i < taken.length + 1, Name.numbered base (start + i) ∈ taken := by
    intro i hi
    by_contra new
    exact none ⟨start + i, by omega, new, by omega⟩
  let tried := (List.range (taken.length + 1)).map fun i => Name.numbered base (start + i)
  have distinct : tried.Nodup :=
    List.nodup_range.map fun i j same => Nat.add_left_cancel (Name.numbered_injective base same)
  have sub : tried ⊆ taken := by
    intro name mem
    obtain ⟨i, hi, rfl⟩ := List.mem_map.mp mem
    exact inVain i (List.mem_range.mp hi)
  have fewer : tried.length ≤ taken.length := (List.subperm_of_subset distinct sub).length_le
  simp only [tried, List.length_map, List.length_range] at fewer
  omega

theorem exists_firstNew (taken : List String) (base : String) (start : Nat) :
    ∃ number, FirstNew taken base start number ∧ number ≤ start + taken.length := by
  obtain ⟨number, startLe, new, bound⟩ := exists_new taken base start
  have found : ∃ number, start ≤ number ∧ Name.numbered base number ∉ taken :=
    ⟨number, startLe, new⟩
  refine ⟨Nat.find found, ⟨?_, ?_, ?_⟩, ?_⟩
  · exact (Nat.find_spec found).1
  · exact (Nat.find_spec found).2
  · intro earlier after before
    by_contra new
    exact Nat.find_min found before ⟨after, new⟩
  · exact Nat.le_trans (Nat.find_min' found ⟨startLe, new⟩) bound

/-- The number that is found does not depend on how many tries are allowed, if they are enough. -/
theorem numbered_eq {taken : List String} {base : String} {type : SqlType} {nullable : Bool}
    {suffix tries number : Nat} (identifier : Text.isIdentifier base = true)
    (first : FirstNew taken base suffix number) (enough : number ≤ suffix + tries) :
    numbered taken base type nullable suffix tries =
      .ok ⟨Name.numbered base number, type, nullable,
        Name.bindPrefix ++ (base ++ toString number)⟩ := by
  have derived (number : Nat) : derive (base ++ toString number) type nullable =
      .ok ⟨Name.numbered base number, type, nullable,
        Name.bindPrefix ++ (base ++ toString number)⟩ :=
    derive_eq_ok.mpr ⟨Name.isIdentifier_append_toString identifier number, rfl⟩
  have startLe := first.start_le
  induction tries generalizing suffix with
  | zero =>
    obtain rfl : suffix = number := by omega
    exact derived suffix
  | succ tries ih =>
    rw [numbered, derived, ok_bind]
    by_cases here : suffix = number
    · subst here
      rw [if_neg (by simpa using first.new)]
      rfl
    · have taken := first.least suffix (Nat.le_refl _) (by omega)
      rw [if_pos (by simpa using taken)]
      refine ih ⟨by omega, first.new, ?_⟩ (by omega) (by omega)
      exact fun earlier after => first.least earlier (by omega)

/-- What numbers are appended to: the reported name of a column, or that of columns without one. -/
def baseName (c : ResultColumn) : String := (resultName? c).getD "Value"

/-- What a column becomes beside earlier ones, if `own` is what it is by itself. -/
structure Settled (earlier : List String) (c : ResultColumn) (position : Nat)
    (own a : Attribute) : Prop where
  type : a.type = own.type
  nullable : a.nullable = own.nullable
  new : a.name ∉ earlier
  kept : own.name ∉ earlier → a = own
  /-- The first number that makes a new name is looked for from the position on. -/
  renamed : own.name ∈ earlier → ∃ number, FirstNew earlier (baseName c) position number ∧
    a.name = Name.numbered (baseName c) number ∧
    a.bindName = Name.bindPrefix ++ (baseName c ++ toString number)

theorem Settled.congr {earlier earlier' : List String} {c : ResultColumn} {position : Nat}
    {own a : Attribute} (same : ∀ name, name ∈ earlier ↔ name ∈ earlier')
    (h : Settled earlier c position own a) : Settled earlier' c position own a where
  type := h.type
  nullable := h.nullable
  new := mt (same _).mpr h.new
  kept new := h.kept (mt (same _).mp new)
  renamed taken := by
    obtain ⟨number, first, names⟩ := h.renamed ((same _).mpr taken)
    refine ⟨number, ⟨first.start_le, mt (same _).mpr first.new, ?_⟩, names⟩
    exact fun earlier after before => (same _).mp (first.least earlier after before)

/-- The name that numbers are appended to is an identifier if the column converts by itself. -/
theorem isIdentifier_baseName {c : ResultColumn} {position : Nat} {own : Attribute}
    (h : ofResultColumn c position = .ok own) : Text.isIdentifier (baseName c) = true := by
  obtain ⟨_, _, h⟩ := bind_eq_ok.mp h
  obtain ⟨identifier, _⟩ := derive_eq_ok.mp h
  unfold baseName
  cases name : resultName? c with
  | none => decide +kernel
  | some name' => rwa [name] at identifier

section

variable (taken : List String) {c : ResultColumn} {position : Nat}

theorem resultAttribute_of_error {e : Failure} (h : ofResultColumn c position = .error e) :
    resultAttribute taken c position = .error e := by
  rw [resultAttribute, h]
  rfl

/-- A column that converts by itself gets an attribute beside any others. -/
theorem resultAttribute_of_ok {own : Attribute} (h : ofResultColumn c position = .ok own) :
    ∃ a, resultAttribute taken c position = .ok a ∧ Settled taken c position own a := by
  rw [resultAttribute, h, ok_bind]
  by_cases new : own.name ∈ taken
  · obtain ⟨number, first, enough⟩ := exists_firstNew taken (baseName c) position
    rw [if_pos (by simpa using new)]
    refine ⟨_, numbered_eq (isIdentifier_baseName h) first enough, rfl, rfl, first.new, ?_, ?_⟩
    · exact fun fresh => absurd new fresh
    · exact fun _ => ⟨number, first, rfl, rfl⟩
  · rw [if_neg (by simpa using new)]
    exact ⟨own, rfl, rfl, rfl, new, fun _ => rfl, fun taken => absurd taken new⟩

end

/-- Every column converts by itself, if they are counted from `position` on. -/
def AllConvert (columns : List ResultColumn) (position : Nat) : Prop :=
  ∀ i c, columns[i]? = some c → ∃ own, ofResultColumn c (position + i) = .ok own

/-- Of the columns that do not convert the first one fails with `e`. -/
def FirstFailure (columns : List ResultColumn) (position : Nat) (e : Failure) : Prop :=
  ∃ i c, columns[i]? = some c ∧ ofResultColumn c (position + i) = .error e ∧
    AllConvert (columns.take i) position

/-- There is an attribute for each column, settled beside those of the columns before it. -/
structure AllSettled (taken : List String) (columns : List ResultColumn) (position : Nat)
    (attributes : List Attribute) : Prop where
  length_eq : attributes.length = columns.length
  each : ∀ i c a, columns[i]? = some c → attributes[i]? = some a →
    ∃ own, ofResultColumn c (position + i) = .ok own ∧
      Settled (taken ++ (attributes.take i).map name) c (position + i) own a
  distinct : (attributes.map name).Nodup
  new : ∀ a ∈ attributes, a.name ∉ taken

section

variable {taken : List String} {c : ResultColumn} {columns : List ResultColumn} {position : Nat}

theorem allConvert_cons : AllConvert (c :: columns) position ↔
    (∃ own, ofResultColumn c position = .ok own) ∧ AllConvert columns (position + 1) := by
  constructor
  · intro each
    refine ⟨each 0 c rfl, fun i c' here => ?_⟩
    rw [Nat.add_right_comm]
    exact each (i + 1) c' here
  · rintro ⟨first, rest⟩ i c' here
    cases i with
    | zero =>
      cases here
      exact first
    | succ i =>
      rw [← Nat.add_assoc, Nat.add_right_comm]
      exact rest i c' here

theorem firstFailure_cons {e : Failure} : FirstFailure (c :: columns) position e ↔
    ofResultColumn c position = .error e ∨
      (∃ own, ofResultColumn c position = .ok own) ∧ FirstFailure columns (position + 1) e := by
  constructor
  · rintro ⟨i, c', here, fails, before⟩
    cases i with
    | zero =>
      cases here
      exact .inl fails
    | succ i =>
      obtain ⟨first, before⟩ := allConvert_cons.mp before
      rw [← Nat.add_assoc, Nat.add_right_comm] at fails
      exact .inr ⟨first, i, c', here, fails, before⟩
  · rintro (fails | ⟨first, i, c', here, fails, before⟩)
    · exact ⟨0, c, rfl, fails, fun i c' here => by simp at here⟩
    · refine ⟨i + 1, c', here, ?_, allConvert_cons.mpr ⟨first, before⟩⟩
      rwa [← Nat.add_assoc, Nat.add_right_comm]

theorem allConvert_or_firstFailure (columns : List ResultColumn) (position : Nat) :
    AllConvert columns position ∨ ∃ e, FirstFailure columns position e := by
  induction columns generalizing position with
  | nil => exact .inl fun _ _ here => nomatch here
  | cons c columns ih =>
    cases converts : ofResultColumn c position with
    | error e => exact .inr ⟨e, firstFailure_cons.mpr (.inl converts)⟩
    | ok own =>
      rcases ih (position + 1) with rest | ⟨e, rest⟩
      · exact .inl (allConvert_cons.mpr ⟨⟨own, converts⟩, rest⟩)
      · exact .inr ⟨e, firstFailure_cons.mpr (.inr ⟨⟨own, converts⟩, rest⟩)⟩

theorem AllSettled.cons {own a : Attribute} {attributes : List Attribute}
    (converts : ofResultColumn c position = .ok own) (first : Settled taken c position own a)
    (rest : AllSettled (a.name :: taken) columns (position + 1) attributes) :
    AllSettled taken (c :: columns) position (a :: attributes) where
  length_eq := by simp [rest.length_eq]
  each i c' a' here there := by
    cases i with
    | zero =>
      cases here
      cases there
      exact ⟨own, converts, first.congr (by simp)⟩
    | succ i =>
      obtain ⟨own', converts', settled⟩ := rest.each i c' a' here there
      rw [← Nat.add_assoc, Nat.add_right_comm]
      refine ⟨own', converts', settled.congr fun name => ?_⟩
      simp only [List.take_succ_cons, List.map_cons, List.mem_append, List.mem_cons]
      tauto
  distinct := by
    refine List.nodup_cons.mpr ⟨fun mem => ?_, rest.distinct⟩
    obtain ⟨b, hb, same⟩ := List.mem_map.mp mem
    exact rest.new b hb (same ▸ List.mem_cons_self)
  new := List.forall_mem_cons.mpr
    ⟨first.new, fun b hb mem => rest.new b hb (List.mem_cons_of_mem _ mem)⟩

/-- Columns that convert by themselves are never refused for sharing a name. -/
theorem resultAttributesFrom_of_allConvert (taken : List String)
    (h : AllConvert columns position) :
    ∃ attributes, resultAttributesFrom taken position columns = .ok attributes ∧
      AllSettled taken columns position attributes := by
  induction columns generalizing taken position with
  | nil => exact ⟨[], rfl, rfl, fun _ _ _ here => (nomatch here), .nil, fun _ mem => nomatch mem⟩
  | cons c columns ih =>
    obtain ⟨⟨own, converts⟩, rest⟩ := allConvert_cons.mp h
    obtain ⟨a, made, settled⟩ := resultAttribute_of_ok taken converts
    obtain ⟨attributes, made', others⟩ := ih (a.name :: taken) rest
    refine ⟨a :: attributes, ?_, others.cons converts settled⟩
    rw [resultAttributesFrom, made, ok_bind, made']
    rfl

theorem resultAttributesFrom_of_firstFailure (taken : List String) {e : Failure}
    (h : FirstFailure columns position e) :
    resultAttributesFrom taken position columns = .error e := by
  induction columns generalizing taken position with
  | nil =>
    obtain ⟨_, _, here, _⟩ := h
    cases here
  | cons c columns ih =>
    rw [resultAttributesFrom]
    rcases firstFailure_cons.mp h with fails | ⟨⟨own, converts⟩, rest⟩
    · rw [resultAttribute_of_error taken fails]
      rfl
    · obtain ⟨a, made, _⟩ := resultAttribute_of_ok taken converts
      rw [made, ok_bind, ih _ rest]
      rfl

end

/-- The search for a new name ends, whatever is taken. Columns are made into attributes exactly if
each of them converts, and otherwise the first that does not is reported. The attributes are settled
in turn, so a table takes them as its columns. -/
theorem resultAttributes_settled (columns : List ResultColumn) :
    (∀ taken base start, ∃ number, FirstNew taken base start number ∧
      number ≤ start + taken.length) ∧
    ((∃ attributes, resultAttributes columns = .ok attributes) ↔ AllConvert columns 0) ∧
    (∀ e, resultAttributes columns = .error e ↔ FirstFailure columns 0 e) ∧
    ∀ attributes, resultAttributes columns = .ok attributes →
      AllSettled [] columns 0 attributes ∧
        (attributes ≠ [] → Returns.ofColumns attributes = .ok (.table attributes)) := by
  refine ⟨exists_firstNew, ?_⟩
  rcases allConvert_or_firstFailure columns 0 with converts | ⟨e, fails⟩
  · obtain ⟨attributes, made, settled⟩ := resultAttributesFrom_of_allConvert [] converts
    change resultAttributes columns = .ok attributes at made
    rw [made]
    refine ⟨⟨fun _ => converts, fun _ => ⟨attributes, rfl⟩⟩, fun e => ⟨nofun, fun fails => ?_⟩, ?_⟩
    · have failed := resultAttributesFrom_of_firstFailure [] fails
      exact nomatch made.symm.trans failed
    · rintro _ ⟨⟩
      exact ⟨settled, fun some => Returns.ofColumns_eq_ok.mpr ⟨some, settled.distinct, rfl⟩⟩
  · have failed : resultAttributes columns = .error e :=
      resultAttributesFrom_of_firstFailure [] fails
    rw [failed]
    refine ⟨⟨nofun, fun converts => ?_⟩, fun e' => ⟨?_, fun fails' => ?_⟩, nofun⟩
    · obtain ⟨_, made, _⟩ := resultAttributesFrom_of_allConvert [] converts
      exact nomatch made.symm.trans failed
    · rintro ⟨⟩
      exact fails
    · rw [← failed]
      exact resultAttributesFrom_of_firstFailure [] fails'

/-- Columns of a join. The second number of `Id` is the name of another column, and the last name is
taken by an escaped one. -/
def joinedColumns : List ResultColumn :=
  [⟨some "Id", .int, some 10, false⟩, ⟨some "Id2", .str, none, true⟩,
    ⟨some "Id", .int, some 19, true⟩, ⟨some "list", .str, none, true⟩,
    ⟨some "list_", .bool, none, false⟩, ⟨none, .uuid, none, false⟩]

def joinedAttributes : List Attribute :=
  [⟨"Id", .plain .int32, false, "@Id"⟩, ⟨"Id2", .plain .string, true, "@Id2"⟩,
    ⟨"Id3", .plain .int64, true, "@Id3"⟩, ⟨"list_", .plain .string, true, "@list"⟩,
    ⟨"list_4", .plain .bool, false, "@list_4"⟩, ⟨"Value5", .plain .guid, false, "@Value5"⟩]

theorem resultAttributes_settled_joined :
    resultAttributes joinedColumns = .ok joinedAttributes ∧
      AllSettled [] joinedColumns 0 joinedAttributes ∧
      Returns.ofColumns joinedAttributes = .ok (.table joinedAttributes) := by
  have made : resultAttributes joinedColumns = .ok joinedAttributes := by decide +kernel
  obtain ⟨settled, table⟩ := (resultAttributes_settled joinedColumns).2.2.2 _ made
  exact ⟨made, settled, table (List.cons_ne_nil _ _)⟩

end Introspection

end SqlBindings
