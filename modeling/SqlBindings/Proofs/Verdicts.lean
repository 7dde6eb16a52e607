import SqlBindings.Proofs.Result
import SqlBindings.Catalog.Entry

namespace SqlBindings

variable {α β : Type}

namespace Verdict

theorem seq_eq_accepted {f : Verdict (α → β)} {v : Verdict α} {b : β} :
    f <*> v = accepted b ↔ ∃ g a, f = accepted g ∧ v = accepted a ∧ g a = b := by
  constructor
  · intro made
    cases f with
    | refused vs => cases v <;> cases made
    | accepted g =>
      cases v with
      | refused vs => cases made
      | accepted a => exact ⟨g, a, rfl, rfl, accepted.inj made⟩
  · rintro ⟨g, a, rfl, rfl, rfl⟩
    rfl

theorem map_eq_accepted {f : α → β} {v : Verdict α} {b : β} :
    f <$> v = accepted b ↔ ∃ a, v = accepted a ∧ f a = b := by
  show pure f <*> v = accepted b ↔ _
  rw [seq_eq_accepted]
  constructor
  · rintro ⟨g, a, same, rfl, rfl⟩
    obtain rfl := accepted.inj same
    exact ⟨a, rfl, rfl⟩
  · rintro ⟨a, rfl, rfl⟩
    exact ⟨f, a, rfl, rfl, rfl⟩

@[simp] theorem under_eq_accepted {step : PathStep} {v : Verdict α} {a : α} :
    v.under step = accepted a ↔ v = accepted a := by
  cases v <;> simp [under]

theorem andThen_eq_accepted {v : Verdict α} {f : α → Verdict β} {b : β} :
    v.andThen f = accepted b ↔ ∃ a, v = accepted a ∧ f a = accepted b := by
  cases v <;> simp [andThen]

@[simp] theorem orReject_eq_ok {kind : RecordKind} {v : Verdict α} {a : α} :
    v.orReject kind = .ok a ↔ v = accepted a := by
  cases v <;> simp [orReject]

end Verdict

namespace Check

theorem run_eq_ok {check : Check α} {kind : RecordKind} {d : Datum} {a : α} :
    check.run kind d = .ok a ↔ check d = .ok (.accepted a) := by
  simp [run, bind_eq_ok]

theorem text_eq_accepted {d : Datum} {s : String} :
    text d = .ok (.accepted s) ↔ d = .text s := by
  cases d <;> simp [text, Verdict.breaks]

/-- The value of a field that is accepted. -/
theorem of_required {fields : List (String × Datum)} {name : String} {check : Check α} {d : Datum}
    {a : α} (given : fields.lookup name = some d)
    (accepted : required fields name check = .ok (.accepted a)) : check d = .ok (.accepted a) := by
  simpa [required, given, bind_eq_ok] using accepted

/-- A field that is there is accepted if its value is. -/
theorem required_eq_accepted {fields : List (String × Datum)} {name : String} {check : Check α}
    {d : Datum} {a : α} (given : fields.lookup name = some d)
    (accepted : check d = .ok (.accepted a)) : required fields name check = .ok (.accepted a) := by
  rw [required, given]
  simp only [accepted, ok_bind]
  rfl

theorem of_optional {fields : List (String × Datum)} {name : String} {default : α} {check : Check α}
    {d : Datum} {a : α} (given : fields.lookup name = some d)
    (accepted : optional fields name default check = .ok (.accepted a)) :
    check d = .ok (.accepted a) := by
  simpa [optional, given, bind_eq_ok] using accepted

theorem optional_eq_accepted {fields : List (String × Datum)} {name : String} {default : α}
    {check : Check α} {d : Datum} {a : α} (given : fields.lookup name = some d)
    (accepted : check d = .ok (.accepted a)) :
    optional fields name default check = .ok (.accepted a) := by
  rw [optional, given]
  simp only [accepted, ok_bind]
  rfl

/-- A field that must be there is, if it is accepted. -/
theorem exists_of_required {fields : List (String × Datum)} {name : String} {check : Check α}
    {a : α} (accepted : required fields name check = .ok (.accepted a)) :
    ∃ d, check d = .ok (.accepted a) := by
  cases given : fields.lookup name with
  | none =>
    rw [required, given] at accepted
    cases accepted
  | some d => exact ⟨d, of_required given accepted⟩

theorem exists_of_optional {fields : List (String × Datum)} {name : String} {default : α}
    {check : Check α} {a : α} (accepted : optional fields name default check = .ok (.accepted a)) :
    a = default ∨ ∃ d, check d = .ok (.accepted a) := by
  cases given : fields.lookup name with
  | none =>
    rw [optional, given] at accepted
    cases accepted
    exact .inl rfl
  | some d => exact .inr ⟨d, of_optional given accepted⟩

theorem exists_of_record {kind : RecordKind} {d : Datum} {a : α}
    {fields : List (String × Datum) → Except Failure (Verdict α)}
    (accepted : record kind fields d = .ok (.accepted a)) :
    ∃ values, fields values = .ok (.accepted a) := by
  cases d with
  | record values => exact ⟨values, accepted⟩
  | _ => cases accepted

/-- A text or nothing is accepted as it is. -/
theorem orNull_ofText? (text? : Option String) :
    orNull text (.ofText? text?) = .ok (.accepted text?) := by
  cases text? <;> rfl

theorem ensuring_eq_accepted {check : Check α} {rule : α → Except Failure Unit} {d : Datum}
    {a : α} : ensuring check rule d = .ok (.accepted a) ↔
      check d = .ok (.accepted a) ∧ rule a = .ok () := by
  rw [ensuring, bind_eq_ok]
  constructor
  · rintro ⟨verdict, checked, rest⟩
    cases verdict with
    | refused vs => cases rest
    | accepted b =>
      obtain ⟨passed, same⟩ := check_bind_eq_ok.mp rest
      cases same
      exact ⟨checked, passed⟩
  · rintro ⟨checked, passed⟩
    exact ⟨_, checked, check_bind_eq_ok.mpr ⟨passed, rfl⟩⟩

section

variable {check : Check α} {xs : List α}

/-- Items are accepted exactly if each of them is, and all of them count. -/
theorem itemsFrom_eq_accepted {position : Nat} {ds : List Datum} {sound : Nat} :
    itemsFrom check position ds = .ok (.accepted xs, sound) ↔
      List.Forall₂ (fun d a => check d = .ok (.accepted a)) ds xs ∧ sound = xs.length := by
  induction ds generalizing position xs sound with
  | nil =>
    constructor
    · intro accepted
      cases accepted
      exact ⟨.nil, rfl⟩
    · rintro ⟨_ | _, rfl⟩
      rfl
  | cons d ds ih =>
    simp only [itemsFrom, bind_eq_ok]
    constructor
    · rintro ⟨item, first, ⟨rest, counted⟩, others, made⟩
      rw [pure_eq_ok, Except.ok.injEq, Prod.mk.injEq, Verdict.seq_eq_accepted] at made
      obtain ⟨⟨_, as, mapped, rfl, rfl⟩, rfl⟩ := made
      obtain ⟨a, whole, rfl⟩ := Verdict.map_eq_accepted.mp mapped
      obtain rfl := Verdict.under_eq_accepted.mp whole
      obtain ⟨each, rfl⟩ := ih.mp others
      exact ⟨.cons first each, Nat.add_comm _ _⟩
    · rintro ⟨_ | ⟨first, each⟩, rfl⟩
      exact ⟨_, first, _, ih.mpr ⟨each, rfl⟩, by rw [List.length_cons, Nat.add_comm]; rfl⟩

theorem listOf_eq_accepted {rule : Rule} {d : Datum} :
    listOf rule check d = .ok (.accepted xs) ↔
      ∃ ds, d = .list ds ∧ List.Forall₂ (fun d a => check d = .ok (.accepted a)) ds xs := by
  cases d with
  | list ds =>
    simp only [listOf, bind_eq_ok, pure_eq_ok, Except.ok.injEq, Datum.list.injEq, exists_eq_left']
    constructor
    · rintro ⟨⟨verdict, sound⟩, items, rfl⟩
      exact (itemsFrom_eq_accepted.mp items).1
    · intro each
      exact ⟨_, itemsFrom_eq_accepted.mpr ⟨each, rfl⟩, rfl⟩
  | _ =>
    constructor
    · intro accepted
      cases accepted
    · rintro ⟨_, same, _⟩
      cases same

theorem someOf_eq_accepted {d : Datum} : someOf check d = .ok (.accepted xs) ↔
    xs ≠ [] ∧ ∃ ds, d = .list ds ∧ List.Forall₂ (fun d a => check d = .ok (.accepted a)) ds xs := by
  cases d with
  | list ds =>
    simp only [someOf, bind_eq_ok, Datum.list.injEq, exists_eq_left']
    constructor
    · rintro ⟨⟨verdict, sound⟩, items, made⟩
      by_cases none : sound = 0
      · rw [if_pos none] at made
        cases verdict <;> cases made
      · rw [if_neg none, pure_eq_ok, Except.ok.injEq] at made
        subst made
        obtain ⟨each, rfl⟩ := itemsFrom_eq_accepted.mp items
        exact ⟨List.ne_nil_of_length_pos (Nat.pos_of_ne_zero none), each⟩
    · rintro ⟨some, each⟩
      have none : xs.length ≠ 0 := mt List.eq_nil_of_length_eq_zero some
      exact ⟨_, itemsFrom_eq_accepted.mpr ⟨each, rfl⟩, by rw [if_neg none]; rfl⟩
  | _ =>
    constructor
    · intro accepted
      cases accepted
    · rintro ⟨_, _, same, _⟩
      cases same

end

end Check

/-- A type is accepted as it is written. -/
theorem SqlType.check_toDatum (type : SqlType) : check type.toDatum = .ok (.accepted type) := by
  cases type with
  | scalar kind schema => cases kind <;> cases schema <;> rfl
  | table name schema => cases schema <;> rfl

namespace Catalog

/-- A parameter has the name and the default that its record gives. -/
theorem Parameter.of_check {fields : List (String × Datum)} {s : String} {default? : Option String}
    {p : Parameter} (name : fields.lookup "name" = some (.text s))
    (default : fields.lookup "default_value" = some (.ofText? default?))
    (checked : Parameter.check.run .parameter (.record fields) = .ok p) :
    p.name = s ∧ p.default = default? := by
  obtain ⟨_, named, rest⟩ := bind_eq_ok.mp (Check.run_eq_ok.mp checked)
  obtain ⟨_, -, rest⟩ := bind_eq_ok.mp rest
  obtain ⟨_, -, rest⟩ := bind_eq_ok.mp rest
  obtain ⟨_, -, rest⟩ := bind_eq_ok.mp rest
  obtain ⟨_, defaulted, rest⟩ := bind_eq_ok.mp rest
  obtain ⟨_, -, rest⟩ := bind_eq_ok.mp rest
  simp only [pure_eq_ok, Except.ok.injEq, Verdict.seq_eq_accepted, Verdict.map_eq_accepted] at rest
  obtain ⟨_, _, ⟨_, _, ⟨_, _, ⟨_, _, ⟨_, _, ⟨_, rfl, rfl⟩, rfl, rfl⟩, rfl, rfl⟩, rfl, rfl⟩, rfl, rfl⟩,
    rfl, rfl⟩ := rest
  have textName := Check.of_required name named
  have textDefault := Check.of_optional default defaulted
  rw [Check.orNull_ofText?] at textDefault
  constructor
  · exact (Datum.text.inj (Check.text_eq_accepted.mp textName)).symm
  · simpa [eq_comm] using textDefault

end Catalog

end SqlBindings
