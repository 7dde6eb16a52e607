import SqlBindings.Proofs.Rendering

namespace SqlBindings

namespace Render

/-- The line begins with a text. -/
def Begins (start line : String) : Prop := start.toList <+: line.toList

instance (start line : String) : Decidable (Begins start line) :=
  inferInstanceAs (Decidable (_ <+: _))

/-- Neither text is the beginning of the other. -/
def Differ (start cs : List Char) : Prop := ¬ start <+: cs ∧ ¬ cs <+: start

instance (start cs : List Char) : Decidable (Differ start cs) :=
  inferInstanceAs (Decidable (_ ∧ _))

theorem begins_append (start line : String) : Begins start (start ++ line) := by
  rw [Begins, String.toList_append]
  exact List.prefix_append _ _

theorem Begins.of_append {start more line : String} (h : Begins (start ++ more) line) :
    Begins start line := by
  rw [Begins, String.toList_append] at h
  exact (List.prefix_append _ _).trans h

/-- Literals are taken as their lists of characters here, which is faster than to read them. -/
theorem not_begins_ofList {start cs : List Char} (h : ¬ start <+: cs) :
    ¬ Begins (String.ofList start) (String.ofList cs) := by
  rw [Begins, String.toList_ofList, String.toList_ofList]
  exact h

theorem not_begins_append {start cs : List Char} (h : Differ start cs) (rest : String) :
    ¬ Begins (String.ofList start) (String.ofList cs ++ rest) := by
  intro begins
  rw [Begins, String.toList_append, String.toList_ofList, String.toList_ofList] at begins
  have either := List.prefix_or_prefix_of_prefix begins (List.prefix_append cs rest.toList)
  exact either.elim h.1 h.2

theorem begins_append_right {margin start line : String} :
    Begins (margin ++ start) (margin ++ line) ↔ Begins start line := by
  rw [Begins, Begins, String.toList_append, String.toList_append, List.prefix_append_right_inj]

/-- Of indented lines, those are taken whose statements begin with the text. -/
theorem filter_indentBy (level : Nat) {start : String} (some : start ≠ "") (lines : List String) :
    (indentBy level lines).filter
        (fun line => Begins (String.join (List.replicate level indentStep) ++ start) line) =
      (lines.filter (fun line => Begins start line)).map
        (String.join (List.replicate level indentStep) ++ ·) := by
  generalize margin_eq : String.join (List.replicate level indentStep) = margin
  have nothing {start : String} (some : start ≠ "") : ¬ Begins start "" := by
    intro begins
    exact some (String.toList_eq_nil_iff.mp (List.prefix_nil.mp begins))
  have more : margin ++ start ≠ "" := fun empty => some (String.append_eq_empty_iff.mp empty).2
  rw [indentBy, margin_eq, List.filter_map]
  induction lines with
  | nil => rfl
  | cons line lines ih =>
    by_cases empty : line = ""
    · subst empty
      simp [nothing some, nothing more, ih]
    · by_cases begins : Begins start line <;>
        simp [empty, begins_append_right, begins, ih]

end Render

/-- Two texts in which different separators come first. -/
theorem append_cons_ne {as bs xs ys : List Char} {c d : Char} (hc : c ∉ bs) (hd : d ∉ as)
    (differ : c ≠ d) : as ++ c :: xs ≠ bs ++ d :: ys := by
  intro same
  rcases List.append_eq_append_iff.mp same with ⟨more, hb, hx⟩ | ⟨more, ha, hy⟩
  · cases more with
    | nil => exact differ (List.cons.inj hx).1
    | cons e more =>
      obtain ⟨rfl, _⟩ := List.cons.inj hx
      exact hc (hb ▸ List.mem_append_right as List.mem_cons_self)
  · cases more with
    | nil => exact differ (List.cons.inj hy).1.symm
    | cons e more =>
      obtain ⟨rfl, _⟩ := List.cons.inj hy
      exact hd (ha ▸ List.mem_append_right bs List.mem_cons_self)

/-- A text is split in one way only at the first separator. -/
theorem append_cons_inj {as bs xs ys : List Char} {c : Char} (ha : c ∉ as) (hb : c ∉ bs)
    (same : as ++ c :: xs = bs ++ c :: ys) : as = bs := by
  have before (cs more : List Char) (h : c ∉ cs) : (cs ++ c :: more).takeWhile (· != c) = cs := by
    have inside : ∀ d ∈ cs, (d != c) = true := fun d mem => by
      simpa using fun eq : d = c => h (eq ▸ mem)
    rw [List.takeWhile_append_of_pos inside]
    simp
  rw [← before as xs ha, same, before bs ys hb]

theorem not_mem_of_isIdentifier {name : String} (h : Text.isIdentifier name = true) {c : Char}
    (start : Text.isIdentifierStart c = false) (more : Text.isIdentifierContinue c = false) :
    c ∉ name.toList := by
  unfold Text.isIdentifier at h
  cases chars : name.toList with
  | nil => exact List.not_mem_nil
  | cons d rest =>
    rw [chars] at h
    obtain ⟨first, others⟩ := Bool.and_eq_true_iff.mp h
    intro mem
    rcases List.mem_cons.mp mem with rfl | mem
    · rw [start] at first
      cases first
    · rw [List.all_eq_true.mp others c mem] at more
      cases more

/-- A field does not begin like a statement in which a blank comes before any colon. -/
theorem Attribute.not_begins_field {a : Attribute} (h : Text.isIdentifier a.name = true)
    {start : String} (colon : ':' ∉ start.toList) (rest : String) (schema : Option String) :
    ¬ Render.Begins ("    " ++ (start ++ (" " ++ rest))) ("    " ++ a.field schema) := by
  have blank : ' ' ∉ a.name.toList := not_mem_of_isIdentifier h (by decide) (by decide)
  rw [Render.begins_append_right, Render.Begins, Attribute.field, String.append_assoc]
  simp only [String.toList_append]
  rintro ⟨more, same⟩
  rw [List.append_assoc] at same
  exact append_cons_ne blank colon (by decide) same

namespace Command

/-- The lines above the body of `execute`. -/
def executeHead (c : Command) : List String :=
  ["    @classmethod",
    "    async def execute(" ++ c.signature ++ ") -> " ++ c.returnHint ++ ":",
    "        \"\"\"Execute " ++ (if c.qualifiedName = "" then c.name else c.qualifiedName) ++ ".\"\"\"",
    "        async with db.connection.cursor() as cursor:"]

/-- The statements of `execute`. -/
def executeBody (c : Command) (query : String) : List String :=
  ["if db.transaction is not None:", "    db.transaction.enlist(cursor)"] ++ c.bindTypes ++
    [c.sendText query] ++ c.readResult

theorem render_eq_ok {c : Command} {lines : List String} : c.render = .ok lines ↔
    ∃ query, c.text = .ok query ∧
      lines = c.heading ++ c.executeHead ++ Render.indentBy 3 (c.executeBody query) := by
  simp only [render, bind_eq_ok, pure_eq_ok, Except.ok.injEq, @eq_comm (List String) _ lines]
  rfl

end Command

namespace Bundle

/-- The lines of a module above its classes. -/
def opening (b : Bundle) : List String :=
  [banner, "\"\"\"Bindings for the " ++ b.schema ++ " schema.\"\"\""] ++ imports ++ b.schemaImports

theorem render_eq_ok {b : Bundle} {lines : List String} : b.render = .ok lines ↔
    ∃ procedures functions getters, b.storedProcedures.mapM Command.render = .ok procedures ∧
      b.functions.mapM Command.render = .ok functions ∧
      b.tableGetters.mapM Command.render = .ok getters ∧
      lines = b.opening ++
        titled "User-Defined Table Types" (b.tableTypes.map TableType.render) ++
        titled "Stored Procedures" procedures ++ titled "User Defined Functions" functions ++
        getterSection getters := by
  simp only [render, bind_eq_ok, pure_eq_ok, Except.ok.injEq, @eq_comm (List String) _ lines]
  constructor
  · rintro ⟨procedures, hp, functions, hf, getters, hg, made⟩
    exact ⟨procedures, functions, getters, hp, hf, hg, made⟩
  · rintro ⟨procedures, functions, getters, hp, hf, hg, made⟩
    exact ⟨procedures, hp, functions, hf, getters, hg, made⟩

end Bundle

end SqlBindings
