import SqlBindings.Proofs.Attributes
import SqlBindings.Proofs.LowerCase

namespace SqlBindings

namespace Name

variable {raw n : String}

theorem ofParameter_eq_ok : ofParameter raw = .ok n ↔
    ∃ c rest, raw.toList.dropWhile (· == '@') = c :: rest ∧
      n = String.ofList (Text.lowerChar c ++ rest) ∧ Text.isIdentifier n = true := by
  unfold ofParameter
  cases raw.toList.dropWhile (· == '@') with
  | nil => simp
  | cons c rest =>
    simp only [Text.lowerChars_singleton]
    constructor
    · intro named
      split at named
      case isTrue identifier =>
        cases named
        exact ⟨c, rest, rfl, rfl, identifier⟩
      case isFalse => cases named
    · rintro ⟨_, _, same, rfl, identifier⟩
      cases same
      rw [if_pos identifier]

theorem isIdentifier_of_ofParameter (named : ofParameter raw = .ok n) :
    Text.isIdentifier n = true := by
  obtain ⟨_, _, _, _, identifier⟩ := ofParameter_eq_ok.mp named
  exact identifier

theorem ofParameter_marked (named : ofParameter raw = .ok n) (marks : Nat) :
    ofParameter (String.ofList (List.replicate marks '@') ++ raw) = .ok n := by
  have marked : ∀ c ∈ List.replicate marks '@', (c == '@') = true := by
    intro c mem
    rw [List.eq_of_mem_replicate mem]
    rfl
  rw [ofParameter_eq_ok] at named ⊢
  rw [String.toList_append, String.toList_ofList, List.dropWhile_append_of_pos marked]
  exact named

/-- An identifier that begins in lower case is the name of a parameter already. -/
theorem ofParameter_of_lower {d : Char} {rest : List Char} (lower : Text.lowerChar d = [d])
    (identifier : Text.isIdentifier (String.ofList (d :: rest)) = true) :
    ofParameter (String.ofList (d :: rest)) = .ok (String.ofList (d :: rest)) := by
  have unmarked : (d == '@') = false := by
    rw [beq_eq_false_iff_ne]
    rintro rfl
    rw [Text.isIdentifier, String.toList_ofList] at identifier
    cases identifier
  rw [ofParameter_eq_ok]
  refine ⟨d, rest, ?_, ?_, identifier⟩
  · rw [String.toList_ofList, List.dropWhile_cons_of_neg (by rw [unmarked]; decide)]
  · rw [lower]
    rfl

theorem ofParameter_self (named : ofParameter raw = .ok n) : ofParameter n = .ok n := by
  obtain ⟨c, rest, -, rfl, identifier⟩ := ofParameter_eq_ok.mp named
  -- the first character of the name is that of a lower case, which may have more of them
  obtain ⟨d, more, lowered, lower⟩ := Text.exists_lowerChar c
  rw [lowered] at identifier ⊢
  exact ofParameter_of_lower lower identifier

end Name

namespace Attribute

open Catalog (Parameter)

theorem ofParameter_of_name {p : Parameter} {n : String} {type : SqlType}
    (named : Name.ofParameter p.name = .ok n) (typed : typeOfParameter p = .ok type) :
    ofParameter p =
      .ok ⟨Name.escape n, type, p.default.any isNullLiteral, Name.bindPrefix ++ n⟩ := by
  rw [ofParameter, typed, ok_bind, named, ok_bind]
  exact derive_eq_ok.mpr ⟨Name.isIdentifier_of_ofParameter named, rfl⟩

/-- What becomes of a parameter whose name is `n` without its marks, and of parameters that are named
as the attribute of it is bound. -/
structure Projects (p : Parameter) (n : String) (a : Attribute) : Prop where
  made : ofParameter p = .ok a
  /-- A keyword or a name that generated code uses is escaped here, and nowhere else. -/
  name : a.name = Name.escape n
  bindName : a.bindName = "@" ++ n
  again : ofParameter { p with name := a.bindName } = .ok a
  /-- The names do not depend on the rest of what the catalog says. -/
  named : ∀ (q : Parameter) (type : SqlType), q.name = a.bindName → typeOfParameter q = .ok type →
    ∃ b, ofParameter q = .ok b ∧ b.name = a.name ∧ b.bindName = a.bindName

/-- The name of a parameter is an identifier that is found again, whether marks are put in front of
the name or it is taken for the name of a parameter itself. So the attribute of a parameter of a known
type gives the names it has itself to every parameter that is named as it is bound. -/
theorem ofParameter_projects {raw n : String} (named : Name.ofParameter raw = .ok n) :
    Text.isIdentifier n = true ∧
    (∀ marks, Name.ofParameter (String.ofList (List.replicate marks '@') ++ raw) = .ok n) ∧
    Name.ofParameter n = .ok n ∧
    ∀ (p : Parameter) (type : SqlType), p.name = raw → typeOfParameter p = .ok type →
      ∃ a, Projects p n a := by
  have fixed := Name.ofParameter_self named
  have bound : Name.ofParameter (Name.bindPrefix ++ n) = .ok n := Name.ofParameter_marked fixed 1
  refine ⟨Name.isIdentifier_of_ofParameter named, Name.ofParameter_marked named, fixed, ?_⟩
  rintro p type rfl typed
  refine ⟨_, ofParameter_of_name named typed, rfl, rfl, ofParameter_of_name bound typed, ?_⟩
  intro q type' same typed'
  have found : Name.ofParameter q.name = .ok n := by
    rw [same]
    exact bound
  exact ⟨_, ofParameter_of_name found typed', rfl, rfl⟩

/-- A keyword, with two marks in front of it. -/
def fromParameter : Parameter := ⟨"@@From", "int", false, none, some "NULL", 1⟩

def fromAttribute : Attribute := ⟨"from_", .plain .int32, true, "@from"⟩

/-- The keyword is bound as it is, and a dotted capital becomes two characters only once. -/
theorem ofParameter_projects_from :
    Name.ofParameter "@@From" = .ok "from" ∧ Name.ofParameter "@@@@@From" = .ok "from" ∧
    Projects fromParameter "from" fromAttribute ∧
    Name.ofParameter "İd" = .ok "i\u0307d" ∧ Name.ofParameter "i\u0307d" = .ok "i\u0307d" := by
  have keyword : Name.ofParameter "@@From" = .ok "from" := by rfl
  have dotted : Name.ofParameter "İd" = .ok "i\u0307d" := by rfl
  obtain ⟨-, marked, -, attributes⟩ := ofParameter_projects keyword
  obtain ⟨a, projects⟩ := attributes fromParameter (.plain .int32) rfl rfl
  obtain ⟨-, -, fixed, -⟩ := ofParameter_projects dotted
  have made : ofParameter fromParameter = .ok fromAttribute := by rfl
  obtain rfl : a = fromAttribute := Except.ok.inj (projects.made.symm.trans made)
  exact ⟨keyword, marked 3, projects, dotted, fixed⟩

end Attribute

end SqlBindings
