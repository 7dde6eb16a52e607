import Mathlib.Data.List.Perm.Basic

/-!
Results of steps that may fail, one after another. A sequence of steps succeeds exactly if each of
them does, so the order in which they are taken decides the order of the values and nothing else.
-/

namespace SqlBindings

variable {ε α β κ : Type}

@[simp] theorem ok_bind (a : α) (f : α → Except ε β) : Except.ok a >>= f = f a := rfl

@[simp] theorem error_bind (e : ε) (f : α → Except ε β) : Except.error e >>= f = .error e := rfl

@[simp] theorem pure_eq_ok (a : α) : (pure a : Except ε α) = .ok a := rfl

theorem bind_eq_ok {x : Except ε α} {f : α → Except ε β} {b : β} :
    x >>= f = .ok b ↔ ∃ a, x = .ok a ∧ f a = .ok b := by
  cases x with
  | error e =>
    constructor
    · intro h
      cases h
    · rintro ⟨_, ha, _⟩
      cases ha
  | ok a =>
    constructor
    · exact fun h => ⟨a, rfl, h⟩
    · rintro ⟨_, ha, h⟩
      cases ha
      exact h

theorem check_bind_eq_ok {check : Except ε Unit} {f : Unit → Except ε β} {b : β} :
    check >>= f = .ok b ↔ check = .ok () ∧ f () = .ok b := by
  rw [bind_eq_ok]
  exact ⟨fun ⟨_, passed, h⟩ => ⟨passed, h⟩, fun ⟨passed, h⟩ => ⟨(), passed, h⟩⟩

theorem mapM_eq_ok {f : α → Except ε β} {xs : List α} {ys : List β} :
    xs.mapM f = .ok ys ↔ List.Forall₂ (fun x y => f x = .ok y) xs ys := by
  induction xs generalizing ys with
  | nil =>
    constructor
    · intro h
      cases h
      exact .nil
    · intro h
      cases h
      rfl
  | cons x xs ih =>
    simp only [List.mapM_cons, bind_eq_ok]
    constructor
    · rintro ⟨y, hy, rest, hrest, h⟩
      cases h
      exact .cons hy (ih.mp hrest)
    · rintro (_ | ⟨hy, hrest⟩)
      exact ⟨_, hy, _, ih.mpr hrest, rfl⟩

theorem exists_mapM_ok {f : α → Except ε β} {xs : List α} (each : ∀ x ∈ xs, ∃ y, f x = .ok y) :
    ∃ ys, xs.mapM f = .ok ys := by
  induction xs with
  | nil => exact ⟨[], rfl⟩
  | cons x xs ih =>
    obtain ⟨y, hy⟩ := each x List.mem_cons_self
    obtain ⟨ys, hys⟩ := ih fun x' hx' => each x' (List.mem_cons_of_mem _ hx')
    exact ⟨y :: ys, mapM_eq_ok.mpr (.cons hy (mapM_eq_ok.mp hys))⟩

/-- Two rounds of steps come to the same as both steps in a single round. -/
theorem mapM_bind_mapM_eq_ok {f : α → Except ε β} {g : β → Except ε κ} {xs : List α}
    {zs : List κ} : (xs.mapM f >>= fun ys => ys.mapM g) = .ok zs ↔
      List.Forall₂ (fun x z => f x >>= g = .ok z) xs zs := by
  simp only [bind_eq_ok, mapM_eq_ok]
  constructor
  · rintro ⟨ys, first, second⟩
    induction first generalizing zs with
    | nil =>
      cases second
      exact .nil
    | cons hxy _ ih =>
      cases second with
      | cons hyz second => exact .cons ⟨_, hxy, hyz⟩ (ih second)
  · intro both
    induction both with
    | nil => exact ⟨[], .nil, .nil⟩
    | cons hxz _ ih =>
      obtain ⟨y, hxy, hyz⟩ := hxz
      obtain ⟨ys, first, second⟩ := ih
      exact ⟨y :: ys, .cons hxy first, .cons hyz second⟩

theorem exists_of_forall₂ {r : α → β → Prop} {xs : List α} {ys : List β}
    (h : List.Forall₂ r xs ys) {y : β} (hy : y ∈ ys) : ∃ x ∈ xs, r x y := by
  induction h with
  | nil => cases hy
  | cons hxy _ ih =>
    rcases List.mem_cons.mp hy with rfl | hy
    · exact ⟨_, List.mem_cons_self, hxy⟩
    · obtain ⟨x, hx, hr⟩ := ih hy
      exact ⟨x, List.mem_cons_of_mem _ hx, hr⟩

theorem exists_mapM_ok_iff {f : α → Except ε β} {xs : List α} :
    (∃ ys, xs.mapM f = .ok ys) ↔ ∀ x ∈ xs, ∃ y, f x = .ok y := by
  refine ⟨?_, exists_mapM_ok⟩
  rintro ⟨ys, h⟩ x mem
  obtain ⟨y, _, hy⟩ := exists_of_forall₂ (mapM_eq_ok.mp h).flip mem
  exact ⟨y, hy⟩

/-- Steps that succeed in one order succeed in every order, with the same values. -/
theorem mapM_perm {f : α → Except ε β} {xs xs' : List α} (perm : xs.Perm xs') {ys : List β}
    (h : xs.mapM f = .ok ys) : ∃ ys', xs'.mapM f = .ok ys' ∧ ys.Perm ys' := by
  obtain ⟨ys', steps, same⟩ := List.perm_comp_forall₂ perm.symm (mapM_eq_ok.mp h)
  exact ⟨ys', mapM_eq_ok.mpr steps, same.symm⟩

/-- Every value of a sequence of steps is the value of one of them. -/
theorem exists_of_mem_mapM {f : α → Except ε β} {xs : List α} {ys : List β}
    (h : xs.mapM f = .ok ys) {y : β} (hy : y ∈ ys) : ∃ x ∈ xs, f x = .ok y :=
  exists_of_forall₂ (mapM_eq_ok.mp h) hy

/-- What every related pair agrees on is the same along both lists. -/
theorem map_eq_of_forall₂ {r : α → β → Prop} {f : α → κ} {g : β → κ}
    (agree : ∀ x y, r x y → g y = f x) {xs : List α} {ys : List β} (h : List.Forall₂ r xs ys) :
    ys.map g = xs.map f := by
  induction h with
  | nil => rfl
  | cons hxy _ ih => rw [List.map_cons, List.map_cons, agree _ _ hxy, ih]

end SqlBindings
