import Mathlib.Data.List.Nodup
import SqlBindings.Bundle

namespace SqlBindings

theorem nodup_eraseDups {α : Type} [BEq α] [LawfulBEq α] (xs : List α) : xs.eraseDups.Nodup := by
  generalize hn : xs.length = n
  induction n using Nat.strongRecOn generalizing xs with
  | ind n ih =>
    cases xs with
    | nil => exact .nil
    | cons x xs =>
      have shorter : (xs.filter fun y => !y == x).length < n := by
        have := List.length_filter_le (fun y => !y == x) xs
        simp only [List.length_cons] at hn
        omega
      rw [List.eraseDups_cons]
      refine List.nodup_cons.mpr ⟨?_, ih _ shorter _ rfl⟩
      intro mem
      have := List.mem_filter.mp (List.mem_eraseDups.mp mem)
      simp at this

/-- The parts of a list that belong to distinct keys hold the entries of the list together, if there
is a key for every entry. -/
theorem flatMap_filter_perm {α κ : Type} [BEq κ] [LawfulBEq κ] {key : α → κ} {keys : List κ}
    (distinct : keys.Nodup) {xs : List α} (covered : ∀ x ∈ xs, key x ∈ keys) :
    (keys.flatMap fun k => xs.filter (key · == k)).Perm xs := by
  induction keys generalizing xs with
  | nil =>
    cases xs with
    | nil => exact .refl _
    | cons x xs => exact absurd (covered x List.mem_cons_self) List.not_mem_nil
  | cons k keys ih =>
    obtain ⟨fresh, distinct⟩ := List.nodup_cons.mp distinct
    -- the parts of the other keys are the same without the entries of `k`
    let rest := xs.filter (key · != k)
    have parts : (keys.flatMap fun j => xs.filter (key · == j)) =
        keys.flatMap fun j => rest.filter (key · == j) := by
      refine List.flatMap_congr fun j hj => ?_
      have other : j ≠ k := fun h => fresh (h ▸ hj)
      rw [List.filter_filter]
      refine List.filter_congr fun x _ => ?_
      by_cases hx : key x = j
      · simp [hx, other]
      · simp [hx]
    have here : rest.Perm (keys.flatMap fun j => rest.filter (key · == j)) := by
      refine (ih distinct fun x hx => ?_).symm
      obtain ⟨hx, hk⟩ := List.mem_filter.mp hx
      exact (List.mem_cons.mp (covered x hx)).resolve_left (by simpa using hk)
    rw [List.flatMap_cons, parts]
    exact (here.symm.append_left _).trans (List.filter_append_perm _ _)

/-- Of parts that are told apart by a key, the entries of one key are one part. -/
theorem filter_flatMap_parts {α κ : Type} [DecidableEq κ] {key : α → κ} {part : κ → List α}
    (keyed : ∀ k, ∀ x ∈ part k, key x = k) {keys : List κ} (distinct : keys.Nodup) {k : κ}
    (mem : k ∈ keys) : (keys.flatMap part).filter (key · == k) = part k := by
  have own : (part k).filter (key · == k) = part k :=
    List.filter_eq_self.mpr fun x hx => beq_iff_eq.mpr (keyed k x hx)
  have other {j : κ} (ne : j ≠ k) : (part j).filter (key · == k) = [] :=
    List.filter_eq_nil_iff.mpr fun x hx => by rw [keyed j x hx]; simpa using ne
  induction keys with
  | nil => cases mem
  | cons j keys ih =>
    obtain ⟨new, distinct⟩ := List.nodup_cons.mp distinct
    rw [List.flatMap_cons, List.filter_append]
    by_cases here : j = k
    · subst here
      have none : (keys.flatMap part).filter (key · == j) = [] := by
        refine List.filter_eq_nil_iff.mpr fun x hx => ?_
        obtain ⟨i, hi, hx⟩ := List.mem_flatMap.mp hx
        rw [keyed i x hx, beq_iff_eq]
        rintro rfl
        exact new hi
      rw [own, none, List.append_nil]
    · rw [other here, List.nil_append]
      exact ih distinct ((List.mem_cons.mp mem).resolve_left (Ne.symm here))

namespace Bundle

variable {α : Type} {key : α → String} {xs ys : List α}

theorem inOrder_iff {s t : String} : inOrder s t = true ↔ s ≤ t := by
  rw [inOrder, Bool.not_eq_true', decide_eq_false_iff_not, String.not_lt]

theorem inOrder_trans (key : α → String) (a b c : α) (ab : inOrder (key a) (key b) = true)
    (bc : inOrder (key b) (key c) = true) : inOrder (key a) (key c) = true :=
  inOrder_iff.mpr (String.le_trans (inOrder_iff.mp ab) (inOrder_iff.mp bc))

theorem inOrder_total (key : α → String) (a b : α) :
    (inOrder (key a) (key b) || inOrder (key b) (key a)) = true := by
  rw [Bool.or_eq_true, inOrder_iff, inOrder_iff]
  exact String.le_total _ _

theorem sortOn_perm (key : α → String) (xs : List α) : (sortOn key xs).Perm xs :=
  List.mergeSort_perm _ _

@[simp] theorem mem_sortOn {a : α} : a ∈ sortOn key xs ↔ a ∈ xs :=
  List.mem_mergeSort

theorem sortOn_pairwise (key : α → String) (xs : List α) :
    (sortOn key xs).Pairwise fun a b => key a ≤ key b :=
  (List.pairwise_mergeSort (inOrder_trans key) (inOrder_total key) xs).imp inOrder_iff.mp

theorem sortOn_strict (distinct : (xs.map key).Nodup) :
    (sortOn key xs).Pairwise fun a b => key a < key b := by
  have keys : (sortOn key xs).Pairwise fun a b => key a ≠ key b :=
    List.pairwise_map.mp (((sortOn_perm key xs).map key).symm.nodup distinct)
  refine (sortOn_pairwise key xs).imp₂ ?_ keys
  intro a b le ne
  by_contra not_lt
  exact ne (String.le_antisymm le (String.not_lt.mp not_lt))

/-- What is in order stays as it is. -/
theorem sortOn_eq_self (ordered : xs.Pairwise fun a b => key a ≤ key b) : sortOn key xs = xs :=
  List.mergeSort_of_pairwise (ordered.imp inOrder_iff.mpr)

@[simp] theorem sortOn_sortOn (key : α → String) (xs : List α) :
    sortOn key (sortOn key xs) = sortOn key xs :=
  sortOn_eq_self (sortOn_pairwise key xs)

/-- Entries of one key keep their order, since a list of them is sorted already. -/
theorem filter_sortOn (key : α → String) (xs : List α) (k : String) :
    (sortOn key xs).filter (key · == k) = xs.filter (key · == k) := by
  have keyed : ∀ a ∈ xs.filter (key · == k), key a = k := by
    intro a ha
    exact beq_iff_eq.mp (List.mem_filter.mp ha).2
  have sorted : (xs.filter (key · == k)).Pairwise fun a b => inOrder (key a) (key b) := by
    refine List.pairwise_of_forall_mem_list fun a ha b hb => inOrder_iff.mpr ?_
    exact (keyed a ha) ▸ (keyed b hb) ▸ String.le_refl _
  have kept : (xs.filter (key · == k)).Sublist (sortOn key xs) :=
    List.sublist_mergeSort (inOrder_trans key) (inOrder_total key) sorted List.filter_sublist
  have among := kept.filter (key · == k)
  rw [List.filter_filter, funext fun a => Bool.and_self _] at among
  exact (among.eq_of_length ((sortOn_perm key xs).filter _).length_eq.symm).symm

/-- Entries with distinct keys are sorted alike in whatever order they come. -/
theorem sortOn_eq_of_perm (perm : xs.Perm ys) (distinct : (xs.map key).Nodup) :
    sortOn key xs = sortOn key ys := by
  have same : (sortOn key xs).Perm (sortOn key ys) :=
    (sortOn_perm key xs).trans (perm.trans (sortOn_perm key ys).symm)
  refine List.Perm.eq_of_pairwise ?_ (sortOn_pairwise key xs) (sortOn_pairwise key ys) same
  intro a b ha hb hab hba
  exact List.inj_on_of_nodup_map distinct (mem_sortOn.mp ha) (perm.mem_iff.mpr (mem_sortOn.mp hb))
    (String.le_antisymm hab hba)

end Bundle

end SqlBindings
