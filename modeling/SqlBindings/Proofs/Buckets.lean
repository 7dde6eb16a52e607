import Mathlib.Data.List.Induction
import SqlBindings.Proofs.Sorting

namespace SqlBindings

theorem eraseDups_concat {α : Type} [BEq α] [LawfulBEq α] (xs : List α) (x : α) :
    (xs ++ [x]).eraseDups = xs.eraseDups ++ if x ∈ xs then [] else [x] := by
  rw [List.eraseDups_append, List.cons_removeAll]
  by_cases known : x ∈ xs
  · simp [known]
  · simp [known, List.eraseDups_cons]

/-- What is new comes last, since all the others have appeared before it. -/
theorem pairwise_eraseDups {α : Type} [BEq α] [LawfulBEq α] (xs : List α) :
    xs.eraseDups.Pairwise fun x y => xs.idxOf x < xs.idxOf y := by
  induction xs using List.reverseRecOn with
  | nil => exact .nil
  | append_singleton xs z ih =>
    have stays : ∀ x ∈ xs.eraseDups, (xs ++ [z]).idxOf x = xs.idxOf x := by
      intro x mem
      exact List.idxOf_append_of_mem (List.mem_eraseDups.mp mem)
    rw [eraseDups_concat]
    refine List.pairwise_append.mpr ⟨?_, ?_, ?_⟩
    · refine ih.imp_of_mem ?_
      intro x y memX memY before
      rw [stays x memX, stays y memY]
      exact before
    · split
      · exact .nil
      · exact List.pairwise_singleton _ _
    · intro x memX y memY
      split at memY
      case isTrue => cases memY
      case isFalse new =>
        obtain rfl := List.mem_singleton.mp memY
        have before := List.idxOf_lt_length_iff.mpr (List.mem_eraseDups.mp memX)
        rw [stays x memX, List.idxOf_append_of_notMem new]
        omega

section

variable {α β κ : Type} [BEq κ] [LawfulBEq κ] {key : α → κ} {put : β → α → β} {empty : β}
  {entries : List α} {k : κ}

/-- The bucket that a key has in the end. -/
def bucketOf (key : α → κ) (put : β → α → β) (empty : β) (entries : List α) (k : κ) : κ × β :=
  (k, (entries.filter (key · == k)).foldl put empty)

theorem bucketOf_of_not_mem (unknown : k ∉ entries.map key) :
    bucketOf key put empty entries k = (k, empty) := by
  rw [bucketOf, List.filter_eq_nil_iff.mpr]
  · rfl
  · intro a mem same
    exact unknown (List.mem_map.mpr ⟨a, mem, beq_iff_eq.mp same⟩)

variable [DecidableEq κ]

/-- Puts an entry into the bucket of its key. If there is none yet, it comes behind the others. -/
def addTo (key : α → κ) (put : β → α → β) (empty : β) (buckets : List (κ × β)) (a : α) :
    List (κ × β) :=
  if key a ∈ buckets.map Prod.fst then
    buckets.map fun bucket => if bucket.1 = key a then (bucket.1, put bucket.2 a) else bucket
  else buckets ++ [(key a, put empty a)]

theorem bucketOf_concat (a : α) : bucketOf key put empty (entries ++ [a]) k =
    if k = key a then (k, put (bucketOf key put empty entries k).2 a)
    else bucketOf key put empty entries k := by
  unfold bucketOf
  rw [List.filter_append]
  by_cases own : k = key a
  · simp [own]
  · simp [own, Ne.symm own]

theorem addTo_buckets (a : α) :
    addTo key put empty ((entries.map key).eraseDups.map (bucketOf key put empty entries)) a =
      ((entries ++ [a]).map key).eraseDups.map (bucketOf key put empty (entries ++ [a])) := by
  have keys : ((entries.map key).eraseDups.map (bucketOf key put empty entries)).map Prod.fst =
      (entries.map key).eraseDups := by
    rw [List.map_map]
    exact List.map_id _
  rw [addTo, keys, List.map_append, List.map_singleton, eraseDups_concat, List.map_append]
  by_cases known : key a ∈ entries.map key
  · rw [if_pos known, if_pos (List.mem_eraseDups.mpr known), List.map_nil, List.append_nil,
      List.map_map]
    refine List.map_congr_left ?_
    intro k _
    exact (bucketOf_concat a).symm
  · rw [if_neg known, if_neg (mt List.mem_eraseDups.mp known), List.map_singleton, bucketOf_concat,
      if_pos rfl, bucketOf_of_not_mem known]
    congr 1
    refine List.map_congr_left ?_
    intro k mem
    rw [bucketOf_concat, if_neg]
    rintro rfl
    exact known (List.mem_eraseDups.mp mem)

/-- The loop holds the buckets of the entries that it has come to. -/
theorem foldl_addTo (entries : List α) : entries.foldl (addTo key put empty) [] =
    (entries.map key).eraseDups.map (bucketOf key put empty entries) := by
  induction entries using List.reverseRecOn with
  | nil => rfl
  | append_singleton entries a ih => rw [List.foldl_concat, ih, addTo_buckets]

end

end SqlBindings
