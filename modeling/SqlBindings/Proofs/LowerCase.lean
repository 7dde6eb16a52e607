import Mathlib.Data.List.Basic
import SqlBindings.Text.Case

namespace SqlBindings.Text

/-- The code points from `first` to `last`, each `step` after the one before. -/
def InProgression (first last step n : Nat) : Prop :=
  first ≤ n ∧ n ≤ last ∧ (n - first) % step = 0

/-- Whether one progression passes another one by, without a code point in common. The numbers are
compared by `Nat.blt`, which takes no time. -/
def passesBy (first last step : Nat) (e : Nat × Nat × Nat × Int) : Bool :=
  last.blt e.1 || e.2.1.blt first ||
    ((step == 2 || first == last) && e.2.2.1 == 2 && (first + e.1) % 2 == 1)

section

variable {first last step n m : Nat} {shift : Int} {c : Char}

theorem InProgression.shifted (inside : InProgression first last step n) (valid : 0 ≤ first + shift) :
    InProgression (first + shift).toNat (last + shift).toNat step (n + shift).toNat := by
  obtain ⟨low, high, reached⟩ := inside
  have distance : (n + shift).toNat - (first + shift).toNat = n - first := by omega
  refine ⟨by omega, by omega, ?_⟩
  rw [distance]
  exact reached

theorem InProgression.not_of_passesBy {e : Nat × Nat × Nat × Int}
    (inside : InProgression first last step n) (passes : passesBy first last step e = true) :
    ¬ InProgression e.1 e.2.1 e.2.2.1 n := by
  obtain ⟨low, high, reached⟩ := inside
  rintro ⟨low', high', reached'⟩
  simp only [passesBy, Bool.or_eq_true, Bool.and_eq_true, beq_iff_eq, Nat.blt_eq] at passes
  -- where neither ends before the other begins, one goes along the code points the other leaves out
  rcases passes with (before | behind) | ⟨⟨rfl | rfl, two⟩, odd⟩
  · omega
  · omega
  · rw [two] at reached'
    omega
  · rw [two] at reached'
    omega

theorem exists_of_shifted? {shifts : List (Nat × Nat × Nat × Int)}
    (shifted : shifted? shifts n = some m) :
    ∃ e ∈ shifts, InProgression e.1 e.2.1 e.2.2.1 n ∧ m = (n + e.2.2.2).toNat := by
  obtain ⟨e, found, rfl⟩ := Option.map_eq_some_iff.mp shifted
  have inside := List.find?_some found
  simp only [Bool.and_eq_true, decide_eq_true_eq, beq_iff_eq] at inside
  exact ⟨e, List.mem_of_find?_eq_some found, ⟨inside.1.1, inside.1.2, inside.2⟩, rfl⟩

/-- No progression is shifted to where it meets another one or itself. -/
theorem lowerShifts_passBy : lowerShifts.all (fun e =>
    lowerShifts.all (passesBy (e.1 + e.2.2.2).toNat (e.2.1 + e.2.2.2).toNat e.2.2.1)) = true := by
  decide +kernel

/-- Nor is it shifted to a letter that becomes several characters, and to ASCII only if it is the
Kelvin sign, which becomes a k. -/
theorem lowerShifts_images : lowerShifts.all (fun e =>
    lowerExpansions.all (fun x =>
      passesBy (e.1 + e.2.2.2).toNat (e.2.1 + e.2.2.2).toNat e.2.2.1 (x.1, x.1, 1, 0)) &&
    (0x80 ≤ e.1 + e.2.2.2 || (e.1 == e.2.1 && e.1 + e.2.2.2 == 'k'.toNat))) = true := by
  decide +kernel

theorem exists_image (shifted : shifted? lowerShifts n = some m) :
    ∃ e ∈ lowerShifts,
      InProgression (e.1 + e.2.2.2).toNat (e.2.1 + e.2.2.2).toNat e.2.2.1 m ∧
        (m < 0x80 → m = 'k'.toNat) := by
  obtain ⟨e, mem, inside, rfl⟩ := exists_of_shifted? shifted
  have image := List.all_eq_true.mp lowerShifts_images e mem
  simp only [Bool.and_eq_true, Bool.or_eq_true, decide_eq_true_eq, beq_iff_eq] at image
  refine ⟨e, mem, inside.shifted (by omega), ?_⟩
  intro ascii
  obtain ⟨low, high, -⟩ := inside
  omega

theorem shifted?_image (shifted : shifted? lowerShifts n = some m) :
    shifted? lowerShifts m = none := by
  obtain ⟨e, mem, inside, -⟩ := exists_image shifted
  cases again : shifted? lowerShifts m with
  | none => rfl
  | some k =>
    obtain ⟨e', mem', inside', -⟩ := exists_of_shifted? again
    have passes := List.all_eq_true.mp (List.all_eq_true.mp lowerShifts_passBy e mem) e' mem'
    exact absurd inside' (inside.not_of_passesBy passes)

theorem lookup_image (shifted : shifted? lowerShifts n = some m) :
    lowerExpansions.lookup m = none := by
  obtain ⟨e, mem, inside, -⟩ := exists_image shifted
  have image := List.all_eq_true.mp lowerShifts_images e mem
  rw [List.lookup_eq_none_iff]
  intro x memX
  have passes := List.all_eq_true.mp (Bool.and_eq_true_iff.mp image).1 x memX
  rw [bne_iff_ne]
  rintro rfl
  exact inside.not_of_passesBy passes ⟨Nat.le_refl _, Nat.le_refl _, Nat.mod_one _⟩

theorem ofNat_eq (same : Char.ofNat n = c) (notZero : c ≠ '\x00') : n = c.toNat := by
  by_cases valid : n.isValidChar
  · rw [Char.ofNat, dif_pos valid] at same
    rw [← same]
    rfl
  · rw [Char.ofNat, dif_neg valid] at same
    exact absurd same.symm notZero

/-- A character that another one is shifted to is in lower case. -/
theorem lowerChar_image (shifted : shifted? lowerShifts n = some m) :
    lowerChar (Char.ofNat m) = [Char.ofNat m] := by
  obtain ⟨-, -, -, small⟩ := exists_image shifted
  by_cases zero : Char.ofNat m = '\x00'
  · rw [zero]
    decide
  have code : (Char.ofNat m).toNat = m := (ofNat_eq rfl zero).symm
  unfold lowerChar
  rw [code]
  by_cases ascii : m < 0x80
  · rw [if_pos ascii, small ascii]
    decide
  · rw [if_neg ascii, lookup_image shifted, shifted?_image shifted]
    rfl

theorem lowerChar_toLower :
    ∀ n < 0x80, lowerChar (Char.ofNat n).toLower = [(Char.ofNat n).toLower] := by
  decide

/-- The lower case of a character begins with a character that is in lower case. -/
theorem exists_lowerChar (c : Char) : ∃ d rest, lowerChar c = d :: rest ∧ lowerChar d = [d] := by
  by_cases ascii : c.toNat < 0x80
  · have image := lowerChar_toLower c.toNat ascii
    rw [Char.ofNat_toNat] at image
    exact ⟨c.toLower, [], if_pos ascii, image⟩
  cases expanded : lowerExpansions.lookup c.toNat with
  | some image =>
    have lowered : lowerChar c = image.map Char.ofNat := by
      rw [lowerChar, if_neg ascii, expanded]
    simp only [lowerExpansions, List.lookup_cons, List.lookup_nil] at expanded
    split at expanded
    · cases expanded
      exact ⟨'i', _, lowered, by decide⟩
    · cases expanded
  | none =>
    have lowered : lowerChar c = [((shifted? lowerShifts c.toNat).map Char.ofNat).getD c] := by
      rw [lowerChar, if_neg ascii, expanded]
    cases shifted : shifted? lowerShifts c.toNat with
    | none =>
      rw [shifted] at lowered
      exact ⟨c, [], lowered, lowered⟩
    | some m =>
      rw [shifted] at lowered
      exact ⟨Char.ofNat m, [], lowered, lowerChar_image shifted⟩

/-- A capital sigma that stands alone ends no word. -/
theorem lowerChars_singleton (c : Char) : lowerChars [c] = lowerChar c := by
  by_cases sigma : c = 'Σ'
  · rw [sigma]
    decide
  · rw [lowerChars, lowerFrom, if_neg sigma, lowerFrom, List.append_nil]

end

end SqlBindings.Text
