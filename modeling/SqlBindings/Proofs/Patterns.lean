import Mathlib
import SqlBindings.Sql.ParameterDefaults

/-!
# Readings of a pattern without falling back

A pattern lists every reading of a text. What comes after it usually gets stuck on all readings but
one, and the list has a single element: after a run of characters of a class that is the reading of
the whole run. The laws here say so for each way to build a pattern, with the rest of the reading as a
function `k` of what remains.
-/

namespace SqlBindings

namespace Text

/-- No white space is part of a word. -/
theorem isWord_of_isBlank {c : Char} (blank : isBlank c = true) : isWord c = false := by
  have apart : blankRanges.all (fun b => b.2 < 0x80 ∨ wordRanges.all fun w =>
      b.2 < w.1 || w.2 < b.1) = true := by decide +kernel
  have ascii : ∀ n, n < 0x80 → inRanges blankRanges n = true →
      ((Char.ofNat n).isAlphanum || Char.ofNat n == '_') = false := by decide +kernel
  unfold isBlank at blank
  unfold isWord
  split
  case isTrue low => simpa using ascii c.toNat low blank
  case isFalse high =>
    by_contra word
    simp only [Bool.not_eq_false, inRanges, List.any_eq_true, Bool.and_eq_true,
      decide_eq_true_eq] at blank word
    obtain ⟨b, isRange, above, below⟩ := blank
    obtain ⟨w, isWordRange, after, before⟩ := word
    have separate := List.all_eq_true.mp apart b isRange
    simp only [decide_eq_true_eq, List.all_eq_true, Bool.or_eq_true] at separate
    rcases separate with low | separate
    · omega
    · rcases separate w isWordRange with left | right <;> omega

theorem isBlank_of_isWord {c : Char} (word : isWord c = true) : isBlank c = false := by
  by_contra blank
  simp [isWord_of_isBlank (by simpa using blank)] at word

theorem ne_of_isWord {c d : Char} (word : isWord c = true) (not : isWord d = false) : c ≠ d := by
  rintro rfl
  simp [not] at word

theorem isWord_of_isAlpha {c : Char} (alpha : c.isAlpha = true) : isWord c = true := by
  have low : c.toNat < 0x80 := by
    simp only [Char.isAlpha, Char.isUpper, Char.isLower, Bool.or_eq_true, Bool.and_eq_true,
      decide_eq_true_eq, UInt32.le_iff_toNat_le] at alpha
    have : c.toNat = c.val.toNat := rfl
    have : 'Z'.val.toNat = 90 := rfl
    have : 'z'.val.toNat = 122 := rfl
    omega
  simp [isWord, low, Char.isAlphanum, alpha]

/-- Whatever counts as a letter in some case is part of words. -/
theorem isWord_of_equalsLetter {letter c : Char} (lower : letter.isLower = true)
    (same : equalsLetter letter c = true) : isWord c = true := by
  simp only [equalsLetter, Bool.or_eq_true, beq_iff_eq] at same
  rcases same with same | other
  · apply isWord_of_isAlpha
    by_cases upper : c.isUpper = true
    · simp [Char.isAlpha, upper]
    · have unchanged : c.toLower = c := dif_neg (by simpa [Char.isUpper] using upper)
      obtain rfl : c = letter := unchanged.symm.trans same
      simp [Char.isAlpha, lower]
  · split at other
    · rw [beq_iff_eq.mp other]; decide +kernel
    · rw [Bool.or_eq_true, beq_iff_eq, beq_iff_eq] at other
      rcases other with rfl | rfl <;> decide +kernel
    · rw [beq_iff_eq.mp other]; decide +kernel
    · simp at other

end Text

namespace Sql

open Text (isWord isBlank)

/-- A text that begins with a character of a class. -/
def Starts (p : Char → Bool) (cs : List Char) : Prop := ∃ c rest, cs = c :: rest ∧ p c = true

instance (p : Char → Bool) (cs : List Char) : Decidable (Starts p cs) :=
  decidable_of_iff (cs.head?.any p = true) (by cases cs <;> simp [Starts])

section Starts
variable {p q : Char → Bool} {cs : List Char}

@[simp] theorem starts_cons {c : Char} : Starts p (c :: cs) ↔ p c = true := by
  simp [Starts]

@[simp] theorem not_starts_nil : ¬ Starts p [] := by
  simp [Starts]

theorem starts_append {us : List Char} (ne : us ≠ []) : Starts p (us ++ cs) ↔ Starts p us := by
  obtain ⟨u, us, rfl⟩ := List.exists_cons_of_ne_nil ne
  simp

theorem Starts.of_all (ne : cs ≠ []) (all : ∀ c ∈ cs, p c = true) : Starts p cs := by
  obtain ⟨c, cs, rfl⟩ := List.exists_cons_of_ne_nil ne
  simpa using all c

theorem Starts.mono (sub : ∀ c, p c = true → q c = true) (starts : Starts p cs) : Starts q cs := by
  obtain ⟨c, rest, rfl, holds⟩ := starts
  exact ⟨c, rest, rfl, sub c holds⟩

theorem dropWhile_of_not_starts (not : ¬ Starts p cs) : cs.dropWhile p = cs := by
  cases cs with
  | nil => rfl
  | cons c cs => rw [List.dropWhile_cons_of_neg (by simpa using not)]

theorem takeWhile_of_not_starts (not : ¬ Starts p cs) : cs.takeWhile p = [] := by
  cases cs with
  | nil => rfl
  | cons c cs => exact List.takeWhile_cons_of_neg (by simpa using not)

/-- Two classes without a common character begin no common text. -/
theorem not_starts_of_starts (starts : Starts p cs) (apart : ∀ c, p c = true → q c = false) :
    ¬ Starts q cs := by
  obtain ⟨c, rest, rfl, holds⟩ := starts
  simp [apart c holds]

theorem not_starts_char {sign : Char} (starts : Starts p cs) (not : p sign = false) :
    ¬ Starts (· == sign) cs :=
  not_starts_of_starts starts fun c holds => by
    rw [beq_eq_false_iff_ne]
    rintro rfl
    simp [not] at holds

theorem not_starts_dropWhile : ¬ Starts p (cs.dropWhile p) := by
  induction cs with
  | nil => simp
  | cons c cs ih =>
    by_cases holds : p c = true
    · simpa [List.dropWhile_cons, holds] using ih
    · simp [holds]

/-- A run of a class is left behind up to what does not go on with it. -/
theorem dropWhile_run {run : List Char} (all : ∀ c ∈ run, p c = true) (stop : ¬ Starts p cs) :
    (run ++ cs).dropWhile p = cs := by
  rw [List.dropWhile_append_of_pos all, dropWhile_of_not_starts stop]

end Starts

namespace Pattern

variable {β : Type} {k : List Char → List β} {p : Char → Bool} {cs : List Char}

/-- The readings of a text by a pattern, each of them carried on by `k`. -/
def run (pattern : Pattern) (k : List Char → List β) (cs : List Char) : List β :=
  (pattern cs).flatMap k

/-- `k` reads nothing from a text that begins with a character of the class. -/
def Stuck (k : List Char → List β) (p : Char → Bool) : Prop := ∀ cs, Starts p cs → k cs = []

theorem Stuck.cons (stuck : Stuck k p) {c : Char} (holds : p c = true) (rest : List Char) :
    k (c :: rest) = [] :=
  stuck _ (starts_cons.mpr holds)

theorem Stuck.mono {q : Char → Bool} (stuck : Stuck k p) (sub : ∀ c, q c = true → p c = true) :
    Stuck k q :=
  fun cs starts => stuck cs (starts.mono sub)

theorem run_followedBy {first second : Pattern} :
    (first >> second).run k = first.run (second.run k) := by
  funext cs
  show (List.flatMap second (first cs)).flatMap k = _
  rw [List.flatMap_assoc]
  rfl

@[simp] theorem run_one_cons {c : Char} :
    (one p).run k (c :: cs) = if p c = true then k cs else [] := by
  by_cases holds : p c = true <;> simp [run, one, holds]

@[simp] theorem run_char_cons {c d : Char} :
    (char c).run k (d :: cs) = if d = c then k cs else [] := by
  simp [char]

theorem run_char_stuck {c : Char} (not : ¬ Starts (· == c) cs) : (char c).run k cs = [] := by
  cases cs with
  | nil => rfl
  | cons d cs => simpa using fun same : d = c => absurd (by simp [same]) not

/-- A character that is not of a class is not read where the class begins. -/
theorem stuck_char {c : Char} (not : p c = false) : Stuck ((char c).run k) p := by
  rintro cs ⟨d, rest, rfl, holds⟩
  rw [run_char_cons, if_neg]
  rintro rfl
  simp [not] at holds

theorem run_optional {pattern : Pattern} :
    (optional pattern).run k cs = pattern.run k cs ++ k cs := by
  simp [run, optional, List.flatMap_append]

/-- A run is read to its end if nothing can be read on inside it. -/
theorem run_many (stuck : Stuck k p) : (many p).run k cs = k (cs.dropWhile p) := by
  induction cs with
  | nil => simp [run, many]
  | cons c cs ih =>
    unfold run at ih ⊢
    by_cases holds : p c = true
    · simp [many, holds, List.flatMap_append, ih, stuck.cons holds]
    · simp [many, holds]

theorem run_blanks (stuck : Stuck k isBlank) : blanks.run k cs = k (cs.dropWhile isBlank) :=
  run_many stuck

theorem run_oneOrMore_stuck (not : ¬ Starts p cs) : (oneOrMore p).run k cs = [] := by
  unfold oneOrMore
  rw [run_followedBy]
  cases cs with
  | nil => rfl
  | cons c cs => simpa using fun holds => absurd (starts_cons.mpr holds) not

theorem run_oneOrMore (stuck : Stuck k p) (starts : Starts p cs) :
    (oneOrMore p).run k cs = k (cs.dropWhile p) := by
  obtain ⟨c, rest, rfl, holds⟩ := starts
  unfold oneOrMore
  rw [run_followedBy, run_one_cons, if_pos holds, run_many stuck, List.dropWhile_cons_of_pos holds]

/-- A word is read to its end if nothing can be read on inside it. -/
theorem run_oneOrMore_append {word : List Char} (stuck : Stuck k p) (ne : word ≠ [])
    (all : ∀ c ∈ word, p c = true) (stop : ¬ Starts p cs) :
    (oneOrMore p).run k (word ++ cs) = k cs := by
  rw [run_oneOrMore stuck ((starts_append ne).mpr (Starts.of_all ne all)), dropWhile_run all stop]

/-- A word that is a given one in some case. -/
def Spells (letters word : List Char) : Prop :=
  List.Forall₂ (fun letter c => Text.equalsLetter letter c = true) letters word

instance (letters word : List Char) : Decidable (Spells letters word) :=
  inferInstanceAs (Decidable (List.Forall₂ _ _ _))

theorem run_keyword_append {letters word : List Char} (spelled : Spells letters word) :
    (keyword letters).run k (word ++ cs) = k cs := by
  unfold Spells at spelled
  induction spelled with
  | nil => simp [keyword, run]
  | cons same _ ih =>
    unfold keyword
    rw [run_followedBy, List.cons_append, run_one_cons, if_pos same, ih]

theorem Spells.isWord {letters word : List Char} (lower : letters.all Char.isLower = true)
    (spelled : Spells letters word) : ∀ c ∈ word, isWord c = true := by
  unfold Spells at spelled
  induction spelled with
  | nil => simp
  | cons same _ ih =>
    rw [List.all_cons, Bool.and_eq_true] at lower
    intro c mem
    rcases List.mem_cons.mp mem with rfl | mem
    · exact Text.isWord_of_equalsLetter lower.1 same
    · exact ih lower.2 c mem

/-- A keyword is not read from another word, nor from the front or with the rest of it. -/
theorem run_keyword_stuck {letters word : List Char} (lower : letters.all Char.isLower = true)
    (stuck : Stuck k isWord) (isWord : ∀ c ∈ word, isWord c = true)
    (stop : ¬ Starts Text.isWord cs) (not : ¬ Spells letters word) :
    (keyword letters).run k (word ++ cs) = [] := by
  induction letters generalizing word with
  | nil =>
    cases word with
    | nil => exact absurd List.Forall₂.nil not
    | cons c word => simp [keyword, run, stuck.cons (isWord c (by simp))]
  | cons letter letters ih =>
    rw [List.all_cons, Bool.and_eq_true] at lower
    unfold keyword
    rw [run_followedBy]
    cases word with
    | nil =>
      cases cs with
      | nil => rfl
      | cons c cs =>
        have other : ¬ Text.equalsLetter letter c = true := fun same =>
          stop (starts_cons.mpr (Text.isWord_of_equalsLetter lower.1 same))
        simp [other]
    | cons c word =>
      rw [List.cons_append, run_one_cons]
      split
      case isTrue same =>
        refine ih lower.2 (fun d mem => isWord d (by simp [mem])) ?_
        exact fun spelled => not (List.Forall₂.cons same spelled)
      case isFalse => rfl

/-- A keyword is not read where no word stands. -/
theorem run_keyword_of_not_starts {letters : List Char} (lower : letters.all Char.isLower = true)
    (ne : letters ≠ []) (not : ¬ Starts isWord cs) : (keyword letters).run k cs = [] := by
  obtain ⟨letter, letters, rfl⟩ := List.exists_cons_of_ne_nil ne
  rw [List.all_cons, Bool.and_eq_true] at lower
  unfold keyword
  rw [run_followedBy]
  cases cs with
  | nil => rfl
  | cons c cs =>
    have other : ¬ Text.equalsLetter letter c = true := fun same =>
      not (starts_cons.mpr (Text.isWord_of_equalsLetter lower.1 same))
    simp [other]

end Pattern

end Sql

end SqlBindings
