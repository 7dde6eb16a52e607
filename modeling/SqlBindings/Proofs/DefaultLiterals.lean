import SqlBindings.Proofs.Declarations
import SqlBindings.Proofs.LowerCase
import SqlBindings.Attribute

namespace SqlBindings

namespace Text

/-- The image of a code point beyond ASCII is no letter of NULL. -/
theorem shifted?_ne {n m : Nat} (shifted : shifted? lowerShifts n = some m) :
    m ∉ [108, 110, 117] := by
  obtain ⟨-, -, -, small⟩ := exists_image shifted
  have letter : 'k'.toNat = 107 := rfl
  simp only [List.mem_cons, List.not_mem_nil, or_false, not_or]
  omega

/-- A letter of NULL. -/
def isNullLetter (c : Char) : Bool := c == 'n' || c == 'u' || c == 'l'

/-- Beyond ASCII no lower case begins with a letter of NULL. -/
theorem lowerChar_cons {c : Char} (high : ¬ c.toNat < 0x80) :
    ∃ x rest, lowerChar c = x :: rest ∧ isNullLetter x = false := by
  unfold lowerChar
  rw [if_neg high]
  split
  case h_1 image found =>
    simp only [lowerExpansions, List.lookup_cons, List.lookup_nil] at found
    split at found
    · obtain rfl := Option.some.inj found
      exact ⟨_, _, rfl, by decide⟩
    · exact absurd found (by simp)
  case h_2 =>
    refine ⟨_, _, rfl, ?_⟩
    cases shifted : shifted? lowerShifts c.toNat with
    | none =>
      have notLetter : ∀ x : Char, x.toNat < 0x80 → c ≠ x := by rintro x low rfl; exact high low
      simp [isNullLetter, notLetter]
    | some m =>
      have other := shifted?_ne shifted
      simp only [Option.map_some, Option.getD_some, isNullLetter]
      by_contra letter
      simp only [Bool.not_eq_false, Bool.or_eq_true, beq_iff_eq] at letter
      rcases letter with (same | same) | same <;>
        (rw [ofNat_eq same (by decide)] at other; exact other (by decide))

/-- The lower case of a text is made of letters of NULL only if the text is in ASCII. -/
theorem lowerFrom_eq_iff {letters : List Char} (null : letters.all isNullLetter = true)
    (before cs : List Char) : lowerFrom before cs = letters ↔ cs.map Char.toLower = letters := by
  induction cs generalizing before letters with
  | nil => simp [lowerFrom]
  | cons c rest ih =>
    have notLetter {x : Char} {xs ys : List Char} (other : isNullLetter x = false) :
        x :: xs ++ ys ≠ letters := by
      rintro rfl
      simp [other] at null
    by_cases low : c.toNat < 0x80
    · have notSigma : c ≠ 'Σ' := by rintro rfl; exact absurd low (by decide)
      have image : lowerChar c = [c.toLower] := by simp [lowerChar, low]
      rw [lowerFrom, if_neg notSigma, image, List.map_cons]
      cases letters with
      | nil => simp
      | cons letter letters =>
        rw [List.all_cons, Bool.and_eq_true] at null
        simp [ih null.2]
    · have unchanged : c.toLower = c := dif_neg fun upper => low (by
        have := upper.2
        simp only [UInt32.le_iff_toNat_le] at this
        have : c.toNat = c.val.toNat := rfl
        have : 'Z'.val.toNat = 90 := rfl
        omega)
      have other : isNullLetter c = false := by
        have notLetter : ∀ x : Char, x.toNat < 0x80 → c ≠ x := by rintro x low' rfl; exact low low'
        simp [isNullLetter, notLetter]
      have noMap : (c :: rest).map Char.toLower ≠ letters := by
        rw [List.map_cons, unchanged]
        have differ : c :: rest.map Char.toLower ++ [] ≠ letters := notLetter other
        simpa using differ
      simp only [noMap, iff_false]
      rw [lowerFrom]
      split
      · split <;> exact notLetter (by decide)
      · obtain ⟨x, xs, image, other⟩ := lowerChar_cons low
        rw [image]
        exact notLetter other

/-- A text without white space at its ends. -/
theorem trimBlanks_eq_self {cs : List Char} (first : ¬ Sql.Starts isBlank cs)
    (last : ¬ Sql.Starts isBlank cs.reverse) : trimBlanks cs = cs := by
  unfold trimBlanks
  rw [Sql.dropWhile_of_not_starts first, Sql.dropWhile_of_not_starts last, List.reverse_reverse]

end Text

theorem Attribute.isNullLiteral_iff {cs : List Char} (first : ¬ Sql.Starts Text.isBlank cs)
    (last : ¬ Sql.Starts Text.isBlank cs.reverse) :
    Attribute.isNullLiteral (String.ofList cs) = true ↔ cs.map Char.toLower = "null".toList := by
  unfold Attribute.isNullLiteral
  rw [String.toList_ofList, Text.trimBlanks_eq_self first last, beq_iff_eq]
  exact Text.lowerFrom_eq_iff (by decide) [] cs

namespace Sql

open Text (isWord isBlank isBlank_of_isWord ne_of_isWord)
open Pattern

variable {cs after : List Char}

/-- A string literal. -/
def quotedLiteral : Pattern :=
  optional (one (Text.equalsLetter 'n')) >> char '\'' >> quotedBody >> char '\''

theorem defaultLiteral_eq : defaultLiteral cs = quotedLiteral cs ++ oneOrMore isLiteralChar cs := rfl

theorem apply_eq_run (p : Pattern) (cs : List Char) : p cs = p.run (fun rest => [rest]) cs := by
  simp [Pattern.run]

theorem oneOrMore_cons {p : Char → Bool} {c : Char} (holds : p c = true) :
    oneOrMore p (c :: cs) = many p cs := by
  show (one p (c :: cs)).flatMap (many p) = _
  simp [one, holds]

theorem head?_many {p : Char → Bool} : (many p cs).head? = some (cs.dropWhile p) := by
  induction cs with
  | nil => rfl
  | cons c cs ih =>
    by_cases holds : p c = true
    · simp [many, holds, ih]
    · simp [many, holds]

/-- The preferred reading of a run of literal characters is the whole run. -/
theorem head?_defaultLiteral (noQuote : quotedLiteral cs = []) (starts : Starts isLiteralChar cs) :
    (defaultLiteral cs).head? = some (cs.dropWhile isLiteralChar) := by
  obtain ⟨c, rest, rfl, literal⟩ := starts
  rw [defaultLiteral_eq, noQuote, List.nil_append, oneOrMore_cons literal, head?_many,
    List.dropWhile_cons_of_pos literal]

theorem quotedLiteral_of_not (noQuote : ¬ Starts (· == '\'') cs)
    (noMark : Starts (Text.equalsLetter 'n') cs → ¬ Starts (· == '\'') cs.tail) :
    quotedLiteral cs = [] := by
  rw [apply_eq_run quotedLiteral, quotedLiteral]
  simp only [run_followedBy]
  rw [run_optional, run_char_stuck noQuote, List.append_nil]
  cases cs with
  | nil => rfl
  | cons c rest =>
    rw [run_one_cons]
    split
    case isTrue mark => exact run_char_stuck (noMark (by simpa using mark))
    case isFalse => rfl

theorem defaultLiteral_stuck (noQuote : quotedLiteral cs = []) (not : ¬ Starts isLiteralChar cs) :
    defaultLiteral cs = [] := by
  rw [defaultLiteral_eq, noQuote, List.nil_append, apply_eq_run (oneOrMore _)]
  exact run_oneOrMore_stuck not

/-- The body of a string is read up to the quote that closes it. -/
theorem head?_quotedBody (inner : List Char) (stop : ¬ Starts (· == '\'') after) :
    (quotedBody (DefaultValue.doubleQuotes inner ++ '\'' :: after)).head? = some ('\'' :: after) := by
  induction inner with
  | nil =>
    rw [DefaultValue.doubleQuotes, List.nil_append]
    cases after with
    | nil => simp [quotedBody]
    | cons c after =>
      have other : c ≠ '\'' := by simpa using stop
      simp [quotedBody, other]
  | cons c inner ih =>
    by_cases quote : c = '\''
    · simp [DefaultValue.doubleQuotes, quote, quotedBody, ih]
    · simp [DefaultValue.doubleQuotes, quote, quotedBody, ih]

theorem head?_quoted {mark : List Char} (marked : mark = [] ∨ Spells ['n'] mark) (inner : List Char)
    (stop : ¬ Starts (· == '\'') after) :
    (defaultLiteral (mark ++ '\'' :: (DefaultValue.doubleQuotes inner ++ '\'' :: after))).head? =
      some after := by
  obtain ⟨others, body⟩ : ∃ others, quotedBody (DefaultValue.doubleQuotes inner ++ '\'' :: after) =
      ('\'' :: after) :: others := List.head?_eq_some_iff.mp (head?_quotedBody inner stop)
  have closed : ∃ others, (quotedBody.run ((char '\'').run fun rest => [rest]))
      (DefaultValue.doubleQuotes inner ++ '\'' :: after) = after :: others := by
    refine ⟨others.flatMap ((char '\'').run fun rest => [rest]), ?_⟩
    rw [Pattern.run, body, List.flatMap_cons, run_char_cons, if_pos rfl]
    rfl
  obtain ⟨others, closed⟩ := closed
  rw [defaultLiteral_eq, apply_eq_run quotedLiteral, quotedLiteral]
  simp only [run_followedBy]
  rw [run_optional]
  rcases marked with rfl | spelled
  · have noMark : ¬ Text.equalsLetter 'n' '\'' = true := by decide
    rw [List.nil_append, run_one_cons, if_neg noMark, run_char_cons, if_pos rfl, closed]
    rfl
  · obtain ⟨c, rfl, same⟩ : ∃ c, mark = [c] ∧ Text.equalsLetter 'n' c = true := by
      cases spelled with
      | cons same none => cases none; exact ⟨_, rfl, same⟩
    rw [List.singleton_append, run_one_cons, if_pos same, run_char_cons, if_pos rfl, closed]
    rfl

end Sql

end SqlBindings
