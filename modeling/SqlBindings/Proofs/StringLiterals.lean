import Mathlib.Algebra.Group.Nat.Defs
import SqlBindings.Text.Quoted

namespace SqlBindings

namespace Number

theorem hexValue?_hexDigit : ∀ n < 16, hexValue? (hexDigit n) = some n := by decide

theorem readHex?_add (width more value : Nat) (cs : List Char) :
    readHex? (width + more) value cs =
      (readHex? width value cs).bind fun (value, rest) => readHex? more value rest := by
  induction width generalizing value cs with
  | zero => rw [Nat.zero_add, readHex?, Option.bind_some]
  | succ width ih =>
    rw [Nat.add_right_comm]
    cases cs with
    | nil => rfl
    | cons c rest =>
      simp only [readHex?, ih, Option.bind_eq_bind]
      cases hexValue? c <;> rfl

theorem readHex?_hexDigits (width : Nat) {n : Nat} (h : n < 16 ^ width) (rest : List Char) :
    readHex? width 0 (hexDigits width n ++ rest) = some (n, rest) := by
  induction width generalizing n rest with
  | zero =>
    have none : n = 0 := by omega
    rw [none]
    rfl
  | succ width ih =>
    have quotient : n / 16 < 16 ^ width := by
      rw [Nat.pow_succ] at h
      omega
    have digit : hexValue? (hexDigit (n % 16)) = some (n % 16) :=
      hexValue?_hexDigit _ (Nat.mod_lt _ (by decide))
    have value : 16 * (n / 16) + n % 16 = n := Nat.div_add_mod n 16
    rw [hexDigits, List.append_assoc, readHex?_add, ih quotient, Option.bind_some]
    simp only [List.cons_append, List.nil_append, readHex?, digit, Option.bind_eq_bind,
      Option.bind_some, value]

theorem length_hexDigits (width n : Nat) : (hexDigits width n).length = width := by
  induction width generalizing n with
  | zero => rfl
  | succ width ih => rw [hexDigits, List.length_append, ih, List.length_singleton]

end Number

namespace Text

open Number

/-- What a backslash and one more character stand for. -/
def shortEscapes : List (Char × Char) :=
  [('\\', '\\'), ('\'', '\''), ('"', '"'), ('a', '\x07'), ('b', '\x08'), ('t', '\t'), ('n', '\n'),
    ('v', '\x0b'), ('f', '\x0c'), ('r', '\r')]

/-- The character with the code that the next `width` hexadecimal digits give. -/
def readCode? (width : Nat) (cs : List Char) : Option (List Char × Nat) := do
  let (code, _) ← readHex? width 0 cs
  if code.isValidChar then some ([Char.ofNat code], width + 1) else none

def isOctalDigit (c : Char) : Bool := '0' ≤ c && c ≤ '7'

/-- The character with the code that up to three octal digits give. -/
def readOctal (cs : List Char) : List Char × Nat :=
  let digits := (cs.take 3).takeWhile isOctalDigit
  ([Char.ofNat (digits.foldl (fun code digit => 8 * code + (digit.toNat - 48)) 0)], digits.length)

/-- What a backslash stands for together with the characters after it, and how many of these it
takes. Before most characters it stands for itself. A line does not end in an escape, and characters
are not given by their names. -/
def readEscape? : List Char → Option (List Char × Nat)
  | [] => none
  | c :: rest =>
    match shortEscapes.lookup c with
    | some image => some ([image], 1)
    | none =>
      if c = 'x' then readCode? 2 rest
      else if c = 'u' then readCode? 4 rest
      else if c = 'U' then readCode? 8 rest
      else if isOctalDigit c then some (readOctal (c :: rest))
      else if c = 'N' ∨ c = '\n' ∨ c = '\r' then none
      else some (['\\', c], 1)

/-- The inside of a literal up to its closing mark, and what follows the mark. The next `skip`
characters belong to an escape that has been read. -/
def readInside? (mark : List Char) (skip : Nat) : List Char → Option (List Char × List Char)
  | [] => none
  | c :: rest =>
    match skip with
    | skip + 1 => readInside? mark skip rest
    | 0 =>
      if mark.isPrefixOf (c :: rest) then some ([], (c :: rest).drop mark.length)
      else if c = '\\' then do
        let (image, width) ← readEscape? rest
        let (inside, rest) ← readInside? mark width rest
        return (image ++ inside, rest)
      else if c = '\n' ∨ c = '\r' then none
      else do
        let (inside, rest) ← readInside? mark 0 rest
        return (c :: inside, rest)

/-- The mark that opens and closes a literal: one quote, or three of them. -/
def openingMark? : List Char → Option (List Char)
  | [] => none
  | c :: rest =>
    if c = '\'' ∨ c = '"' then some (if [c, c].isPrefixOf rest then [c, c, c] else [c]) else none

/-- What the literal at the front of a line stands for, and what follows the literal. -/
def readLiteral? (cs : List Char) : Option (List Char × List Char) := do
  let mark ← openingMark? cs
  readInside? mark 0 (cs.drop mark.length)

theorem readInside?_skip (mark skipped rest : List Char) :
    readInside? mark skipped.length (skipped ++ rest) = readInside? mark 0 rest := by
  induction skipped with
  | nil => rfl
  | cons c skipped ih => exact ih

theorem readInside?_close {mark : List Char} (some : mark ≠ []) (rest : List Char) :
    readInside? mark 0 (mark ++ rest) = .some ([], rest) := by
  obtain ⟨c, more, rfl⟩ := List.exists_cons_of_ne_nil some
  have closes : (c :: more).isPrefixOf (c :: (more ++ rest)) = true :=
    List.isPrefixOf_iff_prefix.mpr (List.prefix_append (c :: more) rest)
  rw [List.cons_append, readInside?, if_pos closes, ← List.cons_append, List.drop_left]

/-- A character that needs no escape stands for itself. -/
theorem readInside?_plain {mark : List Char} {c : Char} {rest : List Char}
    (inside : mark.isPrefixOf (c :: rest) = false) (escapes : c ≠ '\\') (breaks : c ≠ '\n')
    (returns : c ≠ '\r') :
    readInside? mark 0 (c :: rest) =
      (readInside? mark 0 rest).map fun (inside, rest) => (c :: inside, rest) := by
  rw [readInside?, inside]
  simp only [Bool.false_eq_true, if_false, escapes, breaks, returns, or_self, Option.bind_eq_bind]
  cases readInside? mark 0 rest <;> rfl

/-- An escape is read as what it stands for, and the reader goes on behind it. -/
theorem readInside?_escape {mark image skipped rest : List Char}
    (inside : mark.isPrefixOf ('\\' :: (skipped ++ rest)) = false)
    (h : readEscape? (skipped ++ rest) = some (image, skipped.length)) :
    readInside? mark 0 ('\\' :: skipped ++ rest) =
      (readInside? mark 0 rest).map fun (inside, rest) => (image ++ inside, rest) := by
  rw [List.cons_append, readInside?, inside]
  simp only [Bool.false_eq_true, if_false, if_true, h, readInside?_skip, Option.bind_eq_bind,
    Option.bind_some]
  cases readInside? mark 0 rest <;> rfl

theorem readCode?_hexDigits {width : Nat} {c : Char} (h : c.toNat < 16 ^ width) (rest : List Char) :
    readCode? width (hexDigits width c.toNat ++ rest) = some ([c], width + 1) := by
  have valid : c.toNat.isValidChar := c.valid
  rw [readCode?, readHex?_hexDigits width h]
  simp only [Option.bind_eq_bind, Option.bind_some, valid, if_true, Char.ofNat_toNat]

/-- The code of a character is written as an escape that is read as the character. -/
theorem exists_codeEscape (c : Char) : ∃ skipped, codeEscape c.toNat = '\\' :: skipped ∧
    ∀ rest, readEscape? (skipped ++ rest) = some ([c], skipped.length) := by
  have bound : c.toNat < 16 ^ 8 := c.val.toNat_lt
  unfold codeEscape
  split
  · refine ⟨_, rfl, fun rest => ?_⟩
    rw [List.length_cons, length_hexDigits]
    exact readCode?_hexDigits ‹_› rest
  · split
    · refine ⟨_, rfl, fun rest => ?_⟩
      rw [List.length_cons, length_hexDigits]
      exact readCode?_hexDigits ‹_› rest
    · refine ⟨_, rfl, fun rest => ?_⟩
      rw [List.length_cons, length_hexDigits]
      exact readCode?_hexDigits bound rest

theorem delimiterOf_eq (cs : List Char) : delimiterOf cs = '\'' ∨ delimiterOf cs = '"' := by
  unfold delimiterOf
  split
  · exact .inr rfl
  · exact .inl rfl

section

variable {delimiter : Char} (quotes : delimiter = '\'' ∨ delimiter = '"')

include quotes

/-- A character is written as itself or as an escape that stands for it. -/
theorem escapeChar_cases (c : Char) :
    (escapeChar delimiter c = [c] ∧ c ≠ delimiter ∧ c ≠ '\\' ∧ c ≠ '\n' ∧ c ≠ '\r') ∨
      ∃ skipped, escapeChar delimiter c = '\\' :: skipped ∧
        ∀ rest, readEscape? (skipped ++ rest) = some ([c], skipped.length) := by
  unfold escapeChar
  by_cases escaped : c = delimiter ∨ c = '\\'
  · rw [if_pos escaped]
    refine .inr ⟨[c], rfl, fun rest => ?_⟩
    rcases escaped with rfl | rfl
    · rcases quotes with rfl | rfl <;> rfl
    · rfl
  obtain ⟨ends, escapes⟩ := not_or.mp escaped
  rw [if_neg escaped]
  by_cases newline : c = '\n'
  · rw [if_pos newline, newline]
    exact .inr ⟨['n'], rfl, fun _ => rfl⟩
  rw [if_neg newline]
  by_cases carriage : c = '\r'
  · rw [if_pos carriage, carriage]
    exact .inr ⟨['r'], rfl, fun _ => rfl⟩
  rw [if_neg carriage]
  by_cases tab : c = '\t'
  · rw [if_pos tab, tab]
    exact .inr ⟨['t'], rfl, fun _ => rfl⟩
  rw [if_neg tab]
  split
  · exact .inl ⟨rfl, ends, escapes, newline, carriage⟩
  · exact .inr (exists_codeEscape c)

theorem readInside?_escapeChar (c : Char) (rest : List Char) :
    readInside? [delimiter] 0 (escapeChar delimiter c ++ rest) =
      (readInside? [delimiter] 0 rest).map fun (inside, rest) => (c :: inside, rest) := by
  have isPrefixOf_cons (d : Char) (rest : List Char) (other : d ≠ delimiter) :
      [delimiter].isPrefixOf (d :: rest) = false := by
    simp [List.isPrefixOf, Ne.symm other]
  have backslash : '\\' ≠ delimiter := by rcases quotes with rfl | rfl <;> decide
  rcases escapeChar_cases quotes c with ⟨plain, ends, escapes, breaks, returns⟩ |
    ⟨skipped, escaped, read⟩
  · rw [plain, List.singleton_append]
    exact readInside?_plain (isPrefixOf_cons c rest ends) escapes breaks returns
  · rw [escaped]
    exact readInside?_escape (isPrefixOf_cons '\\' _ backslash) (read rest)

theorem readInside?_quoted (cs rest : List Char) :
    readInside? [delimiter] 0 (cs.flatMap (escapeChar delimiter) ++ delimiter :: rest) =
      some (cs, rest) := by
  induction cs with
  | nil => exact readInside?_close (List.cons_ne_nil delimiter []) rest
  | cons c cs ih =>
    rw [List.flatMap_cons, List.append_assoc, readInside?_escapeChar quotes, ih, Option.map_some]

/-- A quoted text opens with one quote. An empty one must not be followed by another quote. -/
theorem openingMark?_quoted {cs rest : List Char} (h : cs = [] → rest.head? ≠ some delimiter) :
    openingMark? (delimiter :: (cs.flatMap (escapeChar delimiter) ++ delimiter :: rest)) =
      some [delimiter] := by
  have single :
      [delimiter, delimiter].isPrefixOf (cs.flatMap (escapeChar delimiter) ++ delimiter :: rest) =
        false := by
    cases cs with
    | nil =>
      cases rest with
      | nil => simp [List.isPrefixOf]
      | cons c rest =>
        have other : delimiter ≠ c := fun same => h rfl (congrArg some same.symm)
        simp [List.isPrefixOf, other]
    | cons c cs =>
      have backslash : delimiter ≠ '\\' := by rcases quotes with rfl | rfl <;> decide
      rcases escapeChar_cases quotes c with ⟨plain, ends, _⟩ | ⟨skipped, escaped, _⟩
      · simp [plain, List.isPrefixOf, Ne.symm ends]
      · simp [escaped, List.isPrefixOf, backslash]
  rw [openingMark?, if_pos quotes, single]
  rfl

end

/-- A text that was quoted is read back. An empty literal must not be followed by another quote, with
which it would open a longer one. -/
theorem readLiteral?_quoteChars (cs : List Char) {rest : List Char} (h : rest.head? ≠ some '\'') :
    readLiteral? (quoteChars cs ++ rest) = some (cs, rest) := by
  have quotes := delimiterOf_eq cs
  have alone : cs = [] → rest.head? ≠ some (delimiterOf cs) := by
    rintro rfl
    exact h
  have literal : quoteChars cs ++ rest =
      delimiterOf cs :: (cs.flatMap (escapeChar (delimiterOf cs)) ++ delimiterOf cs :: rest) := by
    simp [quoteChars]
  rw [literal, readLiteral?, openingMark?_quoted quotes alone]
  exact readInside?_quoted quotes cs rest

theorem readLiteral?_quote (s : String) : readLiteral? (quote s).toList = some (s.toList, []) := by
  have read : readLiteral? (quoteChars s.toList ++ []) = _ := readLiteral?_quoteChars s.toList (by simp)
  rw [List.append_nil] at read
  rw [quote, String.toList_ofList, read]

/-- The mark that docstrings stand in. -/
def docMark : List Char := ['"', '"', '"']

/-- The text can stand in a docstring on one line as it is. -/
def IsVerbatim (s : String) : Prop := ∀ c ∈ s.toList, c ≠ '"' ∧ c ≠ '\\' ∧ c ≠ '\n' ∧ c ≠ '\r'

instance (s : String) : Decidable (IsVerbatim s) := List.decidableBAll _ _

theorem IsVerbatim.append {s t : String} (hs : IsVerbatim s) (ht : IsVerbatim t) :
    IsVerbatim (s ++ t) := by
  unfold IsVerbatim
  rw [String.toList_append]
  exact List.forall_mem_append.mpr ⟨hs, ht⟩

/-- A text without quotes, backslashes and line breaks is read back from a docstring. -/
theorem readLiteral?_docstring {s : String} (h : IsVerbatim s) :
    readLiteral? (docMark ++ (s.toList ++ docMark)) = some (s.toList, []) := by
  have inside (cs : List Char) (h : ∀ c ∈ cs, c ≠ '"' ∧ c ≠ '\\' ∧ c ≠ '\n' ∧ c ≠ '\r') :
      readInside? docMark 0 (cs ++ docMark) = some (cs, []) := by
    induction cs with
    | nil => exact readInside?_close (List.cons_ne_nil _ _) []
    | cons c cs ih =>
      obtain ⟨⟨quote, escapes, breaks, returns⟩, rest⟩ := List.forall_mem_cons.mp h
      have open_ : docMark.isPrefixOf (c :: (cs ++ docMark)) = false := by
        simp [docMark, List.isPrefixOf, Ne.symm quote]
      rw [List.cons_append, readInside?_plain open_ escapes breaks returns, ih rest]
      rfl
  exact inside s.toList h

end Text

end SqlBindings
