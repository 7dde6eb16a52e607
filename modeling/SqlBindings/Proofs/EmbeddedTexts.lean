import SqlBindings.Proofs.Rehearsal

namespace SqlBindings

open Render

namespace Text

open Number

/-- The characters at which a line can end. -/
def lineBreaks : List Char :=
  ['\n', '\r', '\x0b', '\x0c', '\x1c', '\x1d', '\x1e', '\x85', '\u2028', '\u2029']

theorem not_mem_lineBreaks {c : Char} (printable : isPrintable c = true) : c ∉ lineBreaks := by
  have unprintable : lineBreaks.all (fun c => !isPrintable c) = true := by decide +kernel
  intro mem
  have no := List.all_eq_true.mp unprintable c mem
  rw [printable] at no
  cases no

theorem isPrintable_of_mem_hexDigits {width n : Nat} :
    ∀ c ∈ hexDigits width n, isPrintable c = true := by
  have digit : ∀ n < 16, isPrintable (hexDigit n) = true := by decide
  induction width generalizing n with
  | zero => exact fun _ mem => absurd mem List.not_mem_nil
  | succ width ih =>
    rw [hexDigits, List.forall_mem_append, List.forall_mem_singleton]
    exact ⟨ih, digit _ (Nat.mod_lt _ (by decide))⟩

theorem isPrintable_of_mem_codeEscape (n : Nat) : ∀ c ∈ codeEscape n, isPrintable c = true := by
  have marks : isPrintable '\\' = true ∧ isPrintable 'x' = true ∧ isPrintable 'u' = true ∧
      isPrintable 'U' = true := by
    decide
  obtain ⟨backslash, x, u, U⟩ := marks
  unfold codeEscape
  split
  · exact List.forall_mem_cons.mpr ⟨backslash,
      List.forall_mem_cons.mpr ⟨x, isPrintable_of_mem_hexDigits⟩⟩
  · split
    · exact List.forall_mem_cons.mpr ⟨backslash,
        List.forall_mem_cons.mpr ⟨u, isPrintable_of_mem_hexDigits⟩⟩
    · exact List.forall_mem_cons.mpr ⟨backslash,
        List.forall_mem_cons.mpr ⟨U, isPrintable_of_mem_hexDigits⟩⟩

theorem isPrintable_of_mem_escapeChar {delimiter : Char} (printable : isPrintable delimiter = true)
    (c : Char) : ∀ d ∈ escapeChar delimiter c, isPrintable d = true := by
  unfold escapeChar
  split
  · rename_i escaped
    have character : isPrintable c = true := by
      rcases escaped with rfl | rfl
      · exact printable
      · decide
    simpa using ⟨by decide, character⟩
  · split
    · exact List.all_eq_true.mp (by decide)
    · split
      · exact List.all_eq_true.mp (by decide)
      · split
        · exact List.all_eq_true.mp (by decide)
        · split
          · rwa [List.forall_mem_singleton]
          · exact isPrintable_of_mem_codeEscape _

theorem isPrintable_of_mem_quote (s : String) : ∀ c ∈ (quote s).toList, isPrintable c = true := by
  have printable : isPrintable (delimiterOf s.toList) = true := by
    rcases delimiterOf_eq s.toList with single | double
    · rw [single]
      decide
    · rw [double]
      decide
  rw [quote, String.toList_ofList, quoteChars, List.forall_mem_append, List.forall_mem_singleton,
    List.forall_mem_cons]
  refine ⟨⟨printable, fun c mem => ?_⟩, printable⟩
  obtain ⟨d, _, here⟩ := List.mem_flatMap.mp mem
  exact isPrintable_of_mem_escapeChar printable d c here

/-- Behind its beginning, the line holds a literal for the value. The literal does not break the
line, and who reads it stops where the rest of the line begins. -/
def HoldsLiteral (start value rest line : String) : Prop :=
  ∃ literal, line = start ++ (literal ++ rest) ∧ (∀ c ∈ literal.toList, c ∉ lineBreaks) ∧
    readLiteral? (literal ++ rest).toList = some (value.toList, rest.toList)

theorem holdsLiteral_quote (start value : String) {rest : String}
    (h : rest.toList.head? ≠ some '\'') :
    HoldsLiteral start value rest (start ++ (quote value ++ rest)) := by
  refine ⟨quote value, rfl, fun c mem => ?_, ?_⟩
  · exact not_mem_lineBreaks (isPrintable_of_mem_quote value c mem)
  · rw [String.toList_append, quote, String.toList_ofList]
    exact readLiteral?_quoteChars value.toList h

end Text

open Text (HoldsLiteral)

/-- The constants of a class stand on the first lines that begin like them. -/
structure TableType.ReadsBack (t : TableType) : Prop where
  typeName : ∃ line,
    (t.render.filter fun line => Begins "    TYPE_NAME = " line).head? = some line ∧
      HoldsLiteral "    TYPE_NAME = " t.name "" line
  schemaName : ∃ line,
    (t.render.filter fun line => Begins "    SCHEMA_NAME = " line).head? = some line ∧
      HoldsLiteral "    SCHEMA_NAME = " t.schema "" line

/-- How a line begins that complains about a missing row. -/
def raiseStart : String := "                raise NoRowReturnedError("

/-- The statements with literals stand on the last lines that begin like them. -/
structure Command.ReadsBack (c : Command) (lines : List String) : Prop where
  query : ∃ query line, c.text = .ok query ∧
    (lines.filter fun line => Begins sendStart line).getLast? = some line ∧
    HoldsLiteral sendStart query
      (Attribute.afterSeparator (c.parameters.map fun p => p.bindValue (some c.schema)) ++ ")") line
  message : ∀ type nullable, c.returns = .single type nullable → ∃ line,
    (lines.filter fun line => Begins raiseStart line).getLast? = some line ∧
      HoldsLiteral raiseStart (c.qualifiedName ++ " returned no row") ")" line

/-- The first of some lines that begins so, if none in front of it does. -/
theorem head?_filter_begins {start line : String} {before after : List String}
    (earlier : ∀ l ∈ before, ¬ Begins start l) (here : Begins start line) :
    ((before ++ line :: after).filter fun line => Begins start line).head? = some line := by
  have none : before.filter (fun line => Begins start line) = [] :=
    List.filter_eq_nil_iff.mpr fun l mem begins => earlier l mem (of_decide_eq_true begins)
  rw [List.filter_append, none, List.nil_append]
  simp [here]

theorem TableType.readsBack (t : TableType) : t.ReadsBack := by
  have typeStart : "    TYPE_NAME = " = "    " ++ "TYPE_NAME = " := by decide +kernel
  have schemaStart : "    SCHEMA_NAME = " = "    " ++ "SCHEMA_NAME = " := by decide +kernel
  have noQuote : "".toList.head? ≠ some '\'' := by decide
  have line (start value : String) :
      start ++ (Text.quote value ++ "") = start ++ Text.quote value := by
    rw [String.append_empty]
  refine ⟨⟨"    TYPE_NAME = " ++ Text.quote t.name, ?_, ?_⟩,
    ⟨"    SCHEMA_NAME = " ++ Text.quote t.schema, ?_, ?_⟩⟩
  · rw [render_eq]
    simp only [List.append_assoc, List.singleton_append]
    refine head?_filter_begins ?_ (begins_append _ _)
    rw [typeStart]
    exact t.not_begins_opening _
  · rw [← line]
    exact Text.holdsLiteral_quote _ _ noQuote
  · have opening : ∀ l ∈ ["@dataclass(frozen=True)", "class " ++ t.name ++ ":"] ++
        ["    TYPE_NAME = " ++ Text.quote t.name], ¬ Begins "    SCHEMA_NAME = " l := by
      rw [List.forall_mem_append, List.forall_mem_singleton]
      constructor
      · rw [schemaStart]
        exact t.not_begins_opening _
      · with_reducible exact not_begins_append (by decide) _
    rw [render_eq, List.append_assoc, List.singleton_append]
    exact head?_filter_begins opening (begins_append _ _)
  · rw [← line]
    exact Text.holdsLiteral_quote _ _ noQuote

/-- The last of some statements that begins so, among lines that are indented like a body. -/
theorem getLast?_filter_begins {start statement : String} {before after head : List String}
    (some : start ≠ "") (here : Begins start statement) (later : ∀ l ∈ after, ¬ Begins start l) :
    ((head ++ indentBy 3 (before ++ statement :: after)).filter fun line =>
      Begins ("            " ++ start) line).getLast? =
        Option.some ("            " ++ statement) := by
  have margin : String.join (List.replicate 3 indentStep) = "            " := by decide +kernel
  have none : after.filter (fun line => Begins start line) = [] :=
    List.filter_eq_nil_iff.mpr fun l mem begins => later l mem (of_decide_eq_true begins)
  have kept : (statement :: after).filter (fun line => Begins start line) = [statement] := by
    simp [here, none]
  have body := filter_indentBy 3 some (before ++ statement :: after)
  rw [List.filter_append, kept, margin] at body
  rw [List.filter_append, body]
  simp

namespace Command

variable {c : Command} {lines : List String}

theorem readsBack_query (rendered : c.render = .ok lines) : ∃ query line, c.text = .ok query ∧
    (lines.filter fun line => Begins sendStart line).getLast? = some line ∧
    HoldsLiteral sendStart query
      (Attribute.afterSeparator (c.parameters.map fun p => p.bindValue (some c.schema)) ++ ")")
      line := by
  obtain ⟨query, text, rfl⟩ := render_eq_ok.mp rendered
  have sends : sendStart = "            " ++ ("await cursor." ++ "execute(") := by decide +kernel
  have line : "            " ++ c.sendText query =
      sendStart ++ sendArguments query (c.parameters.map fun p => p.bindValue (some c.schema)) := by
    rw [sendText_eq, margin_statement]
    rfl
  have begins : Begins ("await cursor." ++ "execute(") (c.sendText query) := by
    rw [sendText_eq]
    exact begins_statement _ _
  have later : ∀ line ∈ c.readResult, ¬ Begins ("await cursor." ++ "execute(") line :=
    fun line mem => mt Begins.of_append (c.not_begins_readResult line mem)
  have some : "await cursor." ++ "execute(" ≠ "" := by decide
  refine ⟨query, "            " ++ c.sendText query, text, ?_, ?_⟩
  · rw [sends, executeBody, List.append_assoc _ [c.sendText query], List.singleton_append]
    exact getLast?_filter_begins some begins later
  · rw [line]
    exact Text.holdsLiteral_quote sendStart query (head?_afterSeparator _)

theorem readsBack_message (rendered : c.render = .ok lines) {type : SqlType} {nullable : Bool}
    (single : c.returns = .single type nullable) : ∃ line,
      (lines.filter fun line => Begins raiseStart line).getLast? = some line ∧
        HoldsLiteral raiseStart (c.qualifiedName ++ " returned no row") ")" line := by
  obtain ⟨query, _, rfl⟩ := render_eq_ok.mp rendered
  have raises : raiseStart = "            " ++ "    raise NoRowReturnedError(" := by decide +kernel
  generalize final_eq : unlessNone nullable "row[0]" (type.readAccessor "row" 0 (some c.schema)) =
    final
  have result : c.readResult = ["row = await cursor.fetchone()", "if row is None:"] ++
      ("    raise NoRowReturnedError(" ++
        (Text.quote (c.qualifiedName ++ " returned no row") ++ ")")) :: ["return " ++ final] := by
    rw [readResult, single, ← final_eq]
    simp only [String.append_assoc]
    rfl
  have later : ∀ line ∈ ["return " ++ final], ¬ Begins "    raise NoRowReturnedError(" line := by
    rw [List.forall_mem_singleton]
    with_reducible exact not_begins_append (by decide) _
  have some : "    raise NoRowReturnedError(" ≠ "" := by decide
  rw [executeBody, result, ← List.append_assoc, raises]
  refine ⟨_, getLast?_filter_begins some (begins_append _ _) later, ?_⟩
  rw [← String.append_assoc]
  exact Text.holdsLiteral_quote _ _ (by decide)

theorem readsBack (rendered : c.render = .ok lines) : c.ReadsBack lines :=
  ⟨readsBack_query rendered, fun _ _ single => readsBack_message rendered single⟩

end Command

/-- Whatever a table type, a schema or a query is called or holds, the literals that are written for
it are read as it. -/
theorem render_readsBack : (∀ t : TableType, t.ReadsBack) ∧
    ∀ (c : Command) (lines : List String), c.render = .ok lines → c.ReadsBack lines :=
  ⟨TableType.readsBack, fun _ _ rendered => Command.readsBack rendered⟩

/-- A query with quotes of both kinds, a backslash and a line break. -/
def quotingQuery : Command :=
  ⟨"it's", "Odd", "[it's].[Odd]", [], .single (.plain .int32) true,
    .rawSql "SELECT 'a\\b' AS \"c\"\n"⟩

theorem render_readsBack_quotingQuery :
    ∃ lines, quotingQuery.render = .ok lines ∧ quotingQuery.ReadsBack lines :=
  ⟨_, rfl, render_readsBack.2 quotingQuery _ rfl⟩

end SqlBindings
