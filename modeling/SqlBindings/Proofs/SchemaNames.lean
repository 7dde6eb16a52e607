import SqlBindings.Files.Path
import SqlBindings.Proofs.CatalogNames
import SqlBindings.Proofs.LineStarts
import SqlBindings.Proofs.PackageFiles
import SqlBindings.Proofs.StringLiterals

namespace SqlBindings

open Catalog Render

namespace Name

/-- The alias of a module is a name if the schema has one. -/
theorem isClassName_schemaAlias {schema : String} (h : IsClassName schema) :
    IsClassName (schemaAlias schema) := by
  have start : schemaAliasPrefix.toList = ['_', 's', 'c', 'h', 'e', 'm', 'a', '_'] := by decide
  have chars : (schemaAlias schema).toList =
      ['_', 's', 'c', 'h', 'e', 'm', 'a', '_'] ++ schema.toList := by
    rw [schemaAlias, String.toList_append, start]
  refine ⟨?_, fun keyword => ?_⟩
  · obtain ⟨identifier, _⟩ := h
    unfold Text.isIdentifier at identifier ⊢
    rw [chars]
    cases rest : schema.toList with
    | nil =>
      rw [rest] at identifier
      cases identifier
    | cons c cs =>
      rw [rest] at identifier
      obtain ⟨first, others⟩ := Bool.and_eq_true_iff.mp identifier
      have fixed : Text.isIdentifierStart '_' = true ∧
          ['s', 'c', 'h', 'e', 'm', 'a', '_'].all Text.isIdentifierContinue = true := by
        decide +kernel
      rw [List.cons_append, Text.isIdentifierChars, fixed.1, Bool.true_and, List.all_append, fixed.2,
        List.all_cons, Text.isIdentifierContinue_of_start first, others]
      rfl
  · have other : ∀ word ∈ keywords, ¬ schemaAliasPrefix.toList <+: word.toList := by decide +kernel
    refine other _ keyword ⟨schema.toList, ?_⟩
    rw [schemaAlias, String.toList_append]

end Name

namespace Render

/-- A relative import in the grammar of the language, of one module under another name. -/
def IsImport (line : String) : Prop :=
  ∃ name other, Name.IsClassName name ∧ Name.IsClassName other ∧
    line = "from . import " ++ name ++ " as " ++ other

/-- A schema is imported in the grammar of the language exactly if its name is one. -/
theorem isImport_importLine_iff {schema : String} :
    IsImport (importLine schema) ↔ Name.IsClassName schema := by
  constructor
  · rintro ⟨name, other, valid, validOther, same⟩
    have blank {name : String} (h : Name.IsClassName name) : ' ' ∉ name.toList :=
      not_mem_of_isIdentifier h.1 (by decide) (by decide)
    have as : " as ".toList = ' ' :: ['a', 's', ' '] := by decide
    have start : Name.schemaAliasPrefix.toList = ['_', 's', 'c', 'h', 'e', 'm', 'a', '_'] := by decide
    have chars : schema.toList ++ ' ' :: (['a', 's', ' '] ++ (['_', 's', 'c', 'h', 'e', 'm', 'a', '_'] ++
        schema.toList)) = name.toList ++ ' ' :: (['a', 's', ' '] ++ other.toList) := by
      unfold importLine Name.schemaAlias at same
      rw [String.append_assoc, String.append_assoc, String.append_assoc, String.append_assoc,
        String.append_right_inj] at same
      have cancelled := congrArg String.toList same
      rw [String.toList_append, String.toList_append, String.toList_append, String.toList_append,
        String.toList_append, as, start] at cancelled
      exact cancelled
    -- the name stands twice on the left, and there are two blanks on the right
    have none : ' ' ∉ schema.toList := by
      have noName := List.count_eq_zero_of_not_mem (blank valid)
      have noOther := List.count_eq_zero_of_not_mem (blank validOther)
      have blanks : schema.toList.count ' ' + (schema.toList.count ' ' + 1 + 1) = 2 := by
        simpa [List.count_append, noName, noOther] using congrArg (List.count ' ') chars
      exact List.count_eq_zero.mp (by omega)
    have equal := append_cons_inj none (blank valid) chars
    exact String.toList_injective equal ▸ valid
  · exact fun valid => ⟨schema, _, valid, Name.isClassName_schemaAlias valid, rfl⟩

end Render

namespace Files

/-- The text is the name of a file: it leads to one file in the directory where it is looked up. -/
def IsFileName (text : String) : Prop := Path.ofText text = ⟨.working, [text]⟩

theorem splitAtChar_of_not_mem {separator : Char} {cs : List Char} (h : separator ∉ cs) :
    Sql.splitAtChar separator cs = [cs] := by
  induction cs with
  | nil => rfl
  | cons c cs ih =>
    rw [List.mem_cons, not_or] at h
    rw [Sql.splitAtChar, if_neg (Ne.symm h.1), ih h.2]

theorem isFileName_module_iff {schema : String} :
    IsFileName (schema ++ ".py") ↔ '/' ∉ schema.toList := by
  have ending : ".py".toList = ['.', 'p', 'y'] := by decide
  have chars : (schema ++ ".py").toList = schema.toList ++ ['.', 'p', 'y'] := by
    rw [String.toList_append, ending]
  have slash : '/' ∈ (schema ++ ".py").toList ↔ '/' ∈ schema.toList := by simp [chars]
  rw [← slash]
  generalize text_eq : schema ++ ".py" = text at chars ⊢
  constructor
  · intro single
    have segment : text ∈ (Path.ofText text).segments := by
      rw [single]
      exact List.mem_singleton_self text
    obtain ⟨part, mem, rfl⟩ := List.mem_map.mp (List.mem_filter.mp segment).1
    rw [String.toList_ofList]
    exact Sql.not_mem_of_mem_splitAtChar mem
  · intro whole
    have first : text.toList.takeWhile (· == '/') = [] := by
      cases cs : text.toList with
      | nil => rfl
      | cons c rest =>
        rw [cs, List.mem_cons, not_or] at whole
        rw [List.takeWhile_cons_of_neg (by simpa using Ne.symm whole.1)]
    have length : 3 ≤ text.toList.length := by simp [chars]
    have notEmpty : text ≠ "" ∧ text ≠ "." := by
      constructor
      · rintro rfl
        exact absurd length (by decide)
      · rintro rfl
        exact absurd length (by decide)
    rw [IsFileName, Path.ofText, Path.rootOf, first, splitAtChar_of_not_mem whole]
    simp [notEmpty]

end Files

theorem Name.isVerbatim_of_isClassName {name : String} (h : IsClassName name) :
    Text.IsVerbatim name := by
  have other (c : Char) (start : Text.isIdentifierStart c = false)
      (more : Text.isIdentifierContinue c = false) : ∀ d ∈ name.toList, d ≠ c :=
    fun d mem same => not_mem_of_isIdentifier h.1 start more (same ▸ mem)
  intro c mem
  exact ⟨other '"' (by decide) (by decide) c mem, other '\\' (by decide) (by decide) c mem,
    other '\n' (by decide) (by decide) c mem, other '\r' (by decide) (by decide) c mem⟩

theorem Sql.bracketed_of_isClassName {part : String} (h : Name.IsClassName part) :
    bracketed part = "[" ++ part ++ "]" := by
  have none : ']' ∉ part.toList := not_mem_of_isIdentifier h.1 (by decide) (by decide)
  have same (cs : List Char) (h : ']' ∉ cs) : doubleBrackets cs = cs := by
    induction cs with
    | nil => rfl
    | cons c cs ih =>
      rw [List.mem_cons, not_or] at h
      rw [doubleBrackets, if_neg (Ne.symm h.1), ih h.2]
  rw [bracketed, same _ none, String.ofList_toList]

theorem Sql.qualifiedName_of_isClassName {schema name : String} (hs : Name.IsClassName schema)
    (hn : Name.IsClassName name) :
    qualifiedName schema name = "[" ++ schema ++ "].[" ++ name ++ "]" := by
  have notEmpty {name : String} (h : Name.IsClassName name) : (name != "") = true := by
    rw [bne_iff_ne]
    rintro rfl
    exact absurd h.1 (by decide)
  have kept : [schema, name].filter (· != "") = [schema, name] := by
    rw [List.filter_eq_self, List.forall_mem_cons, List.forall_mem_singleton]
    exact ⟨notEmpty hs, notEmpty hn⟩
  have dots (s t : String) : ".".intercalate [s, t] = s ++ "." ++ t := rfl
  have between : "].[" = "]" ++ ("." ++ "[") := by decide +kernel
  rw [qualifiedName, kept, List.map_cons, List.map_singleton, dots, bracketed_of_isClassName hs,
    bracketed_of_isClassName hn, between]
  simp only [← String.append_assoc]

/-- A line documents what it stands in: it is a literal that is read as the text. -/
def Render.Documents (lines : List String) (text : String) : Prop :=
  ∃ line ∈ lines, Text.readLiteral? (line.toList.dropWhile (· == ' ')) = some (text.toList, [])

/-- A text in docstring marks, after some blanks. -/
def Render.IsDocLine (line text : String) : Prop :=
  ∃ margin, line.toList = List.replicate margin ' ' ++ (Text.docMark ++ (text.toList ++ Text.docMark))

namespace Render

theorem documents_of_mem {lines : List String} (line : String) {text : String}
    (mem : line ∈ lines) (doc : IsDocLine line text) (verbatim : Text.IsVerbatim text) :
    Documents lines text := by
  obtain ⟨margin, chars⟩ := doc
  refine ⟨line, mem, ?_⟩
  have blanks : line.toList.dropWhile (· == ' ') =
      Text.docMark ++ (text.toList ++ Text.docMark) := by
    rw [chars, List.dropWhile_append_of_pos (fun c mem => by simp [List.eq_of_mem_replicate mem])]
    rfl
  rw [blanks]
  exact Text.readLiteral?_docstring verbatim

theorem IsDocLine.indent {line text : String} (doc : IsDocLine line text) :
    IsDocLine ("    " ++ line) text := by
  obtain ⟨margin, chars⟩ := doc
  have step : "    ".toList = List.replicate 4 ' ' := by decide
  refine ⟨4 + margin, ?_⟩
  rw [String.toList_append, chars, step, List.replicate_add, List.append_assoc]

theorem mem_indentBy {line : String} {lines : List String} (mem : line ∈ lines) (some : line ≠ "") :
    "    " ++ line ∈ indentBy 1 lines := by
  refine List.mem_map.mpr ⟨line, mem, ?_⟩
  rw [if_neg some]
  rfl

end Render

/-- The class of a command is documented by the name under which it executes. -/
theorem Command.docLine_mem {c : Command} (known : c.qualifiedName ≠ "") {lines : List String}
    (rendered : c.render = .ok lines) :
    ∃ line ∈ lines, IsDocLine line ("Execute " ++ c.qualifiedName ++ ".") := by
  obtain ⟨query, _, rfl⟩ := render_eq_ok.mp rendered
  have before : "        \"\"\"Execute ".toList =
      List.replicate 8 ' ' ++ (Text.docMark ++ "Execute ".toList) := by
    decide +kernel
  have after : ".\"\"\"".toList = ".".toList ++ Text.docMark := by decide +kernel
  refine ⟨"        \"\"\"Execute " ++ c.qualifiedName ++ ".\"\"\"", ?_, 8, ?_⟩
  · refine List.mem_append_left _ (List.mem_append_right _ ?_)
    simp [executeHead, known]
  · simp only [String.toList_append, before, after, List.append_assoc]

/-- So is a class in a module, where that of a getter is indented. -/
theorem Bundle.docLine_mem {b : Bundle} {c : Command} (hc : c ∈ b.commands)
    (known : c.qualifiedName ≠ "") {lines : List String} (rendered : b.render = .ok lines) :
    ∃ line ∈ lines, IsDocLine line ("Execute " ++ c.qualifiedName ++ ".") := by
  obtain ⟨procedures, functions, getters, hp, hf, hg, rfl⟩ := render_eq_ok.mp rendered
  have block {commands : List Command} {blocks : List (List String)}
      (made : commands.mapM Command.render = .ok blocks) (hc : c ∈ commands) :
      ∃ lines ∈ blocks, ∃ line ∈ lines, IsDocLine line ("Execute " ++ c.qualifiedName ++ ".") := by
    obtain ⟨lines, mem, rendered⟩ := exists_of_forall₂ (List.Forall₂.flip (mapM_eq_ok.mp made)) hc
    exact ⟨lines, mem, Command.docLine_mem known rendered⟩
  rcases List.mem_append.mp hc with routine | getter
  · rcases List.mem_append.mp routine with procedure | function
    · obtain ⟨lines, mem, line, here, doc⟩ := block hp procedure
      refine ⟨line, ?_, doc⟩
      have within := (infix_titled "Stored Procedures" mem).subset here
      exact List.mem_append_left _ (List.mem_append_left _ (List.mem_append_right _ within))
    · obtain ⟨lines, mem, line, here, doc⟩ := block hf function
      refine ⟨line, ?_, doc⟩
      have within := (infix_titled "User Defined Functions" mem).subset here
      exact List.mem_append_left _ (List.mem_append_right _ within)
  · obtain ⟨lines, mem, line, here, doc⟩ := block hg getter
    refine ⟨"    " ++ line, List.mem_append_right _ ?_, doc.indent⟩
    have some : line ≠ "" := by
      rintro rfl
      obtain ⟨margin, chars⟩ := doc
      have lengths := congrArg List.length chars
      simp [Text.docMark] at lengths
    unfold getterSection
    rw [if_neg (by simpa using List.ne_nil_of_mem mem)]
    refine List.mem_append_right _ (List.mem_flatMap.mpr ⟨lines, mem, ?_⟩)
    exact List.mem_cons_of_mem _ (mem_indentBy here some)

/-- The names of schemas stand soundly where generated text has them. -/
structure Bundle.EmbedsSafely (b : Bundle) (lines : List String) : Prop where
  names : ∀ s ∈ b.schema :: b.foreignSchemas, Name.IsClassName s
  fileName : Files.IsFileName (b.schema ++ ".py")
  imports : ∀ line ∈ lines, isRelativeImport line = true → IsImport line
  /-- The docstring of the module, below the first line. -/
  docstring : Documents (lines.take 2) ("Bindings for the " ++ b.schema ++ " schema.")
  docstrings : ∀ c ∈ b.commands, Documents lines ("Execute [" ++ b.schema ++ "].[" ++ c.name ++ "].")

namespace Introspection

open Run

namespace Objects.MadeFrom

variable {l : Listing} {o : Objects} {b : Bundle} {lines : List String}

theorem docstring (rendered : b.render = .ok lines) (valid : Name.IsClassName b.schema) :
    Documents (lines.take 2) ("Bindings for the " ++ b.schema ++ " schema.") := by
  obtain ⟨procedures, functions, getters, _, _, _, rfl⟩ := Bundle.render_eq_ok.mp rendered
  have before : "\"\"\"Bindings for the ".toList = Text.docMark ++ "Bindings for the ".toList := by
    decide +kernel
  have after : " schema.\"\"\"".toList = " schema.".toList ++ Text.docMark := by decide +kernel
  refine documents_of_mem ("\"\"\"Bindings for the " ++ b.schema ++ " schema.\"\"\"")
    ?_ ⟨0, ?_⟩ ?_
  · exact List.mem_cons_of_mem _ List.mem_cons_self
  · simp only [String.toList_append, before, after, List.append_assoc, List.replicate_zero,
      List.nil_append]
  · exact .append (.append (by decide) (Name.isVerbatim_of_isClassName valid)) (by decide)

theorem docstrings (h : o.MadeFrom l) (hb : b ∈ o.bundles) (rendered : b.render = .ok lines)
    (valid : Name.IsClassName b.schema) {c : Command} (hc : c ∈ b.commands) :
    Documents lines ("Execute [" ++ b.schema ++ "].[" ++ c.name ++ "].") := by
  obtain ⟨made, own⟩ := (Bundle.mem_commands hb).mp hc
  have className := ((h.named b hb).2 c hc).className
  have qualified : c.qualifiedName = "[" ++ b.schema ++ "].[" ++ c.name ++ "]" := by
    rw [h.qualifiedName c made, own, Sql.qualifiedName_of_isClassName valid className]
  have known : c.qualifiedName ≠ "" := by
    rw [qualified]
    exact fun empty => absurd (String.append_eq_empty_iff.mp empty).2 (by decide)
  obtain ⟨line, mem, doc⟩ := Bundle.docLine_mem hc known rendered
  have text : "Execute " ++ c.qualifiedName ++ "." =
      "Execute [" ++ b.schema ++ "].[" ++ c.name ++ "]." := by
    have opens : "Execute [" = "Execute " ++ "[" := by decide +kernel
    have closes : "]." = "]" ++ "." := by decide +kernel
    rw [qualified, opens, closes]
    simp only [← String.append_assoc]
  rw [text] at doc
  refine documents_of_mem line mem doc ?_
  have schema := Name.isVerbatim_of_isClassName valid
  have name := Name.isVerbatim_of_isClassName className
  exact .append (.append (.append (.append (by decide) schema) (by decide)) name) (by decide)

/-- The checks that names of objects go through would make the names of schemas safe. -/
theorem embedsSafely_iff (h : o.MadeFrom l) (hb : b ∈ o.bundles) (rendered : b.render = .ok lines) :
    b.EmbedsSafely lines ↔ ∀ s ∈ b.schema :: l.foreignSchemas b.schema, Name.IsClassName s := by
  have same : (∀ s ∈ b.foreignSchemas, Name.IsClassName s) ↔
      ∀ s ∈ l.foreignSchemas b.schema, Name.IsClassName s :=
    forall_congr' fun s => imp_congr_left (h.mem_foreignSchemas hb)
  rw [List.forall_mem_cons, ← same, ← List.forall_mem_cons]
  refine ⟨Bundle.EmbedsSafely.names, fun valid => ?_⟩
  obtain ⟨own, foreign⟩ := List.forall_mem_cons.mp valid
  refine ⟨valid, ?_, ?_, docstring rendered own, fun c => h.docstrings hb rendered own⟩
  · exact Files.isFileName_module_iff.mpr (not_mem_of_isIdentifier own.1 (by decide) (by decide))
  · intro line mem relative
    have imported : line ∈ lines.filter isRelativeImport := List.mem_filter.mpr ⟨mem, relative⟩
    rw [Bundle.imports_of_render rendered] at imported
    obtain ⟨s, reached, rfl⟩ := List.mem_map.mp imported
    exact isImport_importLine_iff.mpr (foreign s reached)

end Objects.MadeFrom

section

variable {σ : Type} {source : Source σ} {state : σ} {bundles : List Bundle} {t : Traced σ}

/-- Whatever a catalog answers, the names of schemas stand soundly in the file of a schema exactly if
its own name and the names of the schemas that it imports could be names of classes. -/
theorem introspect_embedsSafely_iff (run : (introspect source).start state = (.ok bundles, t)) :
    ∃ (l : Listing) (files : List Package.File), l.ReadFrom source ∧
      Package.ofBundles bundles = .ok files ∧
      ∀ b ∈ bundles, ∃ lines, b.render = .ok lines ∧
        (b.schema ++ ".py", Package.fileText lines) ∈ files ∧
        (b.EmbedsSafely lines ↔
          ∀ s ∈ b.schema :: l.foreignSchemas b.schema, Name.IsClassName s) := by
  rw [Run.start_eq_ending] at run
  obtain ⟨l, o, read, made, rfl⟩ := introspect_ok run
  obtain ⟨files, package⟩ := Package.exists_ofBundles_ok made.isCallable
  refine ⟨l, files, read, package, fun b hb => ?_⟩
  obtain ⟨lines, rendered⟩ := Bundle.exists_render_ok (made.isCallable b hb)
  exact ⟨lines, rendered, Package.mem_ofBundles package made.accounted.nodup hb rendered,
    made.embedsSafely_iff hb rendered⟩

end

theorem introspect_embedsSafely_iff_shop : ∃ bundles t files,
    (introspect Memory.shop.source).start [] = (.ok bundles, t) ∧
      Package.ofBundles bundles = .ok files ∧
      ∀ b ∈ bundles, ∃ lines, b.render = .ok lines ∧
        (b.schema ++ ".py", Package.fileText lines) ∈ files ∧ b.EmbedsSafely lines := by
  obtain ⟨t, run⟩ := Memory.exists_shop_run
  obtain ⟨l, files, read, package, modules⟩ := introspect_embedsSafely_iff run
  obtain rfl := eq_listing_of_readFrom read
  have valid : ∀ schema ∈ ["sales", "dbo"], ∀ s ∈ schema :: Memory.shop.listing.foreignSchemas schema,
      Name.IsClassName s := by
    unfold Name.IsClassName
    decide +kernel
  refine ⟨_, t, files, run, package, fun b hb => ?_⟩
  obtain ⟨lines, rendered, file, safe⟩ := modules b hb
  exact ⟨lines, rendered, file, safe.mpr (valid _ (schema_of_shop hb))⟩

/-- A catalog in which a procedure takes a table of a schema whose name is no identifier. -/
def hyphenCatalog : Memory where
  tableTypes := [⟨"my-app", "ids", [⟨"id", "int", false, 1⟩]⟩]
  functions := []
  procedures := [⟨"dbo", "Touch", [⟨"@keys", "ids", true, some "my-app", none, 1⟩]⟩]
  tables := []
  results := []

def hyphenCommand : Command :=
  ⟨"dbo", "Touch", "[dbo].[Touch]", [⟨"keys", .table "ids" (some "my-app"), false, "@keys"⟩],
    .nothing, .storedProcedure⟩

def hyphenObjects : Objects :=
  ⟨[⟨"my-app", "ids", [⟨"id", .plain .int32, false, "@id"⟩]⟩], [], [hyphenCommand], []⟩

theorem hyphenCatalog_objects : hyphenCatalog.objects = .ok hyphenObjects := by
  have kept : hyphenCatalog.procedures.filter isRelevantProcedure = hyphenCatalog.procedures := by
    decide +kernel
  rw [Memory.objects, kept]
  rfl

/-- It is imported all the same, by a line that is none. -/
theorem introspect_embeds : ∃ bundles t,
    (introspect hyphenCatalog.source).start [] = (.ok bundles, t) ∧
      ∃ b ∈ bundles, ∃ lines, b.render = .ok lines ∧ importLine "my-app" ∈ lines ∧
        ¬ IsImport (importLine "my-app") ∧ ¬ b.EmbedsSafely lines := by
  have made := Memory.objects_madeFrom hyphenCatalog_objects
  obtain ⟨t, run, _⟩ := hyphenCatalog.exists_introspect_start
  rw [hyphenCatalog_objects] at run
  obtain ⟨b, hb, mem⟩ : ∃ b ∈ hyphenObjects.bundles, hyphenCommand ∈ b.commands :=
    Bundle.exists_mem_commands (by simp [hyphenObjects])
  have own : hyphenCommand.schema = b.schema := ((Bundle.mem_commands hb).mp mem).2
  obtain ⟨lines, rendered⟩ := Bundle.exists_render_ok (made.isCallable b hb)
  have foreign : "my-app" ∈ b.foreignSchemas :=
    Bundle.mem_foreignSchemas.mpr
      ⟨hyphenCommand, mem, _, List.head_mem (List.cons_ne_nil _ _), own ▸ by decide⟩
  have noName : ¬ Name.IsClassName "my-app" := fun valid => absurd valid.1 (by decide)
  refine ⟨_, t, run, b, hb, lines, rendered, (Bundle.importLine_mem_iff rendered).mpr foreign,
    mt isImport_importLine_iff.mp noName, fun safe => ?_⟩
  exact noName (safe.names _ (List.mem_cons_of_mem _ foreign))

end Introspection

end SqlBindings
