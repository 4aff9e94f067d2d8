import StructSchema.Proofs.Accounting
import StructSchema.Proofs.Headers
import StructSchema.Proofs.PlainFields
import StructSchema.Proofs.TextsApart

/-!
# The names of a schema file

A schema file declares a class, a type and a constant, and imports what it uses. Both can be read
off its lines: a declaration or an import begins with its keyword, and no line of a member, of a
class option or of the description does, `isSilent_of_front`. So a file declares the name of the
class and the two names made from it, `declaredNames_file`, and imports the same five names as any
other, `importedNames_file`.

A class name that is accepted without a warning is none of the imported names, but a name made from
it may be one: `names_of_accepted` says for which class that is so.
-/

namespace StructSchema

open Text

/-! ## Identifiers -/

namespace PropertyKey

variable {text : List Char} {c : Char}

theorem isInside_of_isStart (h : isStart c) : isInside c := by
  unfold isStart at h
  unfold isInside Char.isAlphanum
  rw [Bool.or_eq_true, Bool.or_eq_true] at h
  rcases h with (h | h) | h
  · simp [h]
  · simp [h]
  · simp [h]

/-- An identifier is made of its characters, but for a line feed at the end. -/
theorem isInside_of_isIdentifier (h : isIdentifier text) :
    ∀ c ∈ dropFinalLineFeed text, isInside c := by
  unfold isIdentifier at h
  split at h
  · cases h
  · rename_i first rest hdrop
    rw [Bool.and_eq_true, List.all_eq_true] at h
    rw [hdrop]
    exact List.forall_mem_cons.2 ⟨isInside_of_isStart h.1, h.2⟩

/-- The characters of an identifier are followed by another one in front of a colon, and this is no
space. -/
theorem exists_front_of_isIdentifier (h : isIdentifier text) (rest : List Char) :
    ∃ front c more, text ++ ':' :: rest = front ++ c :: more ∧ (∀ d ∈ front, isInside d) ∧
      isInside c = false ∧ c ≠ ' ' := by
  have hinside := isInside_of_isIdentifier h
  rcases dropFinalLineFeed_cases text with htext | htext
  · exact ⟨text, ':', rest, rfl, htext ▸ hinside, rfl, by decide⟩
  · refine ⟨dropFinalLineFeed text, '\n', ':' :: rest, ?_, hinside, rfl, by decide⟩
    conv_lhs => rw [htext]
    exact List.append_assoc _ _ _

/-- So are the characters of an identifier in front of a property key. -/
theorem exists_front_ofName (name : String) (rest : List Char) :
    ∃ front c more, (ofName name).toList ++ ':' :: rest = front ++ c :: more ∧
      (∀ d ∈ front, isInside d) ∧ isInside c = false ∧ c ≠ ' ' := by
  unfold ofName ofNameList
  rw [String.toList_ofList]
  split
  · rename_i h
    exact exists_front_of_isIdentifier h rest
  · exact ⟨[], '\'', _, rfl, by simp, rfl, by decide⟩

theorem space_notMem_of_isIdentifier (h : isIdentifier text) : ' ' ∉ text := by
  have hinside : ' ' ∉ dropFinalLineFeed text := fun hc =>
    absurd (isInside_of_isIdentifier h ' ' hc) (by decide)
  rcases dropFinalLineFeed_cases text with htext | htext
  · exact htext ▸ hinside
  · rw [htext, List.mem_append, not_or]
    exact ⟨hinside, by decide⟩

end PropertyKey

namespace SchemaFile

/-! ## Reading names -/

/-- The name up to a space behind a keyword at the start of a line. -/
def nameAfter? (line keyword : String) : Option String :=
  (dropWord? keyword.toList line.toList).map fun rest => String.ofList (rest.takeWhile (· != ' '))

/-- The keywords in front of the name of a class, of a type and of a constant. -/
def declaringWords : List String := ["class ", "export type ", "const "]

/-- The name that a line declares for the whole file. -/
def declaredName? (line : String) : Option String := declaringWords.findSome? (nameAfter? line)

/-- The names that a line imports: the words in front of `from`, but for `as`. -/
def importedBy (line : String) : List String :=
  match dropWord? "import ".toList line.toList with
  | none => []
  | some rest =>
    (((cutWhere (!PropertyKey.isInside ·) rest).map String.ofList).takeWhile (· != "from")).filter
      fun word => word != "" && word != "as"

/-- The names that every schema file imports. -/
def imports : List String := ["Prop", "Schema", "SchemaFactory", "mongoose", "HydratedDocument"]

/-- The names that a file declares. -/
def declaredNames (file : SchemaFile) : List String := file.lines.filterMap declaredName?

/-- The names that a file imports. -/
def importedNames (file : SchemaFile) : List String := file.lines.flatMap importedBy

/-- A line declares and imports nothing. -/
structure IsSilent (line : String) : Prop where
  declaredName?_eq : declaredName? line = none
  importedBy_eq : importedBy line = []

instance (line : String) : Decidable (IsSilent line) :=
  decidable_of_iff (declaredName? line = none ∧ importedBy line = [])
    ⟨fun h => ⟨h.1, h.2⟩, fun h => ⟨h.1, h.2⟩⟩

variable {line indent : String}

theorem isSilent_of_dropWord?
    (h : ∀ keyword ∈ "import " :: declaringWords, dropWord? keyword.toList line.toList = none) :
    IsSilent line := by
  rw [List.forall_mem_cons] at h
  constructor
  · refine List.findSome?_eq_none_iff.2 fun keyword hk => ?_
    rw [nameAfter?, h.2 keyword hk]
    rfl
  · rw [importedBy, h.1]

/-- A line whose word at the start does not end in a space is silent, and so is one that begins with
a space. -/
theorem isSilent_of_front {front rest : List Char} {c : Char}
    (hline : line.toList = front ++ c :: rest) (hfront : ∀ d ∈ front, PropertyKey.isInside d)
    (hc : PropertyKey.isInside c = false) (hspace : c = ' ' → front = []) : IsSilent line := by
  have hkeywords : ∀ keyword ∈ "import " :: declaringWords, ∃ word more,
      keyword.toList = word ++ ' ' :: more ∧ word ≠ [] ∧ word.all PropertyKey.isInside := by
    intro keyword hk
    simp only [declaringWords, List.mem_cons, List.not_mem_nil, or_false] at hk
    rcases hk with rfl | rfl | rfl | rfl
    · exact ⟨"import".toList, [], rfl, by decide, by decide⟩
    · exact ⟨"class".toList, [], rfl, by decide, by decide⟩
    · exact ⟨"export".toList, "type ".toList, rfl, by decide, by decide⟩
    · exact ⟨"const".toList, [], rfl, by decide, by decide⟩
  refine isSilent_of_dropWord? fun keyword hk => ?_
  obtain ⟨word, more, hkeyword, hne, hword⟩ := hkeywords keyword hk
  rw [Option.eq_none_iff_forall_ne_some]
  intro after hafter
  have htext := dropWord?_eq_some_iff.1 hafter
  rw [hline, hkeyword, List.append_assoc, List.cons_append] at htext
  have hblank : ∀ d ∈ (' ' :: (more ++ after)).head?, PropertyKey.isInside d = false := by
    intro d hd
    obtain rfl := Option.some.inj hd
    decide
  obtain ⟨hsame, hrest⟩ := append_inj_of_head? hfront (List.all_eq_true.1 hword)
    (by simpa using hc) hblank htext
  exact hne (hsame ▸ hspace (List.cons.inj hrest).1)

theorem isSilent_of_head? {c : Char} (h : line.toList.head? = some c)
    (hc : PropertyKey.isInside c = false) : IsSilent line := by
  obtain ⟨rest, hrest⟩ := List.head?_eq_some_iff.1 h
  have hline : line.toList = [] ++ c :: rest := hrest
  exact isSilent_of_front hline (by simp) hc fun _ => rfl

/-- An indentation leaves a silent line silent. -/
theorem IsSilent.indented (h : IsSilent line) (hindent : ∀ c ∈ indent.toList, c = ' ') :
    IsSilent (indent ++ line) := by
  cases hchars : indent.toList with
  | nil =>
    obtain rfl : indent = "" := String.toList_inj.1 hchars
    rwa [String.empty_append]
  | cons c rest =>
    obtain rfl : c = ' ' := hindent c (by simp [hchars])
    exact isSilent_of_head? (c := ' ') (by simp [hchars]) (by decide)

theorem isSilent_key {key : String} (h : key.toList.all PropertyKey.isInside) (rest : String) :
    IsSilent (key ++ (": " ++ rest)) := by
  have hline : (key ++ (": " ++ rest)).toList = key.toList ++ ':' :: (' ' :: rest.toList) := by
    simp
  exact isSilent_of_front hline (List.all_eq_true.1 h) (by decide) fun hc => absurd hc (by decide)

theorem isSilent_ofName (name rest : String) :
    IsSilent (PropertyKey.ofName name ++ (": " ++ rest)) := by
  obtain ⟨front, c, more, htext, hfront, hc, hspace⟩ :=
    PropertyKey.exists_front_ofName name (' ' :: rest.toList)
  exact isSilent_of_front (by simpa using htext) hfront hc fun h => absurd h hspace

/-- A description that does not begin with white space is silent. -/
theorem isSilent_comment {text : String} {c : Char} (h : text.toList.head? = some c)
    (hc : isBlank c = false) : IsSilent (comment "//" text) := by
  obtain ⟨rest, hrest⟩ := List.head?_eq_some_iff.1 h
  obtain ⟨piece, pieces, hcut⟩ := exists_cut_eq List.not_mem_nil (ne_lineFeed_of_isBlank hc) rest
  rw [List.nil_append] at hcut
  have hink : isAllBlank (c :: piece) = false := by simp [isAllBlank, hc]
  refine isSilent_of_head? (c := '/') ?_ (by decide)
  unfold comment
  rw [String.toList_ofList, hrest, hcut, List.map_cons, if_neg (by simp [hink])]
  cases pieces with
  | nil => rfl
  | cons next pieces => rfl

/-! ## The lines of a file -/

variable {commented : Bool} {options : SchemaOptions} {model : SchemaModel}

theorem isSilent_of_mem_optionLines (hindent : ∀ c ∈ indent.toList, c = ' ')
    {option : String × ClassOption String}
    (hoption : option ∈ (Nest.file commented options indent model).options)
    (hl : line ∈ optionLines indent option) : IsSilent line := by
  obtain ⟨⟨key, value⟩, hmem, rfl⟩ := List.mem_map.1 hoption
  have hplain : ∀ {key : String}, key.toList.all PropertyKey.isInside → ∀ text,
      IsSilent (indent ++ key ++ ": " ++ text ++ ",") := by
    intro key hkey text
    rw [String.append_assoc, String.append_assoc, String.append_assoc]
    exact (isSilent_key hkey _).indented hindent
  have hgroup : ∀ {key : String}, key.toList.all PropertyKey.isInside → ∀ text,
      IsSilent (indent ++ indent ++ key ++ ": " ++ text ++ ",") := by
    intro key hkey text
    have h := (hplain hkey text).indented hindent
    simp only [String.append_assoc] at h ⊢
    exact h
  have hserialization : ∀ {key : String}, key.toList.all PropertyKey.isInside →
      ∀ l ∈ optionLines indent (key, (ClassOption.group options.serialization).map
        Value.expression), IsSilent l := by
    intro key hkey l hl
    simp only [SchemaOptions.serialization, ClassOption.map, optionLines, List.map_cons,
      List.map_nil, List.cons_append, List.nil_append, List.mem_cons, List.not_mem_nil,
      or_false] at hl
    rcases hl with rfl | rfl | rfl | rfl
    · rw [String.append_assoc]
      exact (isSilent_key hkey "\x7b").indented hindent
    · exact hgroup (by decide) _
    · exact hgroup (by decide) _
    · exact IsSilent.indented (by decide) hindent
  simp only [SchemaOptions.classOptions, List.mem_cons, List.not_mem_nil, or_false,
    Prod.mk.injEq] at hmem
  rcases hmem with ⟨rfl, rfl⟩ | ⟨rfl, rfl⟩ | ⟨rfl, rfl⟩ | ⟨rfl, rfl⟩
  · obtain rfl := List.mem_singleton.1 hl
    exact hplain (by decide) _
  · obtain rfl := List.mem_singleton.1 hl
    exact hplain (by decide) _
  · exact hserialization (by decide) line hl
  · exact hserialization (by decide) line hl

theorem isSilent_of_mem_propertyLines (hindent : ∀ c ∈ indent.toList, c = ' ')
    {property : SchemaProperty}
    (hproperty : property ∈ (Nest.file commented options indent model).properties)
    (hl : line ∈ propertyLines indent property) : IsSilent line := by
  obtain ⟨field, -, rfl⟩ := List.mem_map.1 hproperty
  unfold propertyLines at hl
  simp only [List.mem_append, List.mem_map, List.mem_cons, List.not_mem_nil, or_false] at hl
  rcases hl with ⟨text, -, rfl⟩ | rfl | rfl
  · rw [String.append_assoc]
    have h : IsSilent ("// " ++ text) :=
      isSilent_of_head? (c := '/') (by simp) (by decide)
    exact h.indented hindent
  · rw [String.append_assoc, String.append_assoc]
    have h : ∀ rest, IsSilent ("@Prop(" ++ rest) := fun rest =>
      isSilent_of_head? (c := '@') (by simp) (by decide)
    exact (h _).indented hindent
  · rw [String.append_assoc, String.append_assoc, String.append_assoc]
    exact (isSilent_ofName _ _).indented hindent

/-! ## The lines that declare a name -/

/-- A name up to a space behind a keyword is declared, and nothing is imported. -/
theorem declaredName?_append {keyword name : String} (hk : keyword ∈ declaringWords)
    (hname : ' ' ∉ name.toList) (rest : String) :
    declaredName? (keyword ++ (name ++ (" " ++ rest))) = some name ∧
      importedBy (keyword ++ (name ++ (" " ++ rest))) = [] := by
  have hstop : ∀ c ∈ (' ' :: rest.toList).head?, (c != ' ') = false := by
    intro c hc
    obtain rfl := Option.some.inj hc
    rfl
  have hrun : ∀ c ∈ name.toList, (c != ' ') = true :=
    fun c hc => bne_iff_ne.2 (ne_of_mem_of_not_mem hc hname)
  have hrest : (name ++ (" " ++ rest)).toList = name.toList ++ ' ' :: rest.toList := by simp
  have hown : nameAfter? (keyword ++ (name ++ (" " ++ rest))) keyword = some name := by
    unfold nameAfter?
    rw [String.toList_append, dropWord?_append, Option.map_some, hrest,
      Token.takeWhile_append_of_head? hrun hstop, String.ofList_toList]
  have hother : ∀ other : String, (∀ rest, dropWord? other.toList (keyword.toList ++ rest) = none) →
      nameAfter? (keyword ++ (name ++ (" " ++ rest))) other = none := by
    intro other h
    unfold nameAfter?
    rw [String.toList_append, h, Option.map_none]
  have himport : (∀ rest, dropWord? "import ".toList (keyword.toList ++ rest) = none) →
      importedBy (keyword ++ (name ++ (" " ++ rest))) = [] := by
    intro h
    unfold importedBy
    rw [String.toList_append, h]
  unfold declaredName?
  simp only [declaringWords, List.mem_cons, List.not_mem_nil, or_false] at hk ⊢
  rcases hk with rfl | rfl | rfl
  · exact ⟨by rw [List.findSome?_cons, hown], himport fun _ => rfl⟩
  · exact ⟨by rw [List.findSome?_cons, hother "class " fun _ => rfl, List.findSome?_cons, hown],
      himport fun _ => rfl⟩
  · exact ⟨by rw [List.findSome?_cons, hother "class " fun _ => rfl, List.findSome?_cons,
      hother "export type " fun _ => rfl, List.findSome?_cons, hown], himport fun _ => rfl⟩

theorem read_of_isSilent {lines : List String} (h : ∀ line ∈ lines, IsSilent line) :
    lines.filterMap declaredName? = [] ∧ lines.flatMap importedBy = [] :=
  ⟨List.filterMap_eq_nil_iff.2 fun line hl => (h line hl).declaredName?_eq,
    List.flatMap_eq_nil_iff.2 fun line hl => (h line hl).importedBy_eq⟩

/-- Behind the properties the type and the constant are declared. -/
theorem names_closing {name : String} (hname : ' ' ∉ name.toList) :
    (closing name).filterMap declaredName? = [name ++ "Document", name ++ "Schema"] ∧
      (closing name).flatMap importedBy = [] := by
  have hsuffix : ∀ suffix : String, ' ' ∉ suffix.toList → ' ' ∉ (name ++ suffix).toList := by
    intro suffix hs hc
    rw [String.toList_append, List.mem_append] at hc
    exact hc.elim hname hs
  have htypeWord : "export type " ∈ declaringWords := by decide
  obtain ⟨htype, htypeImports⟩ := declaredName?_append htypeWord
    (hsuffix "Document" (by decide)) ("= HydratedDocument<" ++ name ++ ">;")
  have hconstWord : "const " ∈ declaringWords := by decide
  obtain ⟨hconst, hconstImports⟩ := declaredName?_append hconstWord
    (hsuffix "Schema" (by decide)) ("= SchemaFactory.createForClass(" ++ name ++ ");")
  have hexport : IsSilent ("export \x7b " ++ (name ++ "Schema, " ++ name ++ " \x7d;")) := by
    refine isSilent_of_dropWord? fun keyword hk => ?_
    rw [String.toList_append]
    simp only [declaringWords, List.mem_cons, List.not_mem_nil, or_false] at hk
    rcases hk with rfl | rfl | rfl | rfl
    · rfl
    · rfl
    · rfl
    · rfl
  have hbrace : IsSilent "\x7d" := by decide
  have hempty : IsSilent "" := by decide
  have hlines : closing name = ["\x7d", "",
      "export type " ++ (name ++ "Document" ++ (" " ++ ("= HydratedDocument<" ++ name ++ ">;"))),
      "",
      "const " ++ (name ++ "Schema" ++
        (" " ++ ("= SchemaFactory.createForClass(" ++ name ++ ");"))), "",
      "export \x7b " ++ (name ++ "Schema, " ++ name ++ " \x7d;")] := by
    have hdocument : "Document = HydratedDocument<" =
        "Document" ++ (" " ++ "= HydratedDocument<") := rfl
    have hschema : "Schema = SchemaFactory.createForClass(" =
        "Schema" ++ (" " ++ "= SchemaFactory.createForClass(") := rfl
    unfold closing
    rw [hdocument, hschema]
    simp only [String.append_assoc]
  rw [hlines]
  constructor
  · simp only [List.filterMap_cons, List.filterMap_nil, htype, hconst,
      hexport.declaredName?_eq, hbrace.declaredName?_eq, hempty.declaredName?_eq]
  · simp only [List.flatMap_cons, List.flatMap_nil, htypeImports, hconstImports,
      hexport.importedBy_eq, hbrace.importedBy_eq, hempty.importedBy_eq, List.append_nil]

/-- A schema file declares the name of its class and the two made from it, and imports what every
schema file imports. -/
theorem names_file (commented : Bool) (options : SchemaOptions)
    (hindent : ∀ c ∈ indent.toList, c = ' ') (hname : ' ' ∉ model.structName.toList) :
    (Nest.file commented options indent model).declaredNames =
        [model.structName, model.structName ++ "Document", model.structName ++ "Schema"] ∧
      (Nest.file commented options indent model).importedNames = imports := by
  let file := Nest.file commented options indent model
  let quiet := [""] ++ file.description.toList.map (comment "//") ++ ["@Schema(\x7b"]
    ++ file.options.flatMap (optionLines indent) ++ ["\x7d)"]
  let members := [""].intercalate (file.properties.map (propertyLines indent))
  have hquiet : ∀ line ∈ quiet, IsSilent line := by
    intro line hl
    simp only [quiet, List.mem_append, List.mem_singleton, List.mem_map, List.mem_flatMap,
      Option.mem_toList] at hl
    rcases hl with (((rfl | ⟨text, htext, rfl⟩) | rfl) | ⟨option, hoption, hl⟩) | rfl
    · decide
    · simp only [file, Nest.file] at htext
      split at htext
      · obtain rfl := Option.some.inj htext
        exact isSilent_comment (c := 'G') (by simp) (by decide)
      · cases htext
    · decide
    · exact isSilent_of_mem_optionLines hindent hoption hl
    · decide
  have hmembers : ∀ line ∈ members, IsSilent line := by
    refine forall_mem_intercalate (by decide) fun group hg line hl => ?_
    obtain ⟨property, hproperty, rfl⟩ := List.mem_map.1 hg
    exact isSilent_of_mem_propertyLines hindent hproperty hl
  have hlines : file.lines = importLines ++ (quiet ++ (["class " ++ model.structName ++ " \x7b"] ++
      (members ++ closing model.structName))) := by
    rw [lines_eq]
    simp only [opening, quiet, members, List.append_assoc, List.cons_append, List.nil_append]
    rfl
  have hclassWord : "class " ∈ declaringWords := by decide
  obtain ⟨hclass, hclassImports⟩ := declaredName?_append hclassWord hname "\x7b"
  obtain ⟨hquietNames, hquietImports⟩ := read_of_isSilent hquiet
  obtain ⟨hmemberNames, hmemberImports⟩ := read_of_isSilent hmembers
  obtain ⟨hlastNames, hlastImports⟩ := names_closing hname
  have hopen : "class " ++ model.structName ++ " \x7b" =
      "class " ++ (model.structName ++ (" " ++ "\x7b")) := String.append_assoc ..
  show file.lines.filterMap declaredName? = _ ∧ file.lines.flatMap importedBy = _
  rw [hlines, hopen]
  constructor
  · have himport : importLines.filterMap declaredName? = [] := by decide
    simp only [List.filterMap_append, List.filterMap_cons, himport,
      hquietNames, hclass, hmemberNames, hlastNames, List.nil_append, List.cons_append]
  · have himport : importLines.flatMap importedBy = imports := by decide
    simp only [List.flatMap_append, List.flatMap_cons, List.flatMap_nil, himport,
      hquietImports, hclassImports, hmemberImports, hlastImports, List.append_nil]

/-! ## Accepted names -/

variable {name suffix : String}

theorem mem_imports_of_append (h : name ++ suffix ∈ imports) :
    name ++ suffix ∈ imports.filter (suffix.toList.isSuffixOf ·.toList) := by
  rw [List.mem_filter, List.isSuffixOf_iff_suffix, String.toList_append]
  exact ⟨h, List.suffix_append _ _⟩

/-- One import is the name of a document. -/
theorem append_document_mem_imports_iff :
    name ++ "Document" ∈ imports ↔ name = "Hydrated" := by
  constructor
  · intro h
    have hfound := mem_imports_of_append h
    have hdocuments :
        imports.filter ("Document".toList.isSuffixOf ·.toList) = ["Hydrated" ++ "Document"] := by
      decide
    rw [hdocuments, List.mem_singleton] at hfound
    exact (String.append_left_inj "Document").1 hfound
  · rintro rfl
    decide

/-- One import is the name of a schema. -/
theorem append_schema_mem_imports_iff : name ++ "Schema" ∈ imports ↔ name = "" := by
  constructor
  · intro h
    have hfound := mem_imports_of_append h
    have hschemas : imports.filter ("Schema".toList.isSuffixOf ·.toList) = ["" ++ "Schema"] := by
      decide
    rw [hschemas, List.mem_singleton] at hfound
    exact (String.append_left_inj "Schema").1 hfound
  · rintro rfl
    decide

theorem nodup_names (name : String) : [name, name ++ "Document", name ++ "Schema"].Nodup := by
  have hsuffix : ∀ suffix ≠ "", name ≠ name ++ suffix := fun suffix hne h =>
    hne (String.append_eq_left_iff.1 h.symm)
  have hother : name ++ "Document" ≠ name ++ "Schema" := fun h =>
    absurd ((String.append_right_inj name).1 h) (by decide)
  simp [hsuffix, hother]

/-- A name is accepted if it is an identifier and no name that schema files use. -/
theorem warnings_eq_nil_iff : ClassName.warnings name = [] ↔
    PropertyKey.isIdentifier name.toList ∧ name ∉ ClassName.used := by
  unfold ClassName.warnings
  rw [List.append_eq_nil_iff]
  simp

/-- The file of a class whose name is accepted declares three different names. An imported one is
among them for the class `Hydrated` alone, whose document is named like the type of documents. -/
theorem names_of_accepted {settings : Settings}
    (hindent : Nest.indentation settings.indentSize = .ok indent) (options : SchemaOptions)
    (hname : ClassName.warnings model.structName = []) :
    let file := Nest.file settings.addComments.isTruthy options indent model
    Nest.emit settings options Nest.Templates.own model = .ok file.text ∧
      file.declaredNames =
        [model.structName, model.structName ++ "Document", model.structName ++ "Schema"] ∧
      file.declaredNames.Nodup ∧
      file.importedNames = ["Prop", "Schema", "SchemaFactory", "mongoose", "HydratedDocument"] ∧
      (file.declaredNames.Disjoint file.importedNames ↔ model.structName ≠ "Hydrated") := by
  intro file
  obtain ⟨hidentifier, hunused⟩ := warnings_eq_nil_iff.1 hname
  obtain ⟨hdeclared, himported⟩ := names_file settings.addComments.isTruthy options
    (Nest.eq_space_of_mem_indentation hindent)
    (PropertyKey.space_notMem_of_isIdentifier hidentifier)
  have hne : model.structName ≠ "" := by
    rintro h
    rw [h] at hidentifier
    exact absurd hidentifier (by decide)
  have himports : ∀ name ∈ imports, name ∈ ClassName.used := by decide
  refine ⟨Nest.emit_own hindent options model, hdeclared, ?_, himported, ?_⟩
  · rw [hdeclared]
    exact nodup_names _
  · rw [hdeclared, himported, List.disjoint_cons_left, List.disjoint_cons_left,
      List.disjoint_cons_left, append_document_mem_imports_iff, append_schema_mem_imports_iff]
    constructor
    · exact fun h => h.2.1
    · exact fun h => ⟨fun hm => hunused (himports _ hm), h, hne, List.disjoint_nil_left _⟩

theorem names_of_accepted_user :
    let settings : Settings := {}
    let model : SchemaModel := ⟨"User", []⟩
    let file := Nest.file settings.addComments.isTruthy {} "  " model
    Nest.indentation settings.indentSize = .ok "  " ∧ ClassName.warnings model.structName = [] ∧
      Nest.emit settings {} Nest.Templates.own model = .ok file.text ∧
      file.declaredNames = ["User", "UserDocument", "UserSchema"] ∧
      file.declaredNames.Disjoint file.importedNames := by
  intro settings model file
  have hindent : Nest.indentation settings.indentSize = .ok "  " := by decide
  have hname : ClassName.warnings model.structName = [] := by decide
  obtain ⟨hemit, hdeclared, -, -, hdisjoint⟩ := names_of_accepted hindent {} hname
  have hother : model.structName ≠ "Hydrated" := by decide
  exact ⟨hindent, hname, hemit, hdeclared, hdisjoint.2 hother⟩

/-- The class `Hydrated` is accepted, and its file declares a name that it imports. -/
theorem hydrated_declares_imported_name :
    let settings : Settings := {}
    let model : SchemaModel := ⟨"Hydrated", []⟩
    let file := Nest.file settings.addComments.isTruthy {} "  " model
    ClassName.warnings model.structName = [] ∧
      Nest.emit settings {} Nest.Templates.own model = .ok file.text ∧
      "HydratedDocument" ∈ file.declaredNames ∧ "HydratedDocument" ∈ file.importedNames := by
  intro settings model file
  have hindent : Nest.indentation settings.indentSize = .ok "  " := by decide
  have hclass : ' ' ∉ model.structName.toList := by decide
  obtain ⟨hdeclared, himported⟩ := names_file settings.addComments.isTruthy {}
    (Nest.eq_space_of_mem_indentation hindent) hclass
  refine ⟨by decide, Nest.emit_own hindent {} model, ?_, ?_⟩
  · rw [hdeclared]
    decide
  · rw [himported]
    decide

end SchemaFile

end StructSchema
