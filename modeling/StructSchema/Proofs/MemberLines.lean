import StructSchema.Proofs.ReadableClass
import StructSchema.Proofs.Scanning
import StructSchema.Proofs.TagNames

/-!
# Members on one line

The code of a class is the lines in front of its members, the lines of each member, and the lines
behind them, all tidied: `SchemaFile.tidy_text_members`. The last of the lines of a member declares
it. It stays one line, and its key is read back as the name of the field, exactly when the name
holds no line feed: `SchemaField.memberLines_eq_iff`, `PropertyKey.read?_ofName_iff`. The names of a
body are words, but one line feed may stand at the end of each: `Generator.members_of_body` says
what follows for the class.
-/

namespace StructSchema

open Text

/-! ## The members of a file -/

namespace SchemaFile

variable {indent : String} {property : SchemaProperty}

/-- The lines in front of the declaration of a property. -/
def headLines (indent : String) (property : SchemaProperty) : List String :=
  property.comment.toList.map (fun text => indent ++ "// " ++ text)
    ++ [indent ++ "@Prop(" ++ objectLiteral property.options ++ ")"]

/-- The declaration of a property. -/
def declaration (indent : String) (property : SchemaProperty) : String :=
  indent ++ property.key ++ ": " ++ property.type ++ ";"

/-- The lines of a property in the code of a class. -/
def memberLines (indent : String) (property : SchemaProperty) : List String :=
  tidied (headLines indent property) ++ tidied [declaration indent property]

theorem propertyLines_eq (indent : String) (property : SchemaProperty) :
    propertyLines indent property = headLines indent property ++ [declaration indent property] := by
  unfold propertyLines headLines declaration
  rw [List.append_assoc]
  rfl

theorem endsInInk_declaration (indent : String) (property : SchemaProperty) :
    EndsInInk (declaration indent property) :=
  .append ⟨';', rfl, rfl⟩ _

theorem isOneLine_declaration_iff (hindent : IsOneLine indent) (htype : IsOneLine property.type) :
    IsOneLine (declaration indent property) ↔ IsOneLine property.key := by
  constructor
  · intro h hfeed
    refine h ?_
    unfold declaration
    simp only [String.toList_append, List.mem_append]
    exact .inl (.inl (.inl (.inr hfeed)))
  · intro hkey
    exact (((hindent.append hkey).append (by decide)).append htype).append (by decide)

theorem tidied_propertyLines (indent : String) (property : SchemaProperty) :
    tidied (propertyLines indent property) = memberLines indent property := by
  have hdecorator : EndsInInk (indent ++ "@Prop(" ++ objectLiteral property.options ++ ")") :=
    .append ⟨')', rfl, rfl⟩ _
  rw [propertyLines_eq]
  exact tidied_append hdecorator _ [declaration indent property]

/-- The first line of a property is a comment or its decorator. -/
theorem exists_head?_propertyLines (hindent : IsOneLine indent) (property : SchemaProperty) :
    ∃ first ∈ (propertyLines indent property).head?, HasInk first := by
  unfold propertyLines
  cases property.comment with
  | none =>
    refine ⟨_, rfl, ?_⟩
    rw [String.append_assoc, String.append_assoc]
    exact hindent.hasInk_append ⟨'@', by simp, by decide⟩
  | some text =>
    refine ⟨indent ++ "// " ++ text, rfl, ?_⟩
    rw [String.append_assoc]
    exact hindent.hasInk_append ⟨'/', by simp, by decide⟩

/-- **The code of a class.** Tidying a file tidies the lines in front of the members, those of each
member and those behind the members apart from each other. -/
theorem tidy_text_members (file : SchemaFile) (hindent : IsOneLine file.indent) :
    tidy file.text = unlines (tidied file.opening
      ++ [""].intercalate (file.properties.map (memberLines file.indent))
      ++ tidied (closing file.className)) := by
  have hgroups : ∀ group ∈ file.properties.map (propertyLines file.indent),
      (∃ first ∈ group.head?, HasInk first) ∧ ∃ last ∈ group.getLast?, EndsInInk last := by
    intro group hg
    obtain ⟨property, -, rfl⟩ := List.mem_map.1 hg
    refine ⟨exists_head?_propertyLines hindent property, ?_⟩
    rw [propertyLines_eq]
    exact ⟨_, List.getLast?_concat .., endsInInk_declaration file.indent property⟩
  have htidied : (file.properties.map (propertyLines file.indent)).map tidied =
      file.properties.map (memberLines file.indent) := by
    rw [List.map_map]
    exact List.map_congr_left fun property _ => tidied_propertyLines file.indent property
  rw [tidy_text_eq_unlines, tidied_groups hgroups, htidied, List.append_assoc]

end SchemaFile

/-! ## Reading keys -/

namespace PropertyKey

variable {name text rest : List Char}

/-- A text up to a single quote with no backslash in front of it, and what follows the quote. A
backslash stands in front of a quote or a backslash, and no line ends inside the text. -/
def readQuoted? : List Char → Option (List Char × List Char)
  | [] => none
  | '\\' :: c :: rest =>
    if c = '\\' ∨ c = '\'' then (readQuoted? rest).map fun (name, after) => (c :: name, after)
    else none
  | c :: rest =>
    if c = '\'' then some ([], rest)
    else if c = '\\' ∨ c = '\n' ∨ c = '\r' then none
    else (readQuoted? rest).map fun (name, after) => (c :: name, after)

/-- The property key at the start of a text, which is an ASCII identifier or a text between single
quotes, and what follows. -/
def read? : List Char → Option (List Char × List Char)
  | [] => none
  | c :: rest =>
    if c = '\'' then readQuoted? rest
    else if isStart c then some (c :: rest.takeWhile isInside, rest.dropWhile isInside)
    else none

theorem readQuoted?_cons {c : Char} (h : c ≠ '\\') (text : List Char) :
    readQuoted? (c :: text) =
      if c = '\'' then some ([], text)
      else if c = '\\' ∨ c = '\n' ∨ c = '\r' then none
      else (readQuoted? text).map fun (name, after) => (c :: name, after) := by
  rw [readQuoted?]
  intro _ _ hc
  exact absurd hc h

/-- An escaped text without line ends is read back. -/
theorem readQuoted?_escape (hfeed : '\n' ∉ name) (hreturn : '\r' ∉ name) (rest : List Char) :
    readQuoted? (escape name ++ '\'' :: rest) = some (name, rest) := by
  induction name with
  | nil => exact readQuoted?_cons (by decide) rest
  | cons c name ih =>
    rw [List.mem_cons, not_or] at hfeed hreturn
    have ih := ih hfeed.2 hreturn.2
    by_cases hc : c = '\\' ∨ c = '\''
    · rw [escape, if_pos hc, List.cons_append, List.cons_append, readQuoted?, if_pos hc, ih]
      rfl
    · rw [escape, if_neg hc, List.cons_append]
      rw [not_or] at hc
      have hplain : ¬ (c = '\\' ∨ c = '\n' ∨ c = '\r') := by
        rintro (h | h | h)
        · exact hc.1 h
        · exact hfeed.1 h.symm
        · exact hreturn.1 h.symm
      rw [readQuoted?_cons hc.1, if_neg hc.2, if_neg hplain, ih]
      rfl

theorem not_mem_of_readQuoted? (h : readQuoted? text = some (name, rest)) : '\n' ∉ name := by
  induction text using readQuoted?.induct generalizing name with
  | case1 => cases h
  | case2 c text hc ih =>
    rw [readQuoted?, if_pos hc, Option.map_eq_some_iff] at h
    obtain ⟨⟨inner, after⟩, hinner, he⟩ := h
    cases he
    rw [List.mem_cons, not_or]
    refine ⟨?_, ih hinner⟩
    rintro rfl
    revert hc
    decide
  | case3 c text hc =>
    rw [readQuoted?, if_neg hc] at h
    cases h
  | case4 text hnext =>
    rw [readQuoted?.eq_3 _ _ hnext, if_pos rfl] at h
    cases h
    exact List.not_mem_nil
  | case5 c text hnext hquote hend =>
    rw [readQuoted?.eq_3 _ _ hnext, if_neg hquote, if_pos hend] at h
    cases h
  | case6 c text hnext hquote hplain ih =>
    rw [readQuoted?.eq_3 _ _ hnext, if_neg hquote, if_neg hplain, Option.map_eq_some_iff] at h
    obtain ⟨⟨inner, after⟩, hinner, he⟩ := h
    cases he
    rw [not_or, not_or] at hplain
    rw [List.mem_cons, not_or]
    exact ⟨fun he => hplain.2.1 he.symm, ih hinner⟩

/-- A key holds no line feed. -/
theorem not_mem_of_read? (h : read? text = some (name, rest)) : '\n' ∉ name := by
  cases text with
  | nil => cases h
  | cons c text =>
    rw [read?] at h
    split_ifs at h with hquote hstart
    · exact not_mem_of_readQuoted? h
    · cases h
      rw [List.mem_cons, not_or]
      constructor
      · rintro rfl
        revert hstart
        decide
      · intro hm
        exact absurd (List.mem_takeWhile_imp hm) (by decide)

/-- The key of a name without line ends is read back in front of a colon. -/
theorem read?_ofNameList (hfeed : '\n' ∉ name) (hreturn : '\r' ∉ name) (rest : List Char) :
    read? (ofNameList name ++ ':' :: rest) = some (name, ':' :: rest) := by
  unfold ofNameList
  split
  · rename_i hname
    unfold isIdentifier at hname
    rw [dropFinalLineFeed_of_not_mem hfeed] at hname
    cases name with
    | nil => cases hname
    | cons c name =>
      rw [Bool.and_eq_true, List.all_eq_true] at hname
      have hquote : c ≠ '\'' := by
        rintro rfl
        exact absurd hname.1 (by decide)
      have hcolon : ∀ d ∈ (':' :: rest).head?, isInside d = false := by
        rintro d hd
        obtain rfl := Option.some.inj hd
        decide
      rw [List.cons_append, read?, if_neg hquote, if_pos hname.1,
        Token.takeWhile_append_of_head? hname.2 hcolon, List.dropWhile_append_of_pos hname.2,
        List.dropWhile_cons_of_neg (by decide)]
  · rw [List.cons_append, read?, if_pos rfl, List.append_assoc]
    exact readQuoted?_escape hfeed hreturn (':' :: rest)

/-- In a declaration the key of a name without carriage returns is read back where the name holds
no line feed. -/
theorem read?_ofName_iff {name : String} (hreturn : '\r' ∉ name.toList) (type : String) :
    read? (ofName name ++ ": " ++ type ++ ";").toList =
        some (name.toList, (": " ++ type ++ ";").toList) ↔ '\n' ∉ name.toList := by
  have hcolon : (": " : String).toList = ':' :: [' '] := rfl
  unfold ofName
  simp only [String.toList_append, String.toList_ofList, hcolon, List.append_assoc,
    List.cons_append]
  exact ⟨not_mem_of_read?, fun hfeed => read?_ofNameList hfeed hreturn _⟩

theorem mem_escape_of_mem {c : Char} (h : c ∈ name) : c ∈ escape name := by
  induction name with
  | nil => cases h
  | cons d name ih =>
    rw [escape]
    split
    · rcases List.mem_cons.1 h with rfl | h
      · exact List.mem_cons_of_mem _ List.mem_cons_self
      · exact List.mem_cons_of_mem _ (List.mem_cons_of_mem _ (ih h))
    · rcases List.mem_cons.1 h with rfl | h
      · exact List.mem_cons_self
      · exact List.mem_cons_of_mem _ (ih h)

theorem isOneLine_ofName_iff {name : String} : IsOneLine (ofName name) ↔ IsOneLine name := by
  refine ⟨fun h hfeed => h ?_, isOneLine_ofName⟩
  unfold ofName ofNameList
  rw [String.toList_ofList]
  split
  · exact hfeed
  · exact List.mem_cons_of_mem _ (List.mem_append_left _ (mem_escape_of_mem hfeed))

end PropertyKey

/-! ## The members of fields -/

namespace SchemaField

variable {types : TypeTable} {rules : List OverrideRule} {declared : FieldDescriptor}
  {field : SchemaField} {indent : String}

/-- Types on one line each give a field a type on one line. -/
theorem isOneLine_tsType_ofDescriptor
    (htypes : ∀ source target, types.get? source = some target → IsOneLine target)
    (hrules : ∀ rule ∈ rules, IsOneLine rule.template.tsType)
    (hsource : IsOneLine declared.sourceType) :
    IsOneLine (ofDescriptor types rules declared).tsType := by
  unfold ofDescriptor
  cases hrule : OverrideRule.first? rules declared with
  | some rule => exact hrules rule (List.mem_of_find?_eq_some hrule)
  | none =>
    show IsOneLine (types.resolve declared.sourceType)
    unfold TypeTable.resolve
    cases hg : types.get? declared.sourceType with
    | none => exact hsource
    | some target => exact htypes _ target hg

/-- The member of a field ends in its declaration, as one line, where the name is on one line. -/
theorem memberLines_eq_iff (hindent : IsOneLine indent) (htype : IsOneLine field.tsType)
    (commented : Bool) :
    SchemaFile.memberLines indent (Nest.property commented field) =
        tidied (SchemaFile.headLines indent (Nest.property commented field))
          ++ [indent ++ PropertyKey.ofName field.name ++ ": " ++ field.tsType ++ ";"] ↔
      IsOneLine field.name := by
  show tidied _ ++ tidied [SchemaFile.declaration indent (Nest.property commented field)] =
    tidied _ ++ [SchemaFile.declaration indent (Nest.property commented field)] ↔ _
  rw [List.append_cancel_left_eq, tidied_singleton_iff (SchemaFile.endsInInk_declaration _ _),
    SchemaFile.isOneLine_declaration_iff hindent htype]
  exact PropertyKey.isOneLine_ofName_iff

end SchemaField

/-- Every field of a model comes from a declared one. -/
theorem SchemaModel.exists_of_build {structName : String} {declared : List FieldDescriptor}
    {types : TypeTable} {rules : List OverrideRule} {policy : DuplicatePolicy}
    {model : SchemaModel} (h : build structName declared types rules policy = .ok model) :
    model.structName = structName ∧
      ∀ field ∈ model.fields, ∃ d ∈ declared, SchemaField.ofDescriptor types rules d = field :=
  build_invariant (fun d hd => ⟨d, hd, rfl⟩) h

/-- The source type of a field is an identifier of the body. -/
theorem StructBody.exists_ident {body : String} {field : FieldDescriptor}
    (h : field ∈ (read body).fields) :
    ∃ token ∈ Token.scan body, token.kind = .ident ∧ token.value = field.sourceType := by
  obtain ⟨statement, hs, hread⟩ := exists_statement h
  obtain ⟨name, types, type, tag, said, rfl, -, htype, hkind, -, -, -, rfl⟩ :=
    FieldLine.read_eq_ok_iff.1 hread
  exact ⟨type, mem_scan_of_mem hs (by simp [List.mem_of_getLast? htype]), hkind, rfl⟩

theorem StructBody.isOneLine_sourceType {body : String} {field : FieldDescriptor}
    (h : field ∈ (read body).fields) : IsOneLine field.sourceType := by
  obtain ⟨token, hmem, hkind, hvalue⟩ := exists_ident h
  rw [← hvalue]
  exact isOneLine_of_word fun c hc => .inl ((Token.isWordChar_of_mem_scan hmem hkind).2 c hc)

namespace Generator

/-- **Names and members.** A tag of a body names each field, by a word that a line feed may follow,
and by a word alone where no tag holds a line feed. In the code of the class each field has a
member. Exactly if the name is a word, the member ends in one line that declares the field, and the
key in that line is read back as the name. -/
theorem members_of_body (body : String) :
    (∀ field ∈ (StructBody.read body).fields,
      (∃ tag ∈ Token.scan body, StructBody.NamedBy field.name tag) ∧
        (FieldTag.IsName field.name.toList ∨
          ∃ word, FieldTag.IsName word ∧ field.name.toList = word ++ ['\n'])) ∧
    ((∀ token ∈ Token.scan body, token.kind = .tag → '\n' ∉ token.value.toList) →
      ∀ field ∈ (StructBody.read body).fields, FieldTag.IsName field.name.toList) ∧
    ∀ settings table rules generator, Nest.generator settings table rules = .ok generator →
      (∀ source target, generator.types.get? source = some target → IsOneLine target) →
      (∀ rule ∈ rules, IsOneLine rule.template.tsType) →
      ∀ structName made, generator.generate structName body = .ok made →
        ∃ options indent model, SchemaOptions.ofValue settings.targetOptions = .ok options ∧
          Nest.indentation settings.indentSize = .ok indent ∧
          generator.model structName (StructBody.read body).fields = .ok model ∧
          made.code = unlines
            (tidied (Nest.file settings.addComments.isTruthy options indent model).opening
              ++ [""].intercalate (model.fields.map fun field =>
                SchemaFile.memberLines indent (Nest.property settings.addComments.isTruthy field))
              ++ tidied (SchemaFile.closing structName)) ∧
          ∀ field ∈ model.fields,
            (SchemaFile.memberLines indent (Nest.property settings.addComments.isTruthy field) =
                tidied (SchemaFile.headLines indent
                    (Nest.property settings.addComments.isTruthy field))
                  ++ [indent ++ PropertyKey.ofName field.name ++ ": " ++ field.tsType ++ ";"] ↔
              FieldTag.IsName field.name.toList) ∧
            (PropertyKey.read? (PropertyKey.ofName field.name ++ ": " ++ field.tsType ++ ";").toList
                = some (field.name.toList, (": " ++ field.tsType ++ ";").toList) ↔
              FieldTag.IsName field.name.toList) := by
  refine ⟨fun field hf => ?_, fun htags field hf => StructBody.isName_of_mem_fields htags hf, ?_⟩
  · obtain ⟨hnamed, htagName⟩ := StructBody.exists_namedBy hf
    exact ⟨hnamed, FieldTag.isTagName_iff.1 htagName⟩
  intro settings table rules generator hmade htypes hrules structName made hgenerate
  obtain ⟨-, rfl, -, options, hoptions, hemit⟩ := Nest.generator_ok hmade
  obtain ⟨model, code, hmodel, hcode, rfl⟩ := generate_eq_ok_iff.1 hgenerate
  rw [hemit, Nest.emit_own_eq_ok_iff] at hcode
  obtain ⟨indent, hindent, rfl⟩ := hcode
  have hspaces := Nest.isOneLine_indentation hindent
  obtain ⟨policy, -, hbuild⟩ := model_eq_ok_iff.1 hmodel
  obtain ⟨rfl, hfields⟩ := SchemaModel.exists_of_build hbuild
  refine ⟨options, indent, model, hoptions, hindent, hmodel, ?_, fun field hf => ?_⟩
  · show tidy (SchemaFile.text _) = _
    rw [SchemaFile.tidy_text_members _ hspaces]
    unfold Nest.file
    rw [List.map_map]
    rfl
  · obtain ⟨declared, hd, rfl⟩ := hfields field hf
    obtain ⟨-, htagName⟩ := StructBody.exists_namedBy hd
    have hname : (SchemaField.ofDescriptor generator.types generator.rules declared).name =
        declared.name := SchemaField.name_ofDescriptor _ _ _
    have htype := SchemaField.isOneLine_tsType_ofDescriptor htypes hrules
      (StructBody.isOneLine_sourceType hd)
    rw [SchemaField.memberLines_eq_iff hspaces htype, hname, FieldTag.isName_iff htagName]
    exact ⟨Iff.rfl, PropertyKey.read?_ofName_iff (FieldTag.not_mem_return htagName) _⟩

/-- A body of two fields. -/
def placesBody : String :=
  "City string `json:\"city\" bson:\"city\"`\nFirst int `json:\"first\" bson:\"1st\"`"

/-- What the body of two fields says of them. -/
def placesFields : List FieldDescriptor :=
  [⟨"city", "string", true, some "City", some 1⟩, ⟨"1st", "int", true, some "First", some 2⟩]

theorem fields_placesBody : (StructBody.read placesBody).fields = placesFields := by cbv

/-- The model of the two fields. -/
def placesModel : SchemaModel :=
  ⟨"Places", [⟨"city", "String", "String", true, [], none, some "string"⟩,
    ⟨"1st", "Number", "Number", true, [], none, some "int"⟩]⟩

theorem map_ofDescriptor_placesFields :
    placesFields.map (SchemaField.ofDescriptor TypeTable.primitive OverrideRule.standard) =
      placesModel.fields := by cbv

theorem memberLines_placesModel :
    [""].intercalate (placesModel.fields.map fun field =>
        SchemaFile.memberLines "  " (Nest.property false field)) =
      ["  @Prop(\x7b type: mongoose.Schema.Types.String, required: true \x7d)",
        "  city: String;", "",
        "  @Prop(\x7b type: mongoose.Schema.Types.Number, required: true \x7d)",
        "  '1st': Number;"] := by decide

theorem tags_placesBody :
    ∀ token ∈ Token.scan placesBody, token.kind = .tag → '\n' ∉ token.value.toList :=
  Token.not_mem_of_oneLineTags (by cbv)

/-- Two fields are named by words; the one that is no identifier has a key in quotes. -/
theorem members_of_body_places : ∃ generator made front back,
    (∀ field ∈ (StructBody.read placesBody).fields, FieldTag.IsName field.name.toList) ∧
    Nest.generator {} = .ok generator ∧ generator.generate "Places" placesBody = .ok made ∧
    made.code = unlines (front
      ++ ["  @Prop(\x7b type: mongoose.Schema.Types.String, required: true \x7d)",
        "  city: String;", "",
        "  @Prop(\x7b type: mongoose.Schema.Types.Number, required: true \x7d)",
        "  '1st': Number;"]
      ++ back) := by
  obtain ⟨generator, hg, htypes, hrules, hpolicy⟩ : ∃ generator,
      Nest.generator {} = .ok generator ∧ generator.types = TypeTable.primitive ∧
      generator.rules = OverrideRule.standard ∧
      generator.settings.duplicateFields = .str "error" := ⟨_, rfl, rfl, rfl, rfl⟩
  obtain ⟨-, hnames, hmembers⟩ := members_of_body placesBody
  have htargets : ∀ source target, generator.types.get? source = some target →
      IsOneLine target := by
    intro source target h
    rw [htypes] at h
    exact isOneLine_of_word (TypeTable.isDotted_of_primitive h)
  have htemplates : ∀ rule ∈ OverrideRule.standard, IsOneLine rule.template.tsType := by decide
  have hindent : Nest.indentation (.int 2) = .ok "  " := rfl
  have hmodel : generator.model "Places" (StructBody.read placesBody).fields =
      .ok placesModel := by
    rw [fields_placesBody, model_eq_ok_iff, htypes, hrules]
    refine ⟨.refuse, ofValue?_eq_some_iff.2 (.inl ⟨hpolicy, rfl⟩), ?_⟩
    rw [SchemaModel.build_of_nodup (by decide), map_ofDescriptor_placesFields]
    rfl
  obtain ⟨made, hmade⟩ := (exists_generate_iff hg hindent "Places" placesBody).2 ⟨_, hmodel⟩
  obtain ⟨options, indent, model, -, hspaces, hfound, hcode, -⟩ :=
    hmembers {} _ _ generator hg htargets htemplates "Places" made hmade
  obtain rfl := Except.ok.inj (hspaces.symm.trans hindent)
  obtain rfl := Except.ok.inj (hfound.symm.trans hmodel)
  change made.code = unlines (_ ++ [""].intercalate (placesModel.fields.map fun field =>
    SchemaFile.memberLines "  " (Nest.property false field)) ++ _) at hcode
  rw [memberLines_placesModel] at hcode
  exact ⟨generator, made, _, _, hnames tags_placesBody, hg, hmade, hcode⟩

/-- A line feed in front of the quote that ends the value of a tag belongs to the name. -/
theorem fields_lineFeedInTag :
    (StructBody.read "A string `json:\"a\" bson:\"a\n\"`").fields.map (·.name) = ["a\n"] ∧
      ¬ FieldTag.IsName "a\n".toList := by
  constructor
  · cbv
  · intro h
    exact h.not_mem_lineFeed (by decide)

end Generator

end StructSchema
