import Mathlib
import StructSchema.Proofs.CutBody
import StructSchema.Proofs.Scanning
import StructSchema.Proofs.WrittenTags

/-!
# Bodies written line by line

A line of a body declares a field or none, and ends in blanks and perhaps a comment. A body of such
lines is read as it was written: `BodyLine.read_print`, one field for each line that declares one,
in order, and no issue.
-/

namespace StructSchema

/-- The end of a line: blanks, and perhaps a comment. -/
structure Margin where
  blanks : String
  comment : Option String
  isSkipped_of_mem : ∀ c ∈ blanks.toList, Token.isSkipped c
  comment_ne_lineFeed : ∀ text ∈ comment, ∀ c ∈ text.toList, c ≠ '\n'

/-- The text of a field line: the parts of the field, and the blanks between them. -/
structure FieldText where
  lead : String
  goName : String
  gap : String
  type : String
  typeGap : String
  jsonName : String
  jsonOptional : Bool
  bsonName : String
  bsonOptional : Bool
  more : List FieldTag.Pair
  isSkipped_lead : ∀ c ∈ lead.toList, Token.isSkipped c
  isNameStart_head : ∃ c ∈ goName.toList.head?, Text.isNameStart c
  isWordChar_goName : ∀ c ∈ goName.toList.tail, Text.isWordChar c
  gap_ne_empty : gap ≠ ""
  isSkipped_gap : ∀ c ∈ gap.toList, Token.isSkipped c
  isPlain_type : ∀ token ∈ Token.scan type, token.kind.isPlain
  isIdent_type : ∃ token ∈ (Token.scan type).getLast?, token.kind = .ident
  isSkipped_typeGap : ∀ c ∈ typeGap.toList, Token.isSkipped c
  jsonName_ne_empty : jsonName ≠ ""
  isWordChar_jsonName : ∀ c ∈ jsonName.toList, Text.isWordChar c
  bsonName_ne_empty : bsonName ≠ ""
  isWordChar_bsonName : ∀ c ∈ bsonName.toList, Text.isWordChar c
  valid_more : ∀ pair ∈ more, pair.Valid
  raw_more : ∀ pair ∈ more, ∀ c ∈ pair.value, c ≠ '`' ∧ c ≠ '\n'

/-- A line of a body: perhaps a field, and what ends the line. -/
structure BodyLine where
  field : Option FieldText
  margin : Margin

namespace Margin

/-- The text of the end of a line. -/
def text (margin : Margin) : List Char :=
  margin.blanks.toList ++ margin.comment.elim [] fun comment => '/' :: '/' :: comment.toList

/-- The end of a line gives no token but a comment. -/
theorem scanFrom_text_append (margin : Margin) {rest : List Char}
    (hr : ∀ d ∈ rest.head?, d = '\n') (line : Nat) :
    ∃ comments : List Token, (∀ token ∈ comments, token.kind = .comment) ∧
      Token.scanFrom line (margin.text ++ rest) = comments ++ Token.scanFrom line rest := by
  unfold text
  rw [List.append_assoc, Token.scanFrom_blanks_append margin.isSkipped_of_mem]
  cases hc : margin.comment with
  | none => exact ⟨[], by simp, rfl⟩
  | some comment =>
    have hfree := margin.comment_ne_lineFeed comment hc
    have hcount : ('/' :: '/' :: comment.toList).count '\n' = 0 := by
      refine List.count_eq_zero_of_not_mem fun hm => ?_
      simp only [List.mem_cons] at hm
      rcases hm with hm | hm | hm
      · cases hm
      · cases hm
      · exact hfree _ hm rfl
    refine ⟨[⟨.comment, String.ofList ('/' :: '/' :: comment.toList), line⟩], by simp, ?_⟩
    show Token.scanFrom line ('/' :: '/' :: comment.toList ++ rest) = _
    rw [Token.scanFrom_append (.comment hfree hr) (by decide), hcount]
    rfl

end Margin

namespace FieldText

/-- The name at the end of the type. -/
def typeName (field : FieldText) : String :=
  ((Token.scan field.type).getLast?.map (·.value)).getD ""

/-- The tag of a field. -/
def tag (field : FieldText) : List Char :=
  FieldTag.text (FieldTag.component "json" field.jsonName.toList field.jsonOptional)
    (FieldTag.component "bson" field.bsonName.toList field.bsonOptional) field.more

/-- The text of a field. -/
def text (field : FieldText) : List Char :=
  field.lead.toList ++ field.goName.toList ++ field.gap.toList ++ field.type.toList
    ++ field.typeGap.toList ++ field.tag

/-- The field that a field line on a given line declares. -/
def descriptor (line : Nat) (field : FieldText) : FieldDescriptor :=
  ⟨field.bsonName, field.typeName, !field.jsonOptional, some field.goName, some line⟩

/-- The tokens of a field. -/
def tokens (line : Nat) (field : FieldText) : List Token :=
  ⟨.ident, field.goName, line⟩ :: Token.scanFrom line field.type.toList ++
    [⟨.tag, String.ofList field.tag, line⟩]

variable {field : FieldText}

/-- A tag is a raw string on one line. -/
theorem exists_tag_eq (field : FieldText) :
    ∃ inner, field.tag = '`' :: (inner ++ ['`']) ∧ FieldTag.IsRaw inner := by
  refine ⟨_, rfl, fun c hc => ?_⟩
  rcases List.mem_append.1 hc with hc | hc
  · exact FieldTag.isRaw_component (List.all_iff_forall_prop.1 rfl) field.isWordChar_jsonName _ c hc
  · refine FieldTag.isRaw_moreText (List.forall_mem_cons.2 ⟨?_, fun pair hp => ?_⟩) c hc
    · exact FieldTag.isRaw_component (List.all_iff_forall_prop.1 rfl) field.isWordChar_bsonName _
    · exact FieldTag.Pair.isRaw_text (field.valid_more pair hp).isWordChar_of_mem
        (field.raw_more pair hp)

/-- Behind the name of a field stand blanks, and behind its type blanks or the tag. -/
theorem forall_head?_append {blanks rest : List Char} (h : ∀ c ∈ blanks, Token.isSkipped c)
    (hr : ∀ d ∈ rest.head?, Text.isWordChar d = false ∧ Text.isDecimalDigit d = false) :
    ∀ d ∈ (blanks ++ rest).head?, Text.isWordChar d = false ∧ Text.isDecimalDigit d = false := by
  cases blanks with
  | nil => exact hr
  | cons c blanks =>
    intro d hd
    obtain rfl := Option.some.inj hd
    exact Token.not_word_of_isSkipped (h c List.mem_cons_self)

/-- The name of a field is a lexeme in front of blanks. -/
theorem lexes_goName (field : FieldText) (rest : List Char) :
    Token.Lexes .ident field.goName.toList (field.gap.toList ++ rest) := by
  obtain ⟨c, hc, hstart⟩ := field.isNameStart_head
  have htail := field.isWordChar_goName
  have hgap : field.gap.toList ≠ [] := by simpa using field.gap_ne_empty
  cases hname : field.goName.toList with
  | nil =>
    rw [hname] at hc
    cases hc
  | cons d name =>
    rw [hname] at hc htail
    obtain rfl := Option.some.inj hc
    refine .ident hstart htail fun d hd => ?_
    cases hg : field.gap.toList with
    | nil => exact absurd hg hgap
    | cons b gap =>
      rw [hg] at hd
      obtain rfl := Option.some.inj hd
      exact (Token.not_word_of_isSkipped (field.isSkipped_gap b (by simp [hg]))).1

/-- The tokens of the text of a field, whatever follows it. -/
theorem scanFrom_text_append (field : FieldText) (line : Nat) (rest : List Char) :
    Token.scanFrom line (field.text ++ rest) = field.tokens line ++ Token.scanFrom line rest := by
  obtain ⟨inner, htag, hinner⟩ := field.exists_tag_eq
  have hlexes : Token.Lexes .tag field.tag rest := by
    rw [htag]
    exact .tag fun hm => (hinner _ hm).1 rfl
  have htagCount : field.tag.count '\n' = 0 := by
    rw [htag]
    refine List.count_eq_zero_of_not_mem fun hm => ?_
    simp only [List.mem_cons, List.mem_append, List.not_mem_nil, or_false] at hm
    rcases hm with hm | hm | hm
    · cases hm
    · exact (hinner _ hm).2 rfl
    · cases hm
  have hnameCount : field.goName.toList.count '\n' = 0 :=
    (field.lexes_goName []).count_lineFeed rfl
  have hhead : ∀ d ∈ (field.typeGap.toList ++ (field.tag ++ rest)).head?,
      Text.isWordChar d = false ∧ Text.isDecimalDigit d = false := by
    refine forall_head?_append field.isSkipped_typeGap fun d hd => ?_
    rw [htag] at hd
    obtain rfl := Option.some.inj hd
    decide
  have hplain : ∀ token ∈ Token.scanFrom line field.type.toList, token.kind.isPlain :=
    Token.isPlain_of_scanFrom (m := 1) field.isPlain_type line
  unfold text tokens
  simp only [List.append_assoc, List.cons_append]
  rw [Token.scanFrom_blanks_append field.isSkipped_lead,
    Token.scanFrom_append (field.lexes_goName _) (by decide), hnameCount,
    Token.scanFrom_blanks_append field.isSkipped_gap, Nat.add_zero,
    Token.scanFrom_plain_append hplain hhead, Token.scanFrom_blanks_append field.isSkipped_typeGap,
    Token.scanFrom_append hlexes (by decide), htagCount, String.ofList_toList]
  rfl

/-- The type ends in a name, on whatever line it is. -/
theorem exists_getLast?_type (field : FieldText) (line : Nat) :
    ∃ token, (Token.scanFrom line field.type.toList).getLast? = some token ∧
      token.kind = .ident ∧ token.value = field.typeName := by
  obtain ⟨last, hl, hk⟩ := field.isIdent_type
  have hmap := congrArg List.getLast? (Token.map_scanFrom line 1 field.type.toList)
  rw [List.getLast?_map, List.getLast?_map, ← Token.scan_eq_scanFrom, Option.mem_def.1 hl,
    Option.map_some, Option.map_eq_some_iff] at hmap
  obtain ⟨token, ht, he⟩ := hmap
  obtain ⟨hkind, hvalue⟩ := Prod.mk.inj he
  refine ⟨token, ht, hkind.trans hk, ?_⟩
  unfold typeName
  rw [hvalue, Option.mem_def.1 hl]
  rfl

/-- The tokens of a field declare it. -/
theorem examine_tokens (field : FieldText) (line : Nat) :
    FieldLine.examine (field.tokens line) = .ok (field.descriptor line) := by
  have hplain : ∀ token ∈ Token.scanFrom line field.type.toList, token.kind.isPlain :=
    Token.isPlain_of_scanFrom (m := 1) field.isPlain_type line
  obtain ⟨type, hl, hk, hv⟩ := field.exists_getLast?_type line
  have hsaid := FieldTag.read_text (by simpa using field.jsonName_ne_empty)
    field.isWordChar_jsonName (by simpa using field.bsonName_ne_empty)
    field.isWordChar_bsonName field.jsonOptional field.bsonOptional field.valid_more
  rw [FieldLine.examine_eq_ok_iff, FieldLine.read_eq_ok_iff]
  refine ⟨⟨.ident, field.goName, line⟩, _, type, ⟨.tag, String.ofList field.tag, line⟩, _, rfl, rfl,
    hl, hk, rfl, fun token ht => ?_, hsaid, ?_⟩
  · have := hplain token ht
    unfold Token.Kind.isPlain at this
    unfold FieldLine.isForeign
    cases hkind : token.kind <;> simp [hkind] at this ⊢
  · rw [hv, String.ofList_toList]
    rfl

theorem kind_of_mem_tokens {line : Nat} {token : Token} (h : token ∈ field.tokens line) :
    token.kind.isPlain ∨ token.kind = .tag := by
  have hplain : ∀ token ∈ Token.scanFrom line field.type.toList, token.kind.isPlain :=
    Token.isPlain_of_scanFrom (m := 1) field.isPlain_type line
  rcases List.mem_append.1 h with h | h
  · rcases List.mem_cons.1 h with rfl | h
    · exact .inl rfl
    · exact .inl (hplain token h)
  · rw [List.mem_singleton.1 h]
    exact .inr rfl

/-- A field with comments behind it declares the field. -/
theorem ofTokens_append_comments (field : FieldText) (line : Nat) {comments : List Token}
    (h : ∀ token ∈ comments, token.kind = .comment) :
    StructBody.ofTokens (field.tokens line ++ comments) = ⟨[field.descriptor line], []⟩ := by
  have hkind : ∀ token ∈ field.tokens line, token.endsStatement = false ∧
      (token.kind != .comment) = true := by
    intro token ht
    have := kind_of_mem_tokens ht
    unfold Token.Kind.isPlain at this
    unfold Token.endsStatement
    cases hk : token.kind <;> simp [hk] at this ⊢
  have hopen : ∀ token ∈ field.tokens line ++ comments, token.endsStatement = false := by
    intro token ht
    rcases List.mem_append.1 ht with ht | ht
    · exact (hkind token ht).1
    · simp [Token.endsStatement, h token ht]
  have hfilter : (field.tokens line ++ comments).filter (·.kind != .comment) =
      field.tokens line := by
    rw [List.filter_append, List.filter_eq_self.2 fun token ht => (hkind token ht).2,
      List.filter_eq_nil_iff.2 fun token ht => by simp [h token ht], List.append_nil]
  have htag : ∃ token ∈ field.tokens line ++ comments, token.kind = .tag :=
    ⟨⟨.tag, String.ofList field.tag, line⟩, by simp [tokens], rfl⟩
  rw [StructBody.ofTokens_of_open hopen htag, hfilter, field.examine_tokens]
  rfl

end FieldText

namespace BodyLine

/-- The text of a line. -/
def text (line : BodyLine) : List Char := line.field.elim [] FieldText.text ++ line.margin.text

/-- A body of lines. -/
def print (lines : List BodyLine) : String := String.ofList (Text.join '\n' (lines.map text))

/-- The fields of lines. -/
def fields (lines : List BodyLine) : List FieldText := lines.filterMap (·.field)

/-- The fields that lines declare, the first of which has a given number. -/
def descriptors (number : Nat) : List BodyLine → List FieldDescriptor
  | [] => []
  | line :: lines =>
    (line.field.map (FieldText.descriptor number)).toList ++ descriptors (number + 1) lines

/-- What the tokens of a line say. -/
theorem exists_scanFrom_text (line : BodyLine) (number : Nat) (rest : List Char)
    (hr : ∀ d ∈ rest.head?, d = '\n') : ∃ tokens,
      Token.scanFrom number (line.text ++ rest) = tokens ++ Token.scanFrom number rest ∧
      StructBody.ofTokens tokens = ⟨(line.field.map (FieldText.descriptor number)).toList, []⟩ := by
  obtain ⟨comments, hcomments, hscan⟩ := line.margin.scanFrom_text_append hr number
  unfold text
  cases line.field with
  | none =>
    refine ⟨comments, hscan, StructBody.ofTokens_eq_empty_iff.2 fun token ht => ?_⟩
    simp [hcomments token ht]
  | some field =>
    refine ⟨field.tokens number ++ comments, ?_, ?_⟩
    · show Token.scanFrom number (field.text ++ line.margin.text ++ rest) = _
      rw [List.append_assoc, field.scanFrom_text_append, hscan, List.append_assoc]
    · exact field.ofTokens_append_comments number hcomments

theorem ofTokens_scanFrom_join (number : Nat) (lines : List BodyLine) :
    StructBody.ofTokens (Token.scanFrom number (Text.join '\n' (lines.map text))) =
      ⟨descriptors number lines, []⟩ := by
  induction lines generalizing number with
  | nil =>
    show StructBody.ofTokens (Token.scanFrom number []) = _
    rw [Token.scanFrom_nil]
    rfl
  | cons line lines ih =>
    cases lines with
    | nil =>
      obtain ⟨tokens, hscan, hread⟩ := line.exists_scanFrom_text number [] (by simp)
      show StructBody.ofTokens (Token.scanFrom number line.text) = _
      rw [List.append_nil, Token.scanFrom_nil, List.append_nil] at hscan
      rw [hscan, hread]
      simp [descriptors]
    | cons next lines =>
      obtain ⟨tokens, hscan, hread⟩ := line.exists_scanFrom_text number
        ('\n' :: Text.join '\n' ((next :: lines).map text)) (by simp)
      have hfeed : Token.scanFrom number ('\n' :: Text.join '\n' ((next :: lines).map text)) =
          ⟨.lineFeed, "\n", number⟩ ::
            Token.scanFrom (number + 1) (Text.join '\n' ((next :: lines).map text)) :=
        Token.scanFrom_append .lineFeed (by decide) number
      show StructBody.ofTokens (Token.scanFrom number
        (line.text ++ '\n' :: Text.join '\n' ((next :: lines).map text))) = _
      rw [hscan, hfeed, StructBody.ofTokens_append rfl, hread, ih]
      rfl

/-- A body of lines is read as it was written. -/
theorem read_print (lines : List BodyLine) :
    StructBody.read (print lines) = ⟨descriptors 1 lines, []⟩ := by
  rw [StructBody.read_eq_ofTokens, Token.scan_eq_scanFrom]
  unfold print
  rw [String.toList_ofList, ofTokens_scanFrom_join]

/-- The descriptors of lines are those of their fields, up to the numbers of the lines. -/
theorem map_descriptors {α : Type} (f : FieldDescriptor → α) (g : FieldText → α)
    (h : ∀ number field, f (FieldText.descriptor number field) = g field) (number : Nat)
    (lines : List BodyLine) : (descriptors number lines).map f = (fields lines).map g := by
  induction lines generalizing number with
  | nil => rfl
  | cons line lines ih =>
    unfold fields
    rw [descriptors, List.map_append, ih, List.filterMap_cons]
    cases line.field with
    | none => rfl
    | some field =>
      rw [List.map_cons]
      simp [h, fields]

/-! ## A body of two fields -/

/-- The line of a key, with a comment that holds a backquote and a semicolon. -/
def keyLine : BodyLine where
  field := some
    { lead := "\t", goName := "ID", gap := " ", type := "primitive.ObjectID", typeGap := "\t"
      jsonName := "id", jsonOptional := false, bsonName := "_id", bsonOptional := false, more := []
      isSkipped_lead := List.all_iff_forall_prop.1 rfl
      isNameStart_head := ⟨'I', rfl, rfl⟩
      isWordChar_goName := List.all_iff_forall_prop.1 rfl
      gap_ne_empty := by decide
      isSkipped_gap := List.all_iff_forall_prop.1 rfl
      isPlain_type := List.all_eq_true.1 (by cbv)
      isIdent_type := ⟨⟨.ident, "ObjectID", 1⟩, by cbv, rfl⟩
      isSkipped_typeGap := List.all_iff_forall_prop.1 rfl
      jsonName_ne_empty := by decide
      isWordChar_jsonName := List.all_iff_forall_prop.1 rfl
      bsonName_ne_empty := by decide
      isWordChar_bsonName := List.all_iff_forall_prop.1 rfl
      valid_more := by simp
      raw_more := by simp }
  margin :=
    { blanks := " ", comment := some " the `key`; generated"
      isSkipped_of_mem := List.all_iff_forall_prop.1 rfl
      comment_ne_lineFeed := by
        intro text h
        obtain rfl := Option.some.inj h
        exact List.all_iff_forall_prop.1 rfl }

/-- The line of an optional name, with a third pair in the tag. -/
def nameLine : BodyLine where
  field := some
    { lead := "\t", goName := "Name", gap := " ", type := "*string", typeGap := " "
      jsonName := "name", jsonOptional := true, bsonName := "full_name", bsonOptional := false
      more := [⟨"check".toList, "a;//b".toList⟩]
      isSkipped_lead := List.all_iff_forall_prop.1 rfl
      isNameStart_head := ⟨'N', rfl, rfl⟩
      isWordChar_goName := List.all_iff_forall_prop.1 rfl
      gap_ne_empty := by decide
      isSkipped_gap := List.all_iff_forall_prop.1 rfl
      isPlain_type := List.all_eq_true.1 (by cbv)
      isIdent_type := ⟨⟨.ident, "string", 1⟩, by cbv, rfl⟩
      isSkipped_typeGap := List.all_iff_forall_prop.1 rfl
      jsonName_ne_empty := by decide
      isWordChar_jsonName := List.all_iff_forall_prop.1 rfl
      bsonName_ne_empty := by decide
      isWordChar_bsonName := List.all_iff_forall_prop.1 rfl
      valid_more := by
        intro pair hp
        obtain rfl := List.mem_singleton.1 hp
        exact ⟨by decide, List.all_iff_forall_prop.1 rfl,
          FieldTag.escaped_of_forall (List.all_iff_forall_prop.1 rfl)⟩
      raw_more := List.forall_mem_singleton.2 (List.all_iff_forall_prop.1 rfl) }
  margin := ⟨"", none, by simp, by simp⟩

/-- A line without a field. -/
def emptyLine : BodyLine := ⟨none, ⟨"", none, by simp, by simp⟩⟩

/-- The lines of a body of two fields. -/
def userLines : List BodyLine := [emptyLine, keyLine, nameLine, emptyLine]

example : print userLines =
    "\n\tID primitive.ObjectID\t`json:\"id\" bson:\"_id\"` // the `key`; generated\n"
      ++ "\tName *string `json:\"name,omitempty\" bson:\"full_name\" check:\"a;//b\"`\n" := by cbv

end BodyLine

end StructSchema
