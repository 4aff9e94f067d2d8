import StructSchema.Proofs.FieldReading
import StructSchema.Proofs.Statements
import StructSchema.Proofs.TagPairs

/-!
# Names in tags

A field is named by a tag of its body: by what the value of the second pair holds up to a comma,
`StructBody.exists_namedBy`. Such a name is a word, but a line feed may follow the word:
`FieldTag.isTagName_iff`. Only a tag that takes more than one line can hold one, so the fields of
tags on one line each are named by words, `StructBody.isName_of_mem_fields`.
-/

namespace StructSchema

namespace FieldTag

variable {text value name : List Char} {c : Char}

/-! ## Names -/

/-- A name as tags should have it: word characters, and at least one. -/
def IsName (name : List Char) : Prop := name ≠ [] ∧ ∀ c ∈ name, Text.isWordChar c

theorem IsName.not_mem_lineFeed (h : IsName name) : '\n' ∉ name :=
  fun hm => absurd (h.2 _ hm) (by decide)

theorem IsName.isTagName (h : IsName name) : isTagName name = true := by
  unfold FieldTag.isTagName
  rw [Text.dropFinalLineFeed_of_not_mem h.not_mem_lineFeed, Bool.and_eq_true, Bool.not_eq_true',
    List.isEmpty_eq_false_iff, List.all_eq_true]
  exact h

/-- A line feed may follow the word of a name. -/
theorem isTagName_iff : isTagName name = true ↔
    IsName name ∨ ∃ word, IsName word ∧ name = word ++ ['\n'] := by
  constructor
  · intro h
    unfold isTagName at h
    rw [Bool.and_eq_true, Bool.not_eq_true', List.isEmpty_eq_false_iff, List.all_eq_true] at h
    rcases Text.dropFinalLineFeed_cases name with hname | hname
    · exact .inl (hname ▸ h)
    · exact .inr ⟨_, h, hname⟩
  · rintro (h | ⟨word, h, rfl⟩)
    · exact h.isTagName
    · unfold isTagName Text.dropFinalLineFeed
      rw [if_pos (by simp), List.dropLast_concat, Bool.and_eq_true, Bool.not_eq_true',
        List.isEmpty_eq_false_iff, List.all_eq_true]
      exact h

theorem isName_iff (h : isTagName name = true) : IsName name ↔ '\n' ∉ name := by
  constructor
  · exact IsName.not_mem_lineFeed
  · intro hfeed
    refine (isTagName_iff.1 h).resolve_right ?_
    rintro ⟨word, -, rfl⟩
    exact hfeed (by simp)

theorem not_mem_return (h : isTagName name = true) : '\r' ∉ name := by
  rcases isTagName_iff.1 h with hname | ⟨word, hword, rfl⟩
  · exact fun hm => absurd (hname.2 _ hm) (by decide)
  · rw [List.mem_append, not_or]
    exact ⟨fun hm => absurd (hword.2 _ hm) (by decide), by decide⟩

theorem name_of_readValue {key name : String} {optional : Bool}
    (h : readValue key value = .ok (name, optional)) :
    name.toList = value.takeWhile (· != ',') ∧ isTagName name.toList = true := by
  unfold readValue at h
  dsimp only at h
  split_ifs at h with hname
  all_goals
    cases h
    rw [String.toList_ofList]
    exact ⟨rfl, by simpa using hname⟩

/-- A tag names a field by the value of its second pair. -/
theorem exists_of_read {tag : String} {said : FieldTag} (h : read tag = .ok said) :
    ∃ json bson more, pairs (stripMarks tag.toList) = .ok (json :: bson :: more) ∧
      said.name.toList = bson.value.takeWhile (· != ',') ∧
      isTagName said.name.toList = true := by
  unfold read at h
  obtain ⟨found, hfound, h⟩ := Outcome.bind_eq_ok_iff.1 h
  unfold ofPairs at h
  split at h
  · rename_i json bson more
    split_ifs at h
    obtain ⟨⟨_, optional⟩, -, h⟩ := Outcome.bind_eq_ok_iff.1 h
    obtain ⟨⟨name, _⟩, hbson, h⟩ := Outcome.bind_eq_ok_iff.1 h
    cases h
    exact ⟨json, bson, more, hfound, name_of_readValue hbson⟩
  · cases h

theorem mem_of_stripMarks (h : c ∈ stripMarks text) : c ∈ text := by
  unfold stripMarks at h
  rw [List.mem_reverse] at h
  have hinner := List.mem_reverse.1 ((List.dropWhile_sublist _).subset h)
  exact (List.dropWhile_sublist _).subset hinner

end FieldTag

namespace StructBody

open FieldTag

variable {body : String} {field : FieldDescriptor}

/-- The tag gives a field its name: the value of its second pair up to a comma. -/
def NamedBy (name : String) (tag : Token) : Prop :=
  tag.kind = .tag ∧ ∃ json bson more,
    pairs (stripMarks tag.value.toList) = .ok (json :: bson :: more) ∧
      name.toList = bson.value.takeWhile (· != ',')

theorem NamedBy.mem {name : String} {tag : Token} {c : Char} (h : NamedBy name tag)
    (hc : c ∈ name.toList) : c ∈ tag.value.toList := by
  obtain ⟨-, json, bson, more, hpairs, hname⟩ := h
  rw [hname] at hc
  have hvalue := (List.takeWhile_sublist _).subset hc
  exact mem_of_stripMarks (mem_of_pairs hpairs (by simp) hvalue)

/-- The fields of a body are those that its statements declare. -/
theorem exists_statement (h : field ∈ (read body).fields) :
    ∃ statement ∈ Token.statements (Token.scan body), FieldLine.read statement = .ok field := by
  unfold read ofReadings taggedStatements at h
  dsimp only at h
  obtain ⟨reading, hr, hfield⟩ := List.mem_filterMap.1 h
  obtain ⟨statement, hs, rfl⟩ := List.mem_map.1 hr
  refine ⟨statement, (List.mem_filter.1 hs).1, ?_⟩
  rw [← FieldLine.examine_eq_ok_iff]
  split at hfield
  · rename_i found hfound
    rw [hfound, Option.some.inj hfield]
  · cases hfield

theorem mem_scan_of_mem {statement : List Token} {token : Token}
    (hs : statement ∈ Token.statements (Token.scan body)) (ht : token ∈ statement) :
    token ∈ Token.scan body := by
  have hm := List.mem_flatten.2 ⟨statement, hs, ht⟩
  rw [Token.flatten_statements] at hm
  exact (List.mem_filter.1 hm).1

/-- Every field is named by a tag of the body. -/
theorem exists_namedBy (h : field ∈ (read body).fields) :
    (∃ tag ∈ Token.scan body, NamedBy field.name tag) ∧
      FieldTag.isTagName field.name.toList = true := by
  obtain ⟨statement, hs, hread⟩ := exists_statement h
  obtain ⟨name, types, type, tag, said, rfl, -, -, -, htag, -, hsaid, rfl⟩ :=
    FieldLine.read_eq_ok_iff.1 hread
  obtain ⟨json, bson, more, hpairs, hname, htagName⟩ := FieldTag.exists_of_read hsaid
  have hmem : tag ∈ Token.scan body := mem_scan_of_mem hs (by simp)
  exact ⟨⟨tag, hmem, htag, json, bson, more, hpairs, hname⟩, htagName⟩

/-- Where no tag holds a line feed, fields are named by words. -/
theorem isName_of_mem_fields
    (htags : ∀ token ∈ Token.scan body, token.kind = .tag → '\n' ∉ token.value.toList)
    (h : field ∈ (read body).fields) : FieldTag.IsName field.name.toList := by
  obtain ⟨⟨tag, hmem, hnamed⟩, htagName⟩ := exists_namedBy h
  rw [FieldTag.isName_iff htagName]
  exact fun hfeed => htags tag hmem hnamed.1 (hnamed.mem hfeed)

end StructBody

end StructSchema
