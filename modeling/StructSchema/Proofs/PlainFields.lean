import StructSchema.Generator.Nest
import StructSchema.Proofs.CharClasses
import StructSchema.Proofs.DistinctKeys
import StructSchema.Proofs.FieldPlacement
import StructSchema.Proofs.SchemaText

/-!
# Plain fields

A field is plain if its name and its source type are words, and its types and options hold word
characters and dots alone. The standard rules and a type table of such targets make a plain field of
a declared field of words: `SchemaField.isPlain_ofDescriptor`. The lines of its property are spelled
out in `SchemaField.memberLines`, and they are tidy: `SchemaField.IsPlain.isTidyLine`.
-/

namespace StructSchema

open Text

/-! ## Texts on one line -/

/-- A text of word characters and dots. -/
def Text.IsDotted (text : String) : Prop := ∀ c ∈ text.toList, isWordChar c ∨ c = '.'

theorem Text.isOneLine_of_word {text : String} (h : IsDotted text) : IsOneLine text := by
  intro hm
  rcases h _ hm with hc | hc
  · exact absurd hc (by decide)
  · cases hc

theorem Text.isDotted_of_all {text : String}
    (h : (text.toList.all fun c => isWordChar c || c == '.') = true) : IsDotted text := by
  intro c hc
  simpa using List.all_eq_true.1 h c hc

/-- The target types of the primitive types are words. -/
theorem TypeTable.isDotted_of_primitive {source target : String}
    (h : primitive.get? source = some target) : IsDotted target := by
  have hall : (primitive.entries.all fun entry =>
      entry.2.toList.all fun c => isWordChar c || c == '.') = true := rfl
  exact isDotted_of_all (List.all_eq_true.1 hall _ (Dictionary.mem_of_get? h))

theorem Text.endsInInk_of_word {text : String} (hne : text ≠ "")
    (h : ∀ c ∈ text.toList, isWordChar c) : EndsInInk text := by
  cases hlast : text.toList.getLast? with
  | none => exact absurd (String.toList_inj.1 (List.getLast?_eq_none_iff.1 hlast)) hne
  | some c =>
    exact ⟨c, hlast, isBlank_eq_false_of_isWordChar (h c (List.mem_of_getLast? hlast))⟩

/-- Escaping a text adds nothing but backslashes. -/
theorem PropertyKey.mem_of_mem_escape {text : List Char} {c : Char} (h : c ∈ escape text) :
    c ∈ text ∨ c = '\\' := by
  induction text with
  | nil => cases h
  | cons d text ih =>
    unfold escape at h
    split at h
    · rcases List.mem_cons.1 h with rfl | h
      · exact .inr rfl
      · rcases List.mem_cons.1 h with rfl | h
        · exact .inl List.mem_cons_self
        · exact (ih h).imp_left (List.mem_cons_of_mem d)
    · rcases List.mem_cons.1 h with rfl | h
      · exact .inl List.mem_cons_self
      · exact (ih h).imp_left (List.mem_cons_of_mem d)

/-- A key holds the characters of its name, quotes and backslashes. -/
theorem PropertyKey.mem_of_mem_ofName {name : String} {c : Char} (h : c ∈ (ofName name).toList) :
    c ∈ name.toList ∨ c = '\\' ∨ c = '\'' := by
  unfold ofName ofNameList at h
  rw [String.toList_ofList] at h
  split at h
  · exact .inl h
  · simp only [List.mem_cons, List.mem_append, List.not_mem_nil, or_false] at h
    rcases h with h | h | h
    · exact .inr (.inr h)
    · exact (mem_of_mem_escape h).imp_right .inl
    · exact .inr (.inr h)

theorem PropertyKey.isOneLine_ofName {name : String} (h : IsOneLine name) :
    IsOneLine (ofName name) := by
  intro hm
  rcases mem_of_mem_ofName hm with hm | hm | hm
  · exact h hm
  · cases hm
  · cases hm

namespace Nest

/-- An indentation is made of spaces. -/
theorem eq_space_of_mem_indentation {setting : Value} {indent : String}
    (h : indentation setting = .ok indent) : ∀ c ∈ indent.toList, c = ' ' := by
  unfold indentation at h
  split at h
  · cases h
  · split at h
    · cases h
    · split at h
      · cases h
      · cases h
        intro c hc
        rw [String.toList_ofList] at hc
        exact List.eq_of_mem_replicate hc

theorem isOneLine_indentation {setting : Value} {indent : String}
    (h : indentation setting = .ok indent) : IsOneLine indent :=
  fun hm => absurd (eq_space_of_mem_indentation h _ hm) (by decide)

/-- The decorator of a member, with its options one after the other. -/
theorem decorator_eq (indent schemaType : String) (options : List (String × String)) :
    indent ++ "@Prop(" ++ SchemaFile.objectLiteral
        (("type", typeExpression schemaType) :: options) ++ ")" =
      indent ++ "@Prop(\x7b type: mongoose.Schema.Types." ++ schemaType
        ++ String.join (options.map fun (name, value) => ", " ++ (name ++ ": " ++ value))
        ++ " \x7d)" := by
  have hopen : "@Prop(\x7b type: mongoose.Schema.Types." =
      "@Prop(" ++ "\x7b " ++ "type" ++ ": " ++ "mongoose.Schema.Types." := rfl
  have hclose : " \x7d)" = " \x7d" ++ ")" := rfl
  rw [SchemaFile.objectLiteral_cons, hopen, hclose]
  unfold typeExpression
  simp only [String.append_assoc]

/-- A source type is told in a comment. -/
theorem propertyComment_of_sourceType {field : SchemaField} {sourceType : String}
    (h : field.sourceType = some sourceType) (hne : sourceType ≠ "") :
    propertyComment field = some ("source type: " ++ sourceType) := by
  unfold propertyComment
  split
  · rename_i hempty
    exact absurd (Option.some.inj (h.symm.trans hempty)) hne
  · rename_i hnone
    rw [h] at hnone
    cases hnone
  · rename_i hname
    rw [Option.some.inj (h.symm.trans hname)]

end Nest

namespace SchemaField

variable {field : SchemaField} {declared : FieldDescriptor} {types : TypeTable}
  {sourceType indent : String}

/-! ## The member of a field -/

/-- The options of the member of a field, behind its type. -/
def memberOptions (field : SchemaField) : List (String × String) :=
  (if field.required then [("required", "true")] else []) ++ field.options

/-- The lines of the member of a field that has a source type. -/
def memberLines (commented : Bool) (indent : String) (field : SchemaField) (sourceType : String) :
    List String :=
  (if commented then [indent ++ "// source type: " ++ sourceType] else [])
    ++ [indent ++ "@Prop(\x7b type: mongoose.Schema.Types." ++ field.schemaType
        ++ String.join (field.memberOptions.map fun (name, value) =>
          ", " ++ (name ++ ": " ++ value)) ++ " \x7d)",
      indent ++ PropertyKey.ofName field.name ++ ": " ++ field.tsType ++ ";"]

/-- The lines of the property of a field are those of its member. -/
theorem propertyLines_property (commented : Bool) (indent : String)
    (h : field.sourceType = some sourceType) (hne : sourceType ≠ "") :
    SchemaFile.propertyLines indent (Nest.property commented field) =
      field.memberLines commented indent sourceType := by
  have hlines : SchemaFile.propertyLines indent (Nest.property commented field) =
      (if commented then some ("source type: " ++ sourceType) else none).toList.map
          (fun text => indent ++ "// " ++ text)
        ++ [indent ++ "@Prop(" ++ SchemaFile.objectLiteral
            (("type", Nest.typeExpression field.schemaType) :: field.memberOptions) ++ ")",
          indent ++ PropertyKey.ofName field.name ++ ": " ++ field.tsType ++ ";"] := by
    unfold SchemaFile.propertyLines Nest.property
    rw [Nest.propertyComment_of_sourceType h hne]
    rfl
  have hsource : indent ++ "// " ++ ("source type: " ++ sourceType) =
      indent ++ "// source type: " ++ sourceType := by
    have hmark : "// source type: " = "// " ++ "source type: " := rfl
    rw [hmark]
    simp only [String.append_assoc]
  unfold memberLines
  rw [hlines, Nest.decorator_eq]
  cases commented with
  | true => rw [if_pos rfl, if_pos rfl, Option.toList_some, List.map_singleton, hsource]
  | false => rfl

/-! ## Plain fields -/

/-- A field of words, whose types and options hold word characters and dots alone; being required is
told by no option of its own. -/
structure IsPlain (field : SchemaField) : Prop where
  isWordChar_name : ∀ c ∈ field.name.toList, isWordChar c
  sourceType_eq : ∃ sourceType, field.sourceType = some sourceType ∧ sourceType ≠ "" ∧
    ∀ c ∈ sourceType.toList, isWordChar c
  isDotted_schemaType : IsDotted field.schemaType
  isDotted_tsType : IsDotted field.tsType
  isDotted_options : ∀ entry ∈ field.options, IsDotted entry.1 ∧ IsDotted entry.2
  required_not_mem : ∀ entry ∈ field.options, entry.1 ≠ "required"

/-- The standard rules and a type table of such targets make plain fields. -/
theorem isPlain_ofDescriptor
    (htypes : ∀ source target, types.get? source = some target → IsDotted target)
    (hname : ∀ c ∈ declared.name.toList, isWordChar c) (hne : declared.sourceType ≠ "")
    (hsource : ∀ c ∈ declared.sourceType.toList, isWordChar c) :
    (ofDescriptor types OverrideRule.standard declared).IsPlain := by
  have hrules : ∀ rule ∈ OverrideRule.standard, IsDotted rule.template.schemaType ∧
      IsDotted rule.template.tsType ∧
      (∀ entry ∈ rule.template.options, IsDotted entry.1 ∧ IsDotted entry.2) ∧
      ∀ entry ∈ rule.template.options, entry.1 ≠ "required" := by
    intro rule hr
    simp only [OverrideRule.standard, List.mem_cons, List.not_mem_nil, or_false] at hr
    rcases hr with rfl | rfl
    · exact ⟨isDotted_of_all rfl, isDotted_of_all rfl,
        List.forall_mem_singleton.2 ⟨isDotted_of_all rfl, isDotted_of_all rfl⟩,
        List.forall_mem_singleton.2 (by decide)⟩
    · exact ⟨isDotted_of_all rfl, isDotted_of_all rfl,
        List.forall_mem_singleton.2 ⟨isDotted_of_all rfl, isDotted_of_all rfl⟩,
        List.forall_mem_singleton.2 (by decide)⟩
  have hresolve : IsDotted (types.resolve declared.sourceType) := by
    unfold TypeTable.resolve
    cases hg : types.get? declared.sourceType with
    | none => exact fun c hc => .inl (hsource c hc)
    | some target => exact htypes _ target hg
  unfold ofDescriptor
  cases hrule : OverrideRule.first? OverrideRule.standard declared with
  | none => exact ⟨hname, ⟨_, rfl, hne, hsource⟩, hresolve, hresolve, by simp, by simp⟩
  | some rule =>
    obtain ⟨hschema, hts, hoptions, hrequired⟩ := hrules rule (List.mem_of_find?_eq_some hrule)
    exact ⟨hname, ⟨_, rfl, hne, hsource⟩, hschema, hts, hoptions, hrequired⟩

namespace IsPlain

variable (h : field.IsPlain)

include h

theorem isDotted_memberOptions :
    ∀ entry ∈ field.memberOptions, IsDotted entry.1 ∧ IsDotted entry.2 := by
  intro entry he
  rcases List.mem_append.1 he with he | he
  · split at he
    · obtain rfl := List.mem_singleton.1 he
      exact ⟨isDotted_of_all rfl, isDotted_of_all rfl⟩
    · cases he
  · exact h.isDotted_options entry he

/-- The lines of the property of a plain field are tidy. -/
theorem isTidyLine (hindent : IsOneLine indent) {commented : Bool} {line : String}
    (hl : line ∈ SchemaFile.propertyLines indent (Nest.property commented field)) :
    IsTidyLine line := by
  obtain ⟨sourceType, hsource, hne, hword⟩ := h.sourceType_eq
  have hname : IsOneLine field.name := isOneLine_of_word fun c hc => .inl (h.isWordChar_name c hc)
  rw [propertyLines_property commented indent hsource hne] at hl
  rcases List.mem_append.1 hl with hl | hl
  · split at hl
    · obtain rfl := List.mem_singleton.1 hl
      exact ⟨.append (endsInInk_of_word hne hword) _, .append (.append hindent (by decide))
        (isOneLine_of_word fun c hc => .inl (hword c hc))⟩
    · cases hl
  · simp only [List.mem_cons, List.not_mem_nil, or_false] at hl
    rcases hl with rfl | rfl
    · have hjoin : IsOneLine (String.join (field.memberOptions.map fun (name, value) =>
          ", " ++ (name ++ ": " ++ value))) := by
        refine isOneLine_join fun part hp => ?_
        obtain ⟨entry, he, rfl⟩ := List.mem_map.1 hp
        obtain ⟨hkey, hvalue⟩ := h.isDotted_memberOptions entry he
        exact IsOneLine.append (by decide) (((isOneLine_of_word hkey).append (by decide)).append
          (isOneLine_of_word hvalue))
      refine ⟨.append ⟨')', rfl, rfl⟩ _, ?_⟩
      exact (((hindent.append (by decide)).append
        (isOneLine_of_word h.isDotted_schemaType)).append hjoin).append (by decide)
    · refine ⟨.append ⟨';', rfl, rfl⟩ _, ?_⟩
      exact (((hindent.append (PropertyKey.isOneLine_ofName hname)).append
        (by decide)).append (isOneLine_of_word h.isDotted_tsType)).append
        (by decide)

end IsPlain

end SchemaField

end StructSchema
