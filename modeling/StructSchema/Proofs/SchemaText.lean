import StructSchema.Proofs.TidyLines
import StructSchema.SchemaFile

/-!
# The text of a schema file

The properties of a schema file are groups of lines with an empty line between each two of them:
`propertiesLines_eq_intercalate`. Where the lines of the properties are tidy, tidying the file
leaves them alone and works on what stands in front of them and behind them: `tidy_text`. Where the
rest of the file is tidy as well, nothing changes: `IsTidy.tidy_text_eq`.
-/

namespace StructSchema.SchemaFile

open Text

/-- An object literal is its first entry and the others, each behind a comma. -/
theorem objectLiteral_cons (first : String × String) (rest : List (String × String)) :
    objectLiteral (first :: rest) = "\x7b " ++ (first.1 ++ ": " ++ first.2)
      ++ String.join (rest.map fun (name, value) => ", " ++ (name ++ ": " ++ value))
      ++ " \x7d" := by
  have hjoin : ∀ (first : String) (rest : List String),
      String.intercalate ", " (first :: rest) = first ++ String.join (rest.map (", " ++ ·)) := by
    intro first rest
    rw [← String.toList_inj, String.toList_intercalate, String.toList_append, String.toList_join,
      List.flatMap_map]
    induction rest generalizing first with
    | nil => simp
    | cons next rest ih =>
      rw [List.map_cons, List.map_cons, List.intercalate_cons_cons, ← List.map_cons, ih,
        List.flatMap_cons]
      simp
  unfold objectLiteral
  rw [List.isEmpty_cons, if_neg (by decide), List.map_cons, hjoin, List.map_map,
    String.append_assoc]
  rfl

theorem propertiesLines_eq_intercalate (indent : String)
    (properties : List SchemaProperty) :
    propertiesLines indent properties =
      [""].intercalate (properties.map (propertyLines indent)) := by
  induction properties with
  | nil => rfl
  | cons property properties ih =>
    cases properties with
    | nil => exact List.intercalate_singleton.symm
    | cons next properties =>
      rw [List.map_cons, List.map_cons, List.intercalate_cons_cons, ← List.map_cons, ← ih,
        List.append_assoc]
      rfl

/-- The lines in front of the properties. -/
def opening (file : SchemaFile) : List String :=
  importLines ++ [""]
    ++ file.description.toList.map (comment "//")
    ++ ["@Schema(\x7b"]
    ++ file.options.flatMap (optionLines file.indent)
    ++ ["\x7d)", "class " ++ file.className ++ " \x7b"]

/-- The lines behind the properties of a class. -/
def closing (className : String) : List String :=
  ["\x7d", "",
    "export type " ++ className ++ "Document = HydratedDocument<" ++ className ++ ">;", "",
    "const " ++ className ++ "Schema = SchemaFactory.createForClass(" ++ className ++ ");", "",
    "export \x7b " ++ className ++ "Schema, " ++ className ++ " \x7d;"]

/-- The lines of a file. -/
theorem lines_eq (file : SchemaFile) : file.lines =
    file.opening ++ ([""].intercalate (file.properties.map (propertyLines file.indent))
      ++ closing file.className) := by
  rw [← propertiesLines_eq_intercalate]
  unfold lines opening closing
  simp only [List.append_assoc]

/-- Tidying a file tidies what stands in front of the properties apart from the rest. -/
theorem tidy_text_eq_unlines (file : SchemaFile) :
    tidy file.text = unlines (tidied file.opening
      ++ tidied ([""].intercalate (file.properties.map (propertyLines file.indent))
        ++ closing file.className)) := by
  obtain ⟨front, hfront⟩ :
      ∃ front, file.opening = front ++ ["class " ++ file.className ++ " \x7b"] :=
    ⟨_, List.append_cons _ _ _⟩
  have hclass : EndsInInk ("class " ++ file.className ++ " \x7b") :=
    .append ⟨'\x7b', rfl, rfl⟩ _
  have hlast :
      EndsInInk ("export \x7b " ++ file.className ++ "Schema, " ++ file.className ++ " \x7d;") :=
    .append ⟨';', rfl, rfl⟩ _
  show tidy (unlines file.lines) = _
  have hhead : ∃ first ∈ file.lines.head?, IsTidyLine first := by
    exact ⟨"import \x7b Prop, Schema, SchemaFactory \x7d from '@nestjs/mongoose';", rfl,
      ⟨';', rfl, rfl⟩, by decide⟩
  have hend : ∃ last ∈ file.lines.getLast?, EndsInInk last := by
    rw [file.lines_eq, List.getLast?_append, List.getLast?_append]
    exact ⟨_, rfl, hlast⟩
  rw [tidy_unlines hhead hend, file.lines_eq, hfront, tidied_append hclass]

/-- Tidying a file leaves tidy properties alone. -/
theorem tidy_text (file : SchemaFile) (h : ∀ property ∈ file.properties,
      ∀ line ∈ propertyLines file.indent property, IsTidyLine line) :
    tidy file.text = unlines (tidied file.opening
      ++ [""].intercalate (file.properties.map (propertyLines file.indent))
      ++ tidied (closing file.className)) := by
  have hgroups : ∀ group ∈ file.properties.map (propertyLines file.indent),
      group ≠ [] ∧ ∀ line ∈ group, IsTidyLine line := by
    intro group hg
    obtain ⟨property, hp, rfl⟩ := List.mem_map.1 hg
    exact ⟨by simp [propertyLines], h property hp⟩
  rw [tidy_text_eq_unlines, tidied_intercalate hgroups, List.append_assoc]

/-! ## Files that tidying leaves alone -/

theorem comment_of_isTidyLine {text : String} (h : IsTidyLine text) :
    comment "//" text = "// " ++ text := by
  obtain ⟨front, c, htext, hc⟩ := h.endsInInk.exists_concat
  have hink : isAllBlank text.toList = false := by
    unfold isAllBlank
    rw [htext, List.all_append, List.all_cons, hc, Bool.false_and, Bool.and_false]
  unfold comment
  dsimp only
  rw [h.isOneLine.cut_eq, List.map_singleton, if_neg (by simp [hink]), ← String.toList_inj,
    String.toList_ofList, String.toList_append]
  rfl

/-- The texts of a class option. -/
def optionTexts : ClassOption String → List String
  | .plain value => [value]
  | .group entries => entries.flatMap fun (key, value) => [key, value]

theorem isTidyLine_of_mem_optionLines {indent key line : String} {option : ClassOption String}
    (hindent : IsOneLine indent) (hkey : IsOneLine key)
    (hoption : ∀ text ∈ optionTexts option, IsOneLine text)
    (hl : line ∈ optionLines indent (key, option)) : IsTidyLine line := by
  cases option with
  | plain value =>
    obtain rfl := List.mem_singleton.1 hl
    refine ⟨.append ⟨',', rfl, rfl⟩ _, ?_⟩
    exact (((hindent.append hkey).append (by decide)).append
      (hoption value (by simp [optionTexts]))).append (by decide)
  | group entries =>
    simp only [optionLines, List.mem_append, List.mem_singleton, List.mem_map] at hl
    rcases hl with (rfl | ⟨entry, hentry, rfl⟩) | rfl
    · exact ⟨.append ⟨'\x7b', rfl, rfl⟩ _,
        (hindent.append hkey).append (by decide)⟩
    · have hname : IsOneLine entry.1 :=
        hoption _ (List.mem_flatMap.2 ⟨entry, hentry, by simp⟩)
      have hvalue : IsOneLine entry.2 :=
        hoption _ (List.mem_flatMap.2 ⟨entry, hentry, by simp⟩)
      refine ⟨.append ⟨',', rfl, rfl⟩ _, ?_⟩
      exact ((((hindent.append hindent).append hname).append (by decide)).append
        hvalue).append (by decide)
    · exact ⟨.append ⟨',', rfl, rfl⟩ _, hindent.append (by decide)⟩

/-- What a file holds is on one line each, its description is tidy, and so are the lines of its
properties. -/
structure IsTidy (file : SchemaFile) : Prop where
  indent : IsOneLine file.indent
  className : IsOneLine file.className
  description : ∀ text ∈ file.description, IsTidyLine text
  options : ∀ option ∈ file.options, IsOneLine option.1 ∧
    ∀ text ∈ optionTexts option.2, IsOneLine text
  properties : ∀ property ∈ file.properties, ∀ line ∈ propertyLines file.indent property,
    IsTidyLine line

theorem tidied_of_groups {groups : List (List String)}
    (h : ∀ group ∈ groups, group ≠ [] ∧ ∀ line ∈ group, IsTidyLine line) :
    tidied ([""].intercalate groups) = [""].intercalate groups := by
  have hgroups := tidied_intercalate h []
  have hnone : tidied [] = [] := rfl
  rwa [hnone, List.append_nil] at hgroups

namespace IsTidy

variable {file : SchemaFile} (h : file.IsTidy)

include h

theorem tidied_opening : tidied file.opening = file.opening := by
  have himports : ∀ line ∈ importLines, IsTidyLine line := by
    intro line hl
    simp only [importLines, List.mem_cons, List.not_mem_nil, or_false] at hl
    rcases hl with rfl | rfl | rfl
    · exact ⟨⟨';', rfl, rfl⟩, by decide⟩
    · exact ⟨⟨';', rfl, rfl⟩, by decide⟩
    · exact ⟨⟨';', rfl, rfl⟩, by decide⟩
  have hrest : ∀ line ∈ file.description.toList.map (comment "//") ++ ["@Schema(\x7b"]
      ++ file.options.flatMap (optionLines file.indent)
      ++ ["\x7d)", "class " ++ file.className ++ " \x7b"], IsTidyLine line := by
    intro line hl
    simp only [List.mem_append, List.mem_map, Option.mem_toList, List.mem_flatMap, List.mem_cons,
      List.not_mem_nil, or_false] at hl
    rcases hl with ((⟨text, htext, rfl⟩ | rfl) | ⟨option, hoption, hl⟩) | rfl | rfl
    · have ht := h.description text htext
      rw [comment_of_isTidyLine ht]
      exact ⟨ht.endsInInk.append _, .append (by decide) ht.isOneLine⟩
    · exact ⟨⟨'\x7b', rfl, rfl⟩, by decide⟩
    · obtain ⟨hkey, htexts⟩ := h.options option hoption
      exact isTidyLine_of_mem_optionLines h.indent hkey htexts hl
    · exact ⟨⟨')', rfl, rfl⟩, by decide⟩
    · exact ⟨.append ⟨'\x7b', rfl, rfl⟩ _,
        .append (.append (by decide) h.className) (by decide)⟩
  have hopening : file.opening = [""].intercalate [importLines,
      file.description.toList.map (comment "//") ++ ["@Schema(\x7b"]
        ++ file.options.flatMap (optionLines file.indent)
        ++ ["\x7d)", "class " ++ file.className ++ " \x7b"]] := by
    rw [List.intercalate_cons_cons, List.intercalate_singleton]
    unfold opening
    simp only [List.append_assoc]
  rw [hopening]
  refine tidied_of_groups fun group hg => ?_
  simp only [List.mem_cons, List.not_mem_nil, or_false] at hg
  rcases hg with rfl | rfl
  · exact ⟨List.cons_ne_nil _ _, himports⟩
  · exact ⟨by simp, hrest⟩

theorem tidied_closing : tidied (closing file.className) = closing file.className := by
  have hclosing : closing file.className = [""].intercalate [["\x7d"],
      ["export type " ++ file.className ++ "Document = HydratedDocument<" ++ file.className
        ++ ">;"],
      ["const " ++ file.className ++ "Schema = SchemaFactory.createForClass(" ++ file.className
        ++ ");"],
      ["export \x7b " ++ file.className ++ "Schema, " ++ file.className ++ " \x7d;"]] := rfl
  have hnamed : ∀ {before between after : String}, IsOneLine before → IsOneLine between →
      IsOneLine after → EndsInInk after →
      IsTidyLine (before ++ file.className ++ between ++ file.className ++ after) :=
    fun hbefore hbetween hafter hink => ⟨hink.append _,
      (((hbefore.append h.className).append hbetween).append h.className).append hafter⟩
  rw [hclosing]
  refine tidied_of_groups fun group hg => ?_
  simp only [List.mem_cons, List.not_mem_nil, or_false] at hg
  rcases hg with rfl | rfl | rfl | rfl
  · exact ⟨List.cons_ne_nil _ _, List.forall_mem_singleton.2 ⟨⟨'\x7d', rfl, rfl⟩, by decide⟩⟩
  · exact ⟨List.cons_ne_nil _ _, List.forall_mem_singleton.2
      (hnamed (by decide) (by decide) (by decide) ⟨';', rfl, rfl⟩)⟩
  · exact ⟨List.cons_ne_nil _ _, List.forall_mem_singleton.2
      (hnamed (by decide) (by decide) (by decide) ⟨';', rfl, rfl⟩)⟩
  · exact ⟨List.cons_ne_nil _ _, List.forall_mem_singleton.2
      (hnamed (by decide) (by decide) (by decide) ⟨';', rfl, rfl⟩)⟩

/-- Tidying leaves a tidy file alone. -/
theorem tidy_text_eq : tidy file.text = file.text := by
  rw [tidy_text file h.properties, h.tidied_opening, h.tidied_closing, List.append_assoc,
    ← file.lines_eq]
  rfl

end IsTidy

end StructSchema.SchemaFile
