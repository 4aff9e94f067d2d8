import Mathlib.Data.Bool.AllAny
import Mathlib.Tactic.NthRewrite
import StructSchema.Proofs.Lexing
import StructSchema.StructBlock

/-!
# Headers and declarations

`StructBlock.IsHeader` says what the header of a declaration is. A header is read exactly where one
stands, `headerAt?_eq_some_iff`, and a declaration exactly where a header stands with a closing
brace somewhere behind it, `blockAt?_eq_some_iff`.
-/

namespace StructSchema

/-- The brace that closes a declaration. -/
abbrev closingBrace : Char := '\x7d'

namespace Text

theorem dropWord?_eq_some_iff {word text rest : List Char} :
    dropWord? word text = some rest ↔ text = word ++ rest := by
  constructor
  · intro h
    unfold dropWord? at h
    split at h
    · rename_i hp
      obtain ⟨more, rfl⟩ := List.isPrefixOf_iff_prefix.1 hp
      rw [List.drop_left] at h
      rw [Option.some.inj h]
    · cases h
  · rintro rfl
    exact dropWord?_append word rest

/-- White space in front of a text is trimmed off. -/
theorem trimLeft_blanks_append {blanks : List Char} (h : ∀ c ∈ blanks, isBlank c)
    (rest : List Char) : trimLeft (blanks ++ rest) = trimLeft rest :=
  List.dropWhile_append_of_pos h

theorem exists_blanks_trimLeft (text : List Char) :
    ∃ blanks, (∀ c ∈ blanks, isBlank c) ∧ text = blanks ++ trimLeft text :=
  ⟨text.takeWhile isBlank, fun _ hc => List.mem_takeWhile_imp hc,
    List.takeWhile_append_dropWhile.symm⟩

theorem trimLeft_of_head? {text : List Char} (h : ∀ c ∈ text.head?, isBlank c = false) :
    trimLeft text = text := by
  cases text with
  | nil => rfl
  | cons c text => exact List.dropWhile_cons_of_neg (by simp [h c rfl])

end Text

namespace StructBlock

variable {name text inside after rest : List Char} {block : StructBlock}

/-! ## The parts of a header -/

/-- Reads the brace that opens the body of a named declaration. -/
def bodyAt? (name text : List Char) : Option (List Char × List Char) :=
  match Text.trimLeft text with
  | '\x7b' :: body => some (name, body)
  | _ => none

/-- Reads the rest of a header behind its name. -/
def structAt? (name text : List Char) : Option (List Char × List Char) :=
  (dropBlanks? text).bind fun atStruct =>
    (Text.dropWord? "struct".toList atStruct).bind (bodyAt? name)

/-- Reads a header from its name on. -/
def nameAt? (text : List Char) : Option (List Char × List Char) :=
  if (text.takeWhile Text.isWordChar).isEmpty then none
  else structAt? (text.takeWhile Text.isWordChar) (text.dropWhile Text.isWordChar)

theorem headerAt?_eq (text : List Char) :
    headerAt? text =
      (Text.dropWord? "type".toList text).bind fun rest => (dropBlanks? rest).bind nameAt? := rfl

/-! ## Headers -/

/-- White space, and some of it. -/
def IsSpace (blanks : List Char) : Prop := blanks ≠ [] ∧ ∀ c ∈ blanks, Text.isBlank c

/-- The header of a declaration of a name: the word `type`, the name and the word `struct` with
white space between them, and an opening brace with or without white space before it. -/
inductive IsHeader (name : List Char) : List Char → Prop where
  | mk {beforeName beforeStruct beforeBrace : List Char} (hname : name ≠ [])
    (hword : ∀ c ∈ name, Text.isWordChar c) (hbeforeName : IsSpace beforeName)
    (hbeforeStruct : IsSpace beforeStruct) (hbeforeBrace : ∀ c ∈ beforeBrace, Text.isBlank c) :
    IsHeader name ("type".toList ++ (beforeName ++ (name ++ (beforeStruct ++
      ("struct".toList ++ (beforeBrace ++ ['\x7b']))))))

theorem dropBlanks?_space_append {blanks : List Char} (h : IsSpace blanks)
    (hrest : ∀ c ∈ rest.head?, Text.isBlank c = false) :
    dropBlanks? (blanks ++ rest) = some rest := by
  obtain ⟨hne, hall⟩ := h
  cases blanks with
  | nil => exact absurd rfl hne
  | cons c blanks =>
    rw [List.forall_mem_cons] at hall
    rw [List.cons_append, dropBlanks?, if_pos hall.1, Text.trimLeft_blanks_append hall.2,
      Text.trimLeft_of_head? hrest]

theorem exists_of_dropBlanks? (h : dropBlanks? text = some rest) :
    ∃ blanks, IsSpace blanks ∧ text = blanks ++ rest := by
  cases text with
  | nil => cases h
  | cons c text =>
    rw [dropBlanks?] at h
    split at h
    · rename_i hc
      obtain rfl := Option.some.inj h
      obtain ⟨blanks, hall, htext⟩ := Text.exists_blanks_trimLeft text
      refine ⟨c :: blanks, ⟨List.cons_ne_nil _ _, List.forall_mem_cons.2 ⟨hc, hall⟩⟩, ?_⟩
      rw [List.cons_append, ← htext]
    · cases h

theorem head?_append_of_word {tail : List Char} (hname : name ≠ [])
    (hword : ∀ c ∈ name, Text.isWordChar c) :
    ∀ c ∈ (name ++ tail).head?, Text.isBlank c = false := by
  cases name with
  | nil => exact absurd rfl hname
  | cons d name =>
    intro c hc
    obtain rfl := Option.some.inj hc
    exact Text.isBlank_eq_false_of_isWordChar (hword d List.mem_cons_self)

theorem IsSpace.head? {blanks tail : List Char} (h : IsSpace blanks) :
    ∀ c ∈ (blanks ++ tail).head?, Text.isWordChar c = false := by
  obtain ⟨hne, hall⟩ := h
  cases blanks with
  | nil => exact absurd rfl hne
  | cons d blanks =>
    intro c hc
    obtain rfl := Option.some.inj hc
    exact Text.isWordChar_eq_false_of_isBlank (hall d List.mem_cons_self)

/-- A header is read, with the text behind it. -/
theorem IsHeader.headerAt?_append {header : List Char} (h : IsHeader name header)
    (inside : List Char) : headerAt? (header ++ inside) = some (name, inside) := by
  cases h with
  | @mk beforeName beforeStruct beforeBrace hname hword hbeforeName hbeforeStruct hbeforeBrace =>
    have hbody : bodyAt? name (beforeBrace ++ '\x7b' :: inside) = some (name, inside) := by
      unfold bodyAt?
      rw [Text.trimLeft_blanks_append hbeforeBrace]
      rfl
    have hstruct : structAt? name (beforeStruct ++ ("struct".toList ++
        (beforeBrace ++ '\x7b' :: inside))) = some (name, inside) := by
      have hhead : ∀ c ∈ ("struct".toList ++ (beforeBrace ++ '\x7b' :: inside)).head?,
          Text.isBlank c = false :=
        head?_append_of_word (by decide) (List.all_iff_forall_prop.1 rfl)
      unfold structAt?
      rw [dropBlanks?_space_append hbeforeStruct hhead, Option.bind_some, Text.dropWord?_append]
      exact hbody
    have hat : nameAt? (name ++ (beforeStruct ++ ("struct".toList ++
        (beforeBrace ++ '\x7b' :: inside)))) = some (name, inside) := by
      unfold nameAt?
      rw [Token.takeWhile_append_of_head? hword hbeforeStruct.head?,
        Token.dropWhile_append_of_head? hword hbeforeStruct.head?, if_neg (by simpa using hname)]
      exact hstruct
    have htext : "type".toList ++ (beforeName ++ (name ++ (beforeStruct ++ ("struct".toList ++
        (beforeBrace ++ ['\x7b']))))) ++ inside = "type".toList ++ (beforeName ++ (name ++
          (beforeStruct ++ ("struct".toList ++ (beforeBrace ++ '\x7b' :: inside))))) := by
      simp only [List.append_assoc, List.singleton_append]
    rw [htext, headerAt?_eq, Text.dropWord?_append, Option.bind_some,
      dropBlanks?_space_append hbeforeName (head?_append_of_word hname hword), Option.bind_some]
    exact hat

theorem exists_of_bodyAt? {found : List Char} (h : bodyAt? name text = some (found, inside)) :
    found = name ∧ ∃ blanks, (∀ c ∈ blanks, Text.isBlank c) ∧ text = blanks ++ '\x7b' :: inside := by
  obtain ⟨blanks, hall, htext⟩ := Text.exists_blanks_trimLeft text
  unfold bodyAt? at h
  split at h
  · rename_i body hbody
    cases h
    rw [hbody] at htext
    exact ⟨rfl, blanks, hall, htext⟩
  · cases h

/-- What is read as a header is one. -/
theorem exists_of_headerAt? (h : headerAt? text = some (name, inside)) :
    ∃ header, IsHeader name header ∧ text = header ++ inside := by
  rw [headerAt?_eq] at h
  obtain ⟨afterType, htype, htail⟩ := Option.bind_eq_some_iff.1 h
  obtain ⟨atName, hatName, hname⟩ := Option.bind_eq_some_iff.1 htail
  obtain ⟨beforeName, hbeforeName, rfl⟩ := exists_of_dropBlanks? hatName
  unfold nameAt? at hname
  split at hname
  · cases hname
  · rename_i hne
    unfold structAt? at hname
    obtain ⟨atStruct, hatStruct, htail⟩ := Option.bind_eq_some_iff.1 hname
    obtain ⟨afterStruct, hstruct, hbody⟩ := Option.bind_eq_some_iff.1 htail
    obtain ⟨beforeStruct, hbeforeStruct, hdrop⟩ := exists_of_dropBlanks? hatStruct
    obtain ⟨rfl, beforeBrace, hbeforeBrace, rfl⟩ := exists_of_bodyAt? hbody
    refine ⟨_, .mk (by simpa using hne) (fun c hc => List.mem_takeWhile_imp hc) hbeforeName
      hbeforeStruct hbeforeBrace, ?_⟩
    have hsplit := List.takeWhile_append_dropWhile (p := Text.isWordChar) (l := atName)
    rw [hdrop, Text.dropWord?_eq_some_iff.1 hstruct] at hsplit
    rw [Text.dropWord?_eq_some_iff.1 htype]
    nth_rewrite 1 [← hsplit]
    simp only [List.append_assoc, List.singleton_append]

/-- A header is read exactly where one stands. -/
theorem headerAt?_eq_some_iff : headerAt? text = some (name, inside) ↔
    ∃ header, IsHeader name header ∧ text = header ++ inside := by
  constructor
  · exact exists_of_headerAt?
  · rintro ⟨header, hheader, rfl⟩
    exact hheader.headerAt?_append inside

/-! ## Declarations -/

theorem blockAt?_append {header : List Char} (hheader : IsHeader block.name.toList header)
    (hbody : closingBrace ∉ block.body.toList) (after : List Char) :
    blockAt? (header ++ (block.body.toList ++ closingBrace :: after)) = some (block, after) := by
  have hopen : ∀ c ∈ block.body.toList, (c != closingBrace) = true := by
    intro c hc
    rw [bne_iff_ne]
    rintro rfl
    exact hbody hc
  have hclose : ∀ c ∈ (closingBrace :: after).head?, (c != closingBrace) = false := by
    intro c hc
    obtain rfl := Option.some.inj hc
    rfl
  unfold blockAt?
  rw [hheader.headerAt?_append]
  simp only [Option.bind_eq_bind, Option.bind_some, Token.takeWhile_append_of_head? hopen hclose,
    Token.dropWhile_append_of_head? hopen hclose, String.ofList_toList]

/-- A declaration is read exactly where a header stands with a closing brace somewhere behind it, and
its body goes up to the first one. -/
theorem blockAt?_eq_some_iff : blockAt? text = some (block, after) ↔
    ∃ header, IsHeader block.name.toList header ∧ closingBrace ∉ block.body.toList ∧
      text = header ++ (block.body.toList ++ closingBrace :: after) := by
  constructor
  · intro h
    unfold blockAt? at h
    obtain ⟨⟨name, inside⟩, hheader, hrest⟩ := Option.bind_eq_some_iff.1 h
    obtain ⟨header, hheader, rfl⟩ := headerAt?_eq_some_iff.1 hheader
    dsimp only at hrest
    split at hrest
    · cases hrest
    · rename_i c after hdrop
      cases hrest
      have hc : c = closingBrace := by
        have := Token.head?_dropWhile_eq_false (· != closingBrace) inside c
        rw [hdrop] at this
        simpa using this rfl
      have hsplit := List.takeWhile_append_dropWhile (p := (· != closingBrace)) (l := inside)
      rw [hdrop, hc] at hsplit
      refine ⟨header, ?_, ?_, ?_⟩
      · rwa [String.toList_ofList]
      · rw [String.toList_ofList]
        intro hm
        simpa using List.mem_takeWhile_imp hm
      · rw [String.toList_ofList, hsplit]
  · rintro ⟨header, hheader, hbody, rfl⟩
    exact blockAt?_append hheader hbody after

/-! ## The search -/

theorem blockAt?_eq_none {text : List Char} (h : headerAt? text = none) : blockAt? text = none := by
  unfold blockAt?
  rw [h]
  rfl

/-- The search passes over a character at which no declaration begins. -/
theorem blocksIn_cons_of_blockAt? {inWord : Bool} {c : Char} {text : List Char}
    (h : inWord = false → blockAt? (c :: text) = none) :
    blocksIn inWord (c :: text) = blocksIn (Text.isWordChar c) text := by
  rw [blocksIn]
  split
  · rename_i found
    cases inWord with
    | true => cases found
    | false =>
      rw [if_neg (by decide), h rfl] at found
      cases found
  · rfl

theorem blocksIn_of_blockAt? {text after : List Char} {block : StructBlock}
    (h : blockAt? text = some (block, after)) :
    blocksIn false text = block :: blocksIn false after := by
  cases text with
  | nil => cases h
  | cons c text =>
    rw [blocksIn]
    split
    · rename_i block' after' hb
      rw [if_neg (by decide), h] at hb
      cases hb
      rfl
    · rename_i hb
      rw [if_neg (by decide), h] at hb
      cases hb

end StructBlock

end StructSchema
