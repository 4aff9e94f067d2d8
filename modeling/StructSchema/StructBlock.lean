import StructSchema.Text.Blank
import StructSchema.Text.Word

/-!
# Struct declarations in a source text

A declaration is the word `type`, a name, the word `struct` and a body between braces; the body
ends at the first closing brace. The search for all declarations takes them from left to right and
goes on behind the closing brace of each; every declaration takes some text,
`length_lt_of_blockAt?`, which bounds the search. The search for the first one stops at it:
`first?_eq_head?`.
-/

namespace StructSchema

/-- A declaration: its name and the text between its braces. -/
structure StructBlock where
  name : String
  body : String
  deriving DecidableEq, Repr

namespace StructBlock

/-- The text after the white space at its start, of which there must be some. -/
def dropBlanks? : List Char → Option (List Char)
  | [] => none
  | c :: rest => if Text.isBlank c then some (Text.trimLeft rest) else none

/-- Reads a header at the start of a text: the name, and the text after the opening brace. -/
def headerAt? (text : List Char) : Option (List Char × List Char) := do
  let afterType ← Text.dropWord? "type".toList text
  let atName ← dropBlanks? afterType
  let name := atName.takeWhile Text.isWordChar
  if name.isEmpty then none
  let atStruct ← dropBlanks? (atName.dropWhile Text.isWordChar)
  let afterStruct ← Text.dropWord? "struct".toList atStruct
  match Text.trimLeft afterStruct with
  | '\x7b' :: body => some (name, body)
  | _ => none

/-- Reads a declaration at the start of a text, and the text after it. -/
def blockAt? (text : List Char) : Option (StructBlock × List Char) := do
  let (name, inside) ← headerAt? text
  match inside.dropWhile (· != '\x7d') with
  | [] => none
  | _ :: after =>
    some (⟨String.ofList name, String.ofList (inside.takeWhile (· != '\x7d'))⟩, after)

theorem length_le_of_dropBlanks? {text rest : List Char} (h : dropBlanks? text = some rest) :
    rest.length ≤ text.length := by
  cases text with
  | nil => simp [dropBlanks?] at h
  | cons c text =>
    simp only [dropBlanks?] at h
    split at h
    · obtain rfl := Option.some.inj h
      exact Nat.le_succ_of_le (Text.length_trimLeft_le text)
    · simp at h

theorem length_lt_of_headerAt? {text name inside : List Char}
    (h : headerAt? text = some (name, inside)) : inside.length < text.length := by
  simp only [headerAt?, Option.bind_eq_bind, Option.bind_eq_some_iff] at h
  obtain ⟨afterType, h₁, atName, h₂, h⟩ := h
  split at h
  · simp at h
  · simp only [Option.bind_eq_some_iff] at h
    obtain ⟨atStruct, h₃, afterStruct, h₄, h⟩ := h
    split at h
    · rename_i body hb
      simp only [Option.some.injEq, Prod.mk.injEq] at h
      obtain ⟨_, rfl⟩ := h
      have l₁ := Text.length_le_of_dropWord? h₁
      have l₂ := length_le_of_dropBlanks? h₂
      have l₃ := length_le_of_dropBlanks? h₃
      have l₄ := Text.length_le_of_dropWord? h₄
      have l₅ := Text.length_trimLeft_le afterStruct
      have l₆ : (atName.dropWhile Text.isWordChar).length ≤ atName.length :=
        (List.dropWhile_sublist _).length_le
      rw [hb, List.length_cons] at l₅
      omega
    · simp at h

/-- A declaration takes some of the text. -/
theorem length_lt_of_blockAt? {text after : List Char} {block : StructBlock}
    (h : blockAt? text = some (block, after)) : after.length < text.length := by
  simp only [blockAt?, Option.bind_eq_bind, Option.bind_eq_some_iff] at h
  obtain ⟨⟨name, inside⟩, hh, h⟩ := h
  have hl := length_lt_of_headerAt? hh
  have hd : (inside.dropWhile (· != '\x7d')).length ≤ inside.length :=
    (List.dropWhile_sublist _).length_le
  simp only at h
  split at h
  · simp at h
  · rename_i c rest hr
    simp only [Option.some.injEq, Prod.mk.injEq] at h
    obtain ⟨_, rfl⟩ := h
    rw [hr, List.length_cons] at hd
    omega

/-- The declarations of a text; `inWord` tells whether a word character stands before it. -/
def blocksIn (inWord : Bool) : List Char → List StructBlock
  | [] => []
  | c :: rest =>
    match _ : if inWord then none else blockAt? (c :: rest) with
    | some (block, after) => block :: blocksIn false after
    | none => blocksIn (Text.isWordChar c) rest
termination_by text => text.length
decreasing_by
  · rename_i h
    split at h
    · simp at h
    · exact length_lt_of_blockAt? h
  · simp

/-- The declarations of a source text. -/
def all (source : String) : List StructBlock := blocksIn false source.toList

/-- The first declaration of a text; `inWord` tells whether a word character stands before it. -/
def firstIn? (inWord : Bool) : List Char → Option StructBlock
  | [] => none
  | c :: rest =>
    match if inWord then none else blockAt? (c :: rest) with
    | some (block, _) => some block
    | none => firstIn? (Text.isWordChar c) rest

/-- The first declaration of a source text. -/
def first? (source : String) : Option StructBlock := firstIn? false source.toList

/-- The declarations to convert: all of them, or the first alone. -/
def select (source : String) (everyOne : Bool) : List StructBlock :=
  if everyOne then all source else (first? source).toList

theorem firstIn?_eq_head? (inWord : Bool) (text : List Char) :
    firstIn? inWord text = (blocksIn inWord text).head? := by
  induction text generalizing inWord with
  | nil => rw [firstIn?, blocksIn, List.head?_nil]
  | cons c rest ih =>
    rw [firstIn?, blocksIn]
    split
    · rename_i block after hfound
      split
      · rename_i block' after' hfound'
        rw [hfound] at hfound'
        cases hfound'
        rfl
      · rename_i hnone
        rw [hfound] at hnone
        cases hnone
    · rename_i hnone
      split
      · rename_i hfound
        rw [hnone] at hfound
        cases hfound
      · exact ih (Text.isWordChar c)

/-- The search for one declaration finds the first of all of them. -/
theorem first?_eq_head? (source : String) : first? source = (all source).head? :=
  firstIn?_eq_head? false source.toList

theorem select_eq (source : String) (everyOne : Bool) :
    select source everyOne = if everyOne then all source else (all source).head?.toList := by
  rw [select, first?_eq_head?]

/-- The first declaration alone is the beginning of all of them. -/
theorem select_false (source : String) : select source false = (select source true).take 1 := by
  rw [select_eq, select_eq, if_neg (by decide), if_pos rfl]
  cases all source <;> rfl

end StructBlock

end StructSchema
