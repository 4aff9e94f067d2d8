import Mathlib
import StructSchema.Proofs.CutBody

/-!
# The search for declarations

A declaration that begins a line is found if no header stands before it: nothing before it can
reach into it. Its body is cut at the first closing brace, so `StructBlock.first?_declaration` says
exactly when nothing of it is lost.
-/

namespace StructSchema

namespace Text

/-- A word without a separator is looked for only before it. -/
theorem dropWord?_append_cons {word : List Char} {mark : Char} (hm : mark ∉ word)
    (text rest : List Char) :
    dropWord? word (text ++ mark :: rest) = (dropWord? word text).map (· ++ mark :: rest) := by
  unfold dropWord?
  by_cases h : word <+: text
  · obtain ⟨more, rfl⟩ := h
    rw [if_pos (by simp), if_pos (by simp)]
    simp
  · have hlong : ¬ word <+: text ++ mark :: rest := by
      intro hp
      have htext : text <+: text ++ mark :: rest := List.prefix_append text (mark :: rest)
      rcases List.prefix_or_prefix_of_prefix hp htext with hp' | hp'
      · exact h hp'
      · obtain ⟨more, rfl⟩ := hp'
        cases more with
        | nil => exact h (by simp)
        | cons c more =>
          have hc := (List.prefix_append_right_inj text).1 hp
          obtain ⟨rfl, -⟩ := List.cons_prefix_cons.1 hc
          exact hm (by simp)
    rw [if_neg (by simpa using hlong), if_neg (by simpa using h)]
    rfl

theorem trimLeft_append_cons (text rest : List Char) {mark : Char} (hm : isBlank mark) :
    trimLeft (text ++ mark :: rest) =
      if isAllBlank text then trimLeft rest else trimLeft text ++ mark :: rest := by
  unfold trimLeft isAllBlank
  rw [List.dropWhile_append]
  by_cases h : text.all isBlank = true
  · rw [if_pos h, if_pos]
    · exact List.dropWhile_cons_of_pos hm
    · rw [List.isEmpty_iff, List.dropWhile_eq_nil_iff]
      simpa using h
  · rw [if_neg h, if_neg]
    rw [List.isEmpty_iff, List.dropWhile_eq_nil_iff]
    simpa using h

end Text

namespace StructBlock

/-! ## Lines behind a header -/

/-- A header that goes on behind its end. -/
def extendHeader (rest : List Char) (header : List Char × List Char) : List Char × List Char :=
  (header.1, header.2 ++ rest)

/-- A text that continues no header begun on an earlier line. -/
structure StartsAnew (text : List Char) : Prop where
  name : nameAt? (Text.trimLeft text) = none
  word : Text.dropWord? "struct".toList (Text.trimLeft text) = none
  body : ∀ name, bodyAt? name text = none

theorem startsAnew_nil : StartsAnew [] := ⟨rfl, rfl, fun _ => rfl⟩

variable {rest : List Char}

theorem isAllBlank_iff {text : List Char} : Text.isAllBlank text ↔ Text.trimLeft text = [] := by
  unfold Text.isAllBlank Text.trimLeft
  rw [List.dropWhile_eq_nil_iff, List.all_eq_true]

theorem dropBlanks?_append_line (text rest : List Char) :
    dropBlanks? (text ++ '\n' :: rest) =
      if Text.isAllBlank text then some (Text.trimLeft rest)
      else (dropBlanks? text).map (· ++ '\n' :: rest) := by
  cases text with
  | nil => rfl
  | cons c text =>
    rw [List.cons_append, dropBlanks?, dropBlanks?, Text.trimLeft_append_cons text rest (by decide)]
    unfold Text.isAllBlank
    rw [List.all_cons]
    cases Text.isBlank c with
    | false => rfl
    | true =>
      cases text.all Text.isBlank with
      | false => rfl
      | true => rfl

/-- Nothing is found behind white space alone. -/
theorem bind_dropBlanks?_of_isAllBlank {text : List Char} (h : Text.isAllBlank text)
    {read : List Char → Option (List Char × List Char)} (hread : read [] = none) :
    (dropBlanks? text).bind read = none := by
  cases text with
  | nil => rfl
  | cons c text =>
    rw [isAllBlank_iff] at h
    have hc : Text.isBlank c = true := List.dropWhile_eq_nil_iff.1 h c List.mem_cons_self
    have ht : Text.trimLeft text = [] := by
      rwa [Text.trimLeft, List.dropWhile_cons_of_pos hc] at h
    rw [dropBlanks?, if_pos hc, ht]
    exact hread

theorem bodyAt?_append_line (hr : StartsAnew rest) (name text : List Char) :
    bodyAt? name (text ++ '\n' :: rest) =
      (bodyAt? name text).map (extendHeader ('\n' :: rest)) := by
  have hbody := hr.body name
  unfold bodyAt? at hbody ⊢
  rw [Text.trimLeft_append_cons text rest (by decide)]
  cases ht : Text.trimLeft text with
  | nil =>
    rw [if_pos (isAllBlank_iff.2 ht), hbody]
    rfl
  | cons c body =>
    rw [if_neg (by rw [isAllBlank_iff, ht]; simp)]
    by_cases hc : c = '\x7b'
    · rw [hc]
      rfl
    · simp [hc]

theorem structAt?_append_line (hr : StartsAnew rest) (name text : List Char) :
    structAt? name (text ++ '\n' :: rest) =
      (structAt? name text).map (extendHeader ('\n' :: rest)) := by
  unfold structAt?
  rw [dropBlanks?_append_line]
  by_cases h : Text.isAllBlank text = true
  · rw [if_pos h, Option.bind_some, hr.word, bind_dropBlanks?_of_isAllBlank h rfl]
    rfl
  · rw [if_neg h]
    cases dropBlanks? text with
    | none => rfl
    | some atStruct =>
      rw [Option.map_some, Option.bind_some, Option.bind_some,
        Text.dropWord?_append_cons (by decide)]
      cases Text.dropWord? "struct".toList atStruct with
      | none => rfl
      | some afterStruct => exact bodyAt?_append_line hr name afterStruct

theorem nameAt?_append_line (hr : StartsAnew rest) (text : List Char) :
    nameAt? (text ++ '\n' :: rest) =
      (nameAt? text).map (extendHeader ('\n' :: rest)) := by
  have htake : (text ++ '\n' :: rest).takeWhile Text.isWordChar =
      text.takeWhile Text.isWordChar := by
    rw [List.takeWhile_append, List.takeWhile_cons_of_neg (by decide), List.append_nil]
    split
    · rename_i h
      exact ((List.takeWhile_prefix _).eq_of_length h).symm
    · rfl
  have hdrop : (text ++ '\n' :: rest).dropWhile Text.isWordChar =
      text.dropWhile Text.isWordChar ++ '\n' :: rest := by
    rw [List.dropWhile_append, List.dropWhile_cons_of_neg (by decide)]
    split
    · rename_i h
      rw [List.isEmpty_iff.1 h]
      rfl
    · rfl
  unfold nameAt?
  rw [htake, hdrop]
  split
  · rfl
  · exact structAt?_append_line hr _ _

/-- What follows a line adds to the body of a header in it, and makes no header. -/
theorem headerAt?_append_line (hr : StartsAnew rest) (text : List Char) :
    headerAt? (text ++ '\n' :: rest) =
      (headerAt? text).map (extendHeader ('\n' :: rest)) := by
  rw [headerAt?_eq, headerAt?_eq, Text.dropWord?_append_cons (by decide)]
  cases Text.dropWord? "type".toList text with
  | none => rfl
  | some text =>
    rw [Option.map_some, Option.bind_some, Option.bind_some, dropBlanks?_append_line]
    by_cases h : Text.isAllBlank text = true
    · rw [if_pos h, Option.bind_some, hr.name, bind_dropBlanks?_of_isAllBlank h rfl]
      rfl
    · rw [if_neg h]
      cases dropBlanks? text with
      | none => rfl
      | some atName => exact nameAt?_append_line hr atName

/-! ## The header of a declaration -/

/-- A declaration up to its opening brace. -/
def header (name : List Char) : List Char := "type ".toList ++ name ++ " struct \x7b".toList

variable {name : List Char}

theorem isHeader_header (hname : name ≠ []) (hword : ∀ c ∈ name, Text.isWordChar c) :
    IsHeader name (header name) := by
  have hblank : ∀ c ∈ [' '], Text.isBlank c := List.all_iff_forall_prop.1 rfl
  have hspace : IsSpace [' '] := ⟨List.cons_ne_nil _ _, hblank⟩
  have htext : header name = "type".toList ++ ([' '] ++ (name ++ ([' '] ++
      ("struct".toList ++ ([' '] ++ ['\x7b']))))) := by
    delta header
    simp
  rw [htext]
  exact .mk hname hword hspace hspace hblank

theorem trimLeft_word_append (hname : name ≠ []) (hword : ∀ c ∈ name, Text.isWordChar c)
    (rest : List Char) : Text.trimLeft (name ++ rest) = name ++ rest :=
  Text.trimLeft_of_head? (head?_append_of_word hname hword)

theorem startsAnew_header (hname : name ≠ []) (hword : ∀ c ∈ name, Text.isWordChar c)
    (inside : List Char) : StartsAnew (header name ++ inside) where
  name := by
    -- The name of the header would be the word `type`, so its own name would have to be `struct`.
    have htext : name ++ " struct \x7b".toList ++ inside =
        name ++ ' ' :: ("struct \x7b".toList ++ inside) := by simp
    show structAt? "type".toList (' ' :: (name ++ " struct \x7b".toList ++ inside)) = none
    unfold structAt?
    rw [dropBlanks?, if_pos (by decide), Option.bind_some, htext, trimLeft_word_append hname hword,
      Text.dropWord?_append_cons (by decide)]
    cases hs : Text.dropWord? "struct".toList name with
    | none => rfl
    | some more =>
      cases more with
      | nil => rfl
      | cons c more =>
        have hc : Text.isWordChar c = true := by
          unfold Text.dropWord? at hs
          split at hs
          · refine hword c ((List.drop_suffix "struct".toList.length name).subset ?_)
            rw [Option.some.inj hs]
            exact List.mem_cons_self
          · cases hs
        show bodyAt? _ (c :: (more ++ _)) = none
        have hbrace : c ≠ '\x7b' := ne_of_class hc (by decide)
        have htrim := trimLeft_word_append (List.cons_ne_nil c []) (by simpa using hc)
          (more ++ ' ' :: ("struct \x7b".toList ++ inside))
        unfold bodyAt?
        rw [List.singleton_append] at htrim
        rw [htrim]
        simp [hbrace]
  word := rfl
  body := fun _ => rfl

/-! ## The search -/

/-- A text in which no header begins; `inWord` tells whether a word character stands before it. -/
def HeaderFree (inWord : Bool) (text : List Char) : Prop :=
  ∀ before rest, text = before ++ rest → (before.getLast?.elim inWord Text.isWordChar) = false →
    headerAt? rest = none

theorem HeaderFree.tail {inWord : Bool} {c : Char} {text : List Char}
    (h : HeaderFree inWord (c :: text)) : HeaderFree (Text.isWordChar c) text := by
  intro before rest htext hb
  refine h (c :: before) rest (by rw [htext]; rfl) ?_
  rw [List.getLast?_cons]
  cases hl : before.getLast? with
  | none => rw [hl] at hb; exact hb
  | some d => rw [hl] at hb; exact hb

theorem blocksIn_cons_of_none {inWord : Bool} {c : Char} {text : List Char}
    (h : inWord = false → headerAt? (c :: text) = none) :
    blocksIn inWord (c :: text) = blocksIn (Text.isWordChar c) text :=
  blocksIn_cons_of_blockAt? fun hw => blockAt?_eq_none (h hw)

/-- A header that begins on a line without headers does not reach behind it either. -/
theorem headerAt?_eq_none_of_line (hr : StartsAnew rest) {text : List Char}
    (h : headerAt? (text ++ ['\n']) = none) : headerAt? (text ++ '\n' :: rest) = none := by
  rw [headerAt?_append_line startsAnew_nil, Option.map_eq_none_iff] at h
  rw [headerAt?_append_line hr, h]
  rfl

/-- The search passes over lines without headers. -/
theorem blocksIn_append_line (hr : StartsAnew rest) {inWord : Bool} {text : List Char}
    (h : HeaderFree inWord (text ++ ['\n'])) :
    blocksIn inWord (text ++ '\n' :: rest) = blocksIn false rest := by
  induction text generalizing inWord with
  | nil => exact blocksIn_cons_of_none fun _ => headerAt?_append_line hr []
  | cons c text ih =>
    have htail : HeaderFree (Text.isWordChar c) (text ++ ['\n']) := h.tail
    rw [List.cons_append, blocksIn_cons_of_none, ih htail]
    rintro rfl
    have hnone : headerAt? (c :: text ++ ['\n']) = none := h [] _ rfl rfl
    exact headerAt?_eq_none_of_line hr hnone

theorem takeWhile_append_brace (body later : List Char) :
    (body ++ closingBrace :: later).takeWhile (· != closingBrace) =
      body.takeWhile (· != closingBrace) := by
  rw [List.takeWhile_append, List.takeWhile_cons_of_neg (by decide), List.append_nil]
  split
  · rename_i h
    exact ((List.takeWhile_prefix _).eq_of_length h).symm
  · rfl

/-- A declaration is a block whose body is cut at the first closing brace. -/
theorem blockAt?_header (hname : name ≠ []) (hword : ∀ c ∈ name, Text.isWordChar c)
    (body later : List Char) : ∃ after, blockAt? (header name ++ (body ++ closingBrace :: later)) =
      some (⟨String.ofList name, String.ofList (body.takeWhile (· != closingBrace))⟩, after) := by
  unfold blockAt?
  rw [(isHeader_header hname hword).headerAt?_append]
  cases hd : (body ++ closingBrace :: later).dropWhile (· != closingBrace) with
  | nil =>
    have := List.dropWhile_eq_nil_iff.1 hd closingBrace (by simp)
    simp at this
  | cons c after =>
    refine ⟨after, ?_⟩
    rw [← takeWhile_append_brace body later]
    simp [hd]

/-- The first block of a source in which a declaration begins a line, with no header before it. -/
theorem first?_of_headerFree {earlier : List Char} (hfree : HeaderFree false earlier)
    (hline : ∀ c ∈ earlier.getLast?, c = '\n') (hname : name ≠ [])
    (hword : ∀ c ∈ name, Text.isWordChar c) (body later : List Char) :
    (blocksIn false (earlier ++ (header name ++ (body ++ closingBrace :: later)))).head? =
      some ⟨String.ofList name, String.ofList (body.takeWhile (· != closingBrace))⟩ := by
  obtain ⟨after, hblock⟩ := blockAt?_header hname hword body later
  rcases List.eq_nil_or_concat earlier with rfl | ⟨text, c, rfl⟩
  · rw [List.nil_append, blocksIn_of_blockAt? hblock]
    rfl
  · obtain rfl : c = '\n' := hline c (by simp)
    rw [List.concat_eq_append] at hfree
    rw [List.concat_eq_append, List.append_assoc, List.singleton_append,
      blocksIn_append_line (startsAnew_header hname hword _) hfree, blocksIn_of_blockAt? hblock]
    rfl

theorem first?_eq {earlier name body : String} (later : String)
    (hfree : HeaderFree false earlier.toList) (hline : ∀ c ∈ earlier.toList.getLast?, c = '\n')
    (hname : name ≠ "") (hword : ∀ c ∈ name.toList, Text.isWordChar c) :
    first? (earlier ++ "type " ++ name ++ " struct \x7b" ++ body ++ "\x7d" ++ later) =
      some ⟨name, StructBody.cut body⟩ := by
  have hsource : (earlier ++ "type " ++ name ++ " struct \x7b" ++ body ++ "\x7d" ++ later).toList =
      earlier.toList ++ (header name.toList ++
        (body.toList ++ closingBrace :: later.toList)) := by
    delta header
    simp
  rw [first?_eq_head?]
  unfold all
  rw [hsource, first?_of_headerFree hfree hline (by simpa using hname) hword, String.ofList_toList]
  rfl

/-- **A declaration between other text.** A declaration that begins a line, with no header before
it, is the first block of its source; its body has no closing brace but in tags, comments and
strings. The block says what the body says exactly if what is cut inside the lexeme with the first
closing brace says the same. -/
theorem first?_declaration {earlier name body : String} (later : String)
    (hfree : HeaderFree false earlier.toList) (hline : ∀ c ∈ earlier.toList.getLast?, c = '\n')
    (hname : name ≠ "") (hword : ∀ c ∈ name.toList, Text.isWordChar c)
    (hbody : ∀ token ∈ Token.scan body, token.kind = .punct → token.value ≠ "\x7d") :
    ∃ block,
      first? (earlier ++ "type " ++ name ++ " struct \x7b" ++ body ++ "\x7d" ++ later) =
        some block ∧
      block.name = name ∧
      (StructBody.read block.body = StructBody.read body ↔ ∀ before x after,
        Token.lexemes body.toList = before ++ x :: after →
          (∀ y ∈ before, closingBrace ∉ y.text) → closingBrace ∈ x.text →
            StructBody.SaysSame before x after) :=
  ⟨_, first?_eq later hfree hline hname hword, rfl, StructBody.read_cut_iff hbody⟩

theorem headerFree_of_tails {text : List Char} (h : ∀ rest ∈ text.tails, headerAt? rest = none)
    (inWord : Bool) : HeaderFree inWord text := by
  rintro before rest rfl -
  exact h rest ((List.mem_tails _ _).2 (List.suffix_append before rest))

/-- A statement whose tag holds the brace is lost. -/
theorem first?_declaration_braced_tag :
    ∃ block, first? ("// users\n" ++ "type " ++ "User" ++ " struct \x7b" ++ "A b `\x7d`\n" ++ "\x7d"
        ++ "\n") = some block ∧ block.name = "User" ∧
      StructBody.read block.body ≠ StructBody.read "A b `\x7d`\n" := by
  have hfree : HeaderFree false "// users\n".toList := headerFree_of_tails (by decide +kernel) false
  have hlexemes : Token.lexemes "A b `\x7d`\n".toList =
      [⟨.ident, ['A']⟩, ⟨.blank, [' ']⟩, ⟨.ident, ['b']⟩, ⟨.blank, [' ']⟩] ++
        ⟨.tag, ['`', closingBrace, '`']⟩ :: [⟨.lineFeed, ['\n']⟩] := by cbv
  have hbody : ∀ token ∈ Token.scan "A b `\x7d`\n", token.kind = .punct →
      token.value ≠ "\x7d" := by
    unfold Token.scan
    rw [hlexemes]
    decide
  have hname : "User" ≠ "" := by decide
  obtain ⟨block, hfirst, hblock, hiff⟩ :=
    first?_declaration "\n" hfree (fun c hc => (Option.some.inj hc).symm) hname
      (List.all_iff_forall_prop.1 rfl) hbody
  refine ⟨block, hfirst, hblock, fun hread => ?_⟩
  rcases hiff.1 hread _ _ _ hlexemes (by decide) (by decide) with ⟨hk, -⟩ | ⟨hk, -⟩
  · cases hk
  · cases hk

/-- Two declared fields are lost, without an issue, because the tag of the first holds a brace. -/
theorem fields_lost_at_brace_in_tag :
    ∃ block,
      first? ("" ++ "type " ++ "User" ++ " struct \x7b" ++
        ("\nCode string `json:\"code\" bson:\"code\" validate:\"len\x7b3\x7d\"`" ++
          "\nName string `json:\"name\" bson:\"name\"`\n") ++ "\x7d" ++ "") = some block ∧
      (StructBody.read block.body).fields = [] ∧ (StructBody.read block.body).issues = [] ∧
      (StructBody.read ("\nCode string `json:\"code\" bson:\"code\" validate:\"len\x7b3\x7d\"`" ++
        "\nName string `json:\"name\" bson:\"name\"`\n")).fields.map (·.name) =
          ["code", "name"] := by
  have hfree : HeaderFree false "".toList := headerFree_of_tails (by decide) false
  have hword : ∀ c ∈ "User".toList, Text.isWordChar c := List.all_iff_forall_prop.1 rfl
  refine ⟨_, first?_eq "" hfree (by simp) (by decide) hword, ?_, ?_, ?_⟩
  · cbv
  · cbv
  · cbv

end StructBlock

end StructSchema
