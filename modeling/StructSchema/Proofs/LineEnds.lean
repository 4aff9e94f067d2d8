import StructSchema.Generator.Nest
import StructSchema.Proofs.BlockSearch
import StructSchema.Proofs.Scanning

/-!
# Line ends

A carriage return is a blank, and so it may stand in front of a line feed: the search for
declarations finds the same ones, `StructBlock.blocksIn_withReturns`, and a body without line feeds
in its tags has the same tokens on the same lines, but for the ends of its comments:
`Token.scanFrom_withReturns`. Hence a source text means the same with either line end,
`Generator.convertSource_withReturns`.
-/

namespace StructSchema

/-! ## Texts -/

namespace Text

/-- A text with a carriage return in front of each line feed. -/
def withReturns : List Char → List Char
  | [] => []
  | c :: rest => if c = '\n' then '\r' :: '\n' :: withReturns rest else c :: withReturns rest

@[simp] theorem withReturns_nil : withReturns [] = [] := rfl

@[simp] theorem withReturns_lineFeed_cons (rest : List Char) :
    withReturns ('\n' :: rest) = '\r' :: '\n' :: withReturns rest := rfl

theorem withReturns_cons {c : Char} (hc : c ≠ '\n') (rest : List Char) :
    withReturns (c :: rest) = c :: withReturns rest := if_neg hc

theorem withReturns_append (text rest : List Char) :
    withReturns (text ++ rest) = withReturns text ++ withReturns rest := by
  induction text with
  | nil => rfl
  | cons c text ih =>
    by_cases hc : c = '\n'
    · subst hc
      rw [List.cons_append, withReturns_lineFeed_cons, withReturns_lineFeed_cons, ih]
      rfl
    · rw [List.cons_append, withReturns_cons hc, withReturns_cons hc, ih]
      rfl

theorem withReturns_of_not_mem {text : List Char} (h : '\n' ∉ text) : withReturns text = text := by
  induction text with
  | nil => rfl
  | cons c text ih =>
    rw [List.mem_cons, not_or] at h
    rw [withReturns_cons (Ne.symm h.1), ih h.2]

/-- The first character stays, or is the return in front of a line feed. -/
theorem forall_head?_withReturns {P : Char → Prop} {text : List Char}
    (h : ∀ d ∈ text.head?, P d) (hr : '\n' ∈ text.head? → P '\r') :
    ∀ d ∈ (withReturns text).head?, P d := by
  cases text with
  | nil => exact h
  | cons c text =>
    by_cases hc : c = '\n'
    · subst hc
      intro d hd
      obtain rfl := Option.some.inj hd
      exact hr rfl
    · rw [withReturns_cons hc]
      exact h

variable {p : Char → Bool}

/-- A run of a class that does not tell returns from line feeds. -/
theorem takeWhile_withReturns (hp : p '\r' = p '\n') (text : List Char) :
    (withReturns text).takeWhile p = withReturns (text.takeWhile p) := by
  induction text with
  | nil => rfl
  | cons c text ih =>
    by_cases hc : c = '\n'
    · subst hc
      rw [withReturns_lineFeed_cons, List.takeWhile_cons, List.takeWhile_cons, List.takeWhile_cons,
        hp, ih]
      cases p '\n' with
      | false => rfl
      | true => rfl
    · rw [withReturns_cons hc, List.takeWhile_cons, List.takeWhile_cons, ih]
      cases p c with
      | false => rfl
      | true => exact (withReturns_cons hc _).symm

/-- What follows such a run. -/
theorem dropWhile_withReturns (hp : p '\r' = p '\n') (text : List Char) :
    (withReturns text).dropWhile p = withReturns (text.dropWhile p) := by
  induction text with
  | nil => rfl
  | cons c text ih =>
    by_cases hc : c = '\n'
    · subst hc
      rw [withReturns_lineFeed_cons, List.dropWhile_cons, List.dropWhile_cons, List.dropWhile_cons,
        hp, ih]
      cases p '\n' with
      | false => rfl
      | true => rfl
    · rw [withReturns_cons hc, List.dropWhile_cons, List.dropWhile_cons, ih]
      cases p c with
      | false => exact (withReturns_cons hc _).symm
      | true => rfl

theorem trimLeft_withReturns (text : List Char) :
    trimLeft (withReturns text) = withReturns (trimLeft text) :=
  dropWhile_withReturns (by decide) text

/-- The word characters at the start of a text. -/
theorem takeWhile_isWordChar_withReturns (text : List Char) :
    (withReturns text).takeWhile isWordChar = text.takeWhile isWordChar := by
  rw [takeWhile_withReturns (by decide)]
  refine withReturns_of_not_mem fun hm => ?_
  exact absurd (List.mem_takeWhile_imp hm) (by decide)

/-- A word without line ends is looked for in either text. -/
theorem dropWord?_withReturns {word : List Char} (hword : '\r' ∉ word ∧ '\n' ∉ word)
    (text : List Char) :
    dropWord? word (withReturns text) = (dropWord? word text).map withReturns := by
  have hcons : ∀ (w : Char) (word : List Char) (c : Char) (text : List Char),
      dropWord? (w :: word) (c :: text) = if w = c then dropWord? word text else none := by
    intro w word c text
    unfold dropWord?
    by_cases h : w = c
    · simp [h]
    · simp [h]
  induction word generalizing text with
  | nil => rfl
  | cons w word ih =>
    simp only [List.mem_cons, not_or] at hword
    obtain ⟨⟨hr, hrs⟩, hn, hns⟩ := hword
    cases text with
    | nil => rfl
    | cons c text =>
      by_cases hc : c = '\n'
      · subst hc
        rw [withReturns_lineFeed_cons, hcons, hcons, if_neg (Ne.symm hr), if_neg (Ne.symm hn)]
        rfl
      · rw [withReturns_cons hc, hcons, hcons, ih ⟨hrs, hns⟩]
        split
        · rfl
        · rfl

end Text

open Text

/-! ## Tokens -/

namespace Token

/-- A string that its line leaves open stays open. -/
theorem quotedLength?_withReturns {text : List Char} (h : quotedLength? text = none) :
    quotedLength? (withReturns text) = none := by
  have hplain : ∀ {c : Char} {rest : List Char}, c ≠ '"' → c ≠ '\\' → c ≠ '\n' →
      quotedLength? rest = none → quotedLength? (c :: rest) = none := by
    intro c rest hquote hslash hc hrest
    rw [quotedLength?.eq_5 c rest hquote (fun _ _ he => absurd he hslash)
      (fun he => absurd he hslash), if_neg hc, hrest]
    rfl
  induction text using quotedLength?.induct with
  | case1 => rfl
  | case2 rest => cases h
  | case3 rest => rfl
  | case4 c rest hc ih =>
    rw [quotedLength?, if_neg hc, Option.map_eq_none_iff] at h
    rw [withReturns_cons (by decide), withReturns_cons hc, quotedLength?, if_neg hc, ih h]
    rfl
  | case5 => rfl
  | case6 rest => rfl
  | case7 c rest hquote hnext hlast hc ih =>
    rw [quotedLength?.eq_5 c rest hquote hnext hlast, if_neg hc, Option.map_eq_none_iff] at h
    have hslash : c ≠ '\\' := by
      intro he
      cases rest with
      | nil => exact hlast he rfl
      | cons d rest => exact hnext d rest he rfl
    rw [withReturns_cons hc]
    exact hplain hquote hslash hc (ih h)

/-- A raw string that is left open stays open. -/
theorem rawLength?_withReturns {text : List Char} (h : rawLength? text = none) :
    rawLength? (withReturns text) = none := by
  induction text with
  | nil => rfl
  | cons c text ih =>
    rw [rawLength?] at h
    split at h
    · cases h
    · rename_i hraw
      have hrest := ih (Option.map_eq_none_iff.1 h)
      by_cases hc : c = '\n'
      · subst hc
        rw [withReturns_lineFeed_cons, rawLength?, rawLength?, hrest]
        rfl
      · rw [withReturns_cons hc, rawLength?, if_neg hraw, hrest]
        rfl

/-- What begins no lexeme begins none in front of returns. -/
theorem extent_withReturns {c : Char} {rest : List Char} (h : extent c rest = (.mismatch, 0)) :
    extent c (withReturns rest) = (.mismatch, 0) := by
  have hhead : c = '/' ∧ (withReturns rest).head? = some '/' → c = '/' ∧ rest.head? = some '/' := by
    rintro ⟨rfl, hd⟩
    refine ⟨rfl, ?_⟩
    by_contra hne
    exact forall_head?_withReturns (P := (· ≠ '/')) (fun d hd he => hne (he ▸ hd))
      (fun _ => by decide) '/' hd rfl
  unfold extent at h ⊢
  by_cases hraw : c = '`'
  · rw [if_pos hraw] at h ⊢
    split at h
    · cases h
    · rename_i hn
      rw [rawLength?_withReturns hn]
  rw [if_neg hraw] at h ⊢
  by_cases hquote : c = '"'
  · rw [if_pos hquote] at h ⊢
    split at h
    · cases h
    · rename_i hn
      rw [quotedLength?_withReturns hn]
  rw [if_neg hquote] at h ⊢
  by_cases hslash : c = '/' ∧ rest.head? = some '/'
  · rw [if_pos hslash] at h
    cases h
  rw [if_neg hslash] at h
  rw [if_neg (mt hhead hslash)]
  split_ifs at h ⊢
  all_goals cases h
  rfl

variable {kind : Kind} {text rest : List Char} {line : Nat}

/-- A lexeme on one line that ends where it ends by itself, or at a line end, stays one. -/
theorem Lexes.withReturns (h : Lexes kind text rest) (hblank : kind ≠ .blank)
    (hfeed : kind ≠ .lineFeed) (hcomment : kind ≠ .comment) (htag : kind = .tag → '\n' ∉ text) :
    '\n' ∉ text ∧ Lexes kind text (Text.withReturns rest) := by
  cases h with
  | tag h => exact ⟨htag rfl, .tag h⟩
  | quoted h => exact ⟨by simpa using h.not_mem_lineFeed, .quoted h⟩
  | comment _ _ => exact absurd rfl hcomment
  | ident hc h hr =>
    exact ⟨not_mem_run hc h (by decide) (by decide),
      .ident hc h (forall_head?_withReturns hr fun _ => by decide)⟩
  | number hc h hr =>
    exact ⟨not_mem_run hc h (by decide) (by decide),
      .number hc h (forall_head?_withReturns hr fun _ => by decide)⟩
  | lineFeed => exact absurd rfl hfeed
  | semicolon => exact ⟨by decide, .semicolon⟩
  | blank _ _ _ => exact absurd rfl hblank
  | punct hc =>
    refine ⟨fun hm => ?_, .punct hc⟩
    exact ne_of_class hc (by decide) (List.mem_singleton.1 hm).symm
  | mismatch h =>
    refine ⟨fun hm => ?_, .mismatch (extent_withReturns h)⟩
    obtain rfl := List.mem_singleton.1 hm
    cases h

/-- The tokens that are no comments. -/
def uncommented (tokens : List Token) : List Token := tokens.filter (·.kind != .comment)

/-- A lexeme in front of a text is its first token, unless it is a comment. -/
theorem uncommented_scanFrom_append (h : Lexes kind text rest) (hblank : kind ≠ .blank) :
    uncommented (scanFrom line (text ++ rest)) =
      (if kind = .comment then [] else [⟨kind, String.ofList text, line⟩]) ++
        uncommented (scanFrom (line + text.count '\n') rest) := by
  unfold uncommented
  rw [scanFrom_append h hblank, List.filter_cons]
  by_cases hk : kind = .comment
  · simp [hk]
  · simp [hk]

/-- A comment takes the return at the end of its line with it. -/
theorem uncommented_scanFrom_comment (line : Nat) (h : Lexes .comment text rest) :
    '\n' ∉ text ∧ uncommented (scanFrom line (text ++ withReturns rest)) =
      uncommented (scanFrom line (withReturns rest)) := by
  cases h with
  | @comment body _ hbody hr =>
    have hone : '\n' ∉ '/' :: '/' :: body := by
      simpa using fun hm => hbody '\n' hm rfl
    refine ⟨hone, ?_⟩
    cases rest with
    | nil =>
      rw [withReturns_nil, uncommented_scanFrom_append (.comment hbody hr) (by decide),
        scanFrom_nil, scanFrom_nil]
      rfl
    | cons c rest =>
      obtain rfl : c = '\n' := hr c rfl
      have hreturn : ∀ d ∈ body ++ ['\r'], d ≠ '\n' := by
        intro d hd
        rcases List.mem_append.1 hd with hd | hd
        · exact hbody d hd
        · rw [List.mem_singleton.1 hd]
          decide
      have hcomment : Lexes .comment ('/' :: '/' :: (body ++ ['\r'])) ('\n' :: withReturns rest) :=
        .comment hreturn fun d hd => (Option.some.inj hd).symm
      have hcount : ('/' :: '/' :: (body ++ ['\r'])).count '\n' = 0 := by
        refine List.count_eq_zero_of_not_mem ?_
        simpa using fun hm => hbody '\n' hm rfl
      have htext : '/' :: '/' :: body ++ withReturns ('\n' :: rest) =
          '/' :: '/' :: (body ++ ['\r']) ++ '\n' :: withReturns rest := by simp
      have hblank : withReturns ('\n' :: rest) = ['\r'] ++ '\n' :: withReturns rest := rfl
      rw [htext, uncommented_scanFrom_append hcomment (by decide), hcount, hblank,
        scanFrom_blanks_append (List.forall_mem_singleton.2 rfl)]
      rfl

/-- The tokens of a body with returns in front of its line feeds: where no tag holds a line feed
they are those of the body, but for comments, which end in a return then. -/
theorem scanFrom_withReturns
    (h : ∀ token ∈ scanFrom line text, token.kind = .tag → '\n' ∉ token.value.toList) :
    uncommented (scanFrom line (withReturns text)) = uncommented (scanFrom line text) := by
  generalize hxs : lexemes text = xs
  induction xs generalizing line text with
  | nil =>
    have htext := flatMap_text_lexemes text
    rw [hxs] at htext
    rw [← htext]
    rfl
  | cons x xs ih =>
    obtain ⟨kind, part⟩ := x
    obtain ⟨hx, hrest⟩ := lexes_of_lexemes hxs
    have htext := flatMap_text_lexemes text
    rw [hxs, List.flatMap_cons] at htext
    generalize xs.flatMap (·.text) = rest at hx hrest htext
    subst htext
    dsimp only at hx h ⊢
    rw [withReturns_append]
    by_cases hblank : kind = .blank
    · have hskip : ∀ c ∈ part, isSkipped c := by
        subst hblank
        exact hx.isSkipped_of_mem
      have hfeed : '\n' ∉ part := fun hm => absurd (hskip _ hm) (by decide)
      rw [scanFrom_blanks_append hskip] at h
      rw [withReturns_of_not_mem hfeed, scanFrom_blanks_append hskip, scanFrom_blanks_append hskip,
        ih h hrest]
    rw [scanFrom_append hx hblank, List.forall_mem_cons, String.toList_ofList] at h
    rw [uncommented_scanFrom_append hx hblank, ← ih h.2 hrest]
    by_cases hfeed : kind = .lineFeed
    · subst hfeed
      cases hx
      show uncommented (scanFrom line (['\r'] ++ (['\n'] ++ withReturns rest))) = _
      rw [scanFrom_blanks_append (List.forall_mem_singleton.2 rfl),
        uncommented_scanFrom_append .lineFeed hblank]
    by_cases hcomment : kind = .comment
    · subst hcomment
      obtain ⟨hone, hkept⟩ := uncommented_scanFrom_comment line hx
      rw [withReturns_of_not_mem hone, hkept, List.count_eq_zero_of_not_mem hone]
      rfl
    obtain ⟨hone, hlexes⟩ := hx.withReturns hblank hfeed hcomment h.1
    rw [withReturns_of_not_mem hone, uncommented_scanFrom_append hlexes hblank]

end Token

/-- A body whose tags stand on one line each says the same with either line end. -/
theorem StructBody.read_withReturns {body : List Char}
    (h : ∀ token ∈ Token.scanFrom 1 body, token.kind = .tag → '\n' ∉ token.value.toList) :
    read (String.ofList (withReturns body)) = read (String.ofList body) := by
  have hstatements : ∀ tokens : List Token,
      Token.statements tokens = Token.statements (Token.uncommented tokens) := by
    intro tokens
    unfold Token.statements Token.uncommented
    rw [List.filter_filter]
    simp
  have hread : ∀ text : List Char, read (String.ofList text) =
      ofTokens (Token.uncommented (Token.scanFrom 1 text)) := by
    intro text
    rw [read_eq_ofTokens, Token.scan_eq_scanFrom, String.toList_ofList]
    unfold ofTokens
    rw [hstatements]
  rw [hread, hread, Token.scanFrom_withReturns h]

/-! ## Declarations -/

namespace StructBlock

/-- A header whose body has returns in front of its line feeds. -/
def headerWithReturns (header : List Char × List Char) : List Char × List Char :=
  (header.1, withReturns header.2)

theorem dropBlanks?_withReturns (text : List Char) :
    dropBlanks? (withReturns text) = (dropBlanks? text).map withReturns := by
  cases text with
  | nil => rfl
  | cons c text =>
    by_cases hc : c = '\n'
    · subst hc
      rw [withReturns_lineFeed_cons, dropBlanks?, dropBlanks?, if_pos (by decide),
        if_pos (by decide), Option.map_some, ← trimLeft_withReturns]
      rfl
    · rw [withReturns_cons hc, dropBlanks?, dropBlanks?, trimLeft_withReturns]
      split
      · rfl
      · rfl

theorem bodyAt?_withReturns (name text : List Char) :
    bodyAt? name (withReturns text) = (bodyAt? name text).map headerWithReturns := by
  unfold bodyAt?
  rw [trimLeft_withReturns]
  cases Text.trimLeft text with
  | nil => rfl
  | cons c body =>
    by_cases hc : c = '\n'
    · subst hc
      rfl
    · rw [withReturns_cons hc]
      by_cases hbrace : c = '\x7b'
      · subst hbrace
        rfl
      · simp [hbrace]

theorem structAt?_withReturns (name text : List Char) :
    structAt? name (withReturns text) = (structAt? name text).map headerWithReturns := by
  unfold structAt?
  rw [dropBlanks?_withReturns]
  cases dropBlanks? text with
  | none => rfl
  | some atStruct =>
    rw [Option.map_some, Option.bind_some, Option.bind_some, dropWord?_withReturns (by decide)]
    cases Text.dropWord? "struct".toList atStruct with
    | none => rfl
    | some afterStruct => exact bodyAt?_withReturns name afterStruct

theorem nameAt?_withReturns (text : List Char) :
    nameAt? (withReturns text) = (nameAt? text).map headerWithReturns := by
  unfold nameAt?
  rw [takeWhile_isWordChar_withReturns, dropWhile_withReturns (by decide)]
  split
  · rfl
  · exact structAt?_withReturns _ _

/-- Headers are found with either line end. -/
theorem headerAt?_withReturns (text : List Char) :
    headerAt? (withReturns text) = (headerAt? text).map headerWithReturns := by
  rw [headerAt?_eq, headerAt?_eq, dropWord?_withReturns (by decide)]
  cases Text.dropWord? "type".toList text with
  | none => rfl
  | some afterType =>
    rw [Option.map_some, Option.bind_some, Option.bind_some, dropBlanks?_withReturns]
    cases dropBlanks? afterType with
    | none => rfl
    | some atName => exact nameAt?_withReturns atName

/-- The declaration with a return in front of each line feed of its body. -/
def withReturns (block : StructBlock) : StructBlock :=
  ⟨block.name, String.ofList (Text.withReturns block.body.toList)⟩

theorem blockAt?_withReturns (text : List Char) :
    blockAt? (Text.withReturns text) = (blockAt? text).map fun found =>
      (found.1.withReturns, Text.withReturns found.2) := by
  unfold blockAt?
  rw [headerAt?_withReturns]
  cases headerAt? text with
  | none => rfl
  | some header =>
    obtain ⟨name, inside⟩ := header
    show (match (Text.withReturns inside).dropWhile (· != '\x7d') with
      | [] => none
      | _ :: after => some (_, after)) = Option.map _ (match inside.dropWhile (· != '\x7d') with
      | [] => none
      | _ :: after => some (_, after))
    rw [dropWhile_withReturns (by decide), takeWhile_withReturns (by decide)]
    cases hd : inside.dropWhile (· != '\x7d') with
    | nil => rfl
    | cons c after =>
      have hc : c ≠ '\n' := by
        rintro rfl
        exact absurd (Token.head?_dropWhile_eq_false (· != '\x7d') inside '\n' (by rw [hd]; rfl))
          (by decide)
      rw [withReturns_cons hc]
      simp [withReturns]

/-- The search finds the same declarations with either line end. -/
theorem blocksIn_withReturns (inWord : Bool) (text : List Char) :
    blocksIn inWord (Text.withReturns text) = (blocksIn inWord text).map withReturns := by
  induction inWord, text using blocksIn.induct with
  | case1 => rw [withReturns_nil, blocksIn, List.map_nil]
  | case2 inWord c rest block after hfound ih =>
    cases inWord with
    | true => cases hfound
    | false =>
      have hblock : blockAt? (c :: rest) = some (block, after) := hfound
      have hreturns : blockAt? (Text.withReturns (c :: rest)) =
          some (block.withReturns, Text.withReturns after) := by
        rw [blockAt?_withReturns, hblock]
        rfl
      rw [blocksIn_of_blockAt? hblock, blocksIn_of_blockAt? hreturns, List.map_cons, ih]
  | case3 inWord c rest hnone ih =>
    have hblock : inWord = false → blockAt? (c :: rest) = none := by
      rintro rfl
      exact hnone
    rw [blocksIn_cons_of_blockAt? hblock, ← ih]
    by_cases hc : c = '\n'
    · subst hc
      rw [withReturns_lineFeed_cons, blocksIn_cons_of_none fun _ => rfl]
      exact blocksIn_cons_of_none fun _ => rfl
    · rw [withReturns_cons hc]
      refine blocksIn_cons_of_blockAt? fun hw => ?_
      rw [← withReturns_cons hc, blockAt?_withReturns, hblock hw]
      rfl

/-- The declarations to convert are the same with either line end. -/
theorem select_withReturns (source : String) (everyOne : Bool) :
    select (String.ofList (Text.withReturns source.toList)) everyOne =
      (select source everyOne).map withReturns := by
  rw [select_eq, select_eq]
  unfold all
  rw [String.toList_ofList, blocksIn_withReturns]
  cases everyOne with
  | true => rfl
  | false =>
    cases blocksIn false source.toList with
    | nil => rfl
    | cons block blocks => rfl

end StructBlock

/-! ## Generated code -/

/-- **Line ends do not matter.** A source text with a carriage return in front of each line feed has
the same declarations in the same order, and each of them comes to the same artifact or the same
failure, if no tag of a declaration holds a line feed. -/
theorem Generator.convertSource_withReturns (generator : Generator) {source : String}
    {everyOne : Bool}
    (h : ∀ block ∈ StructBlock.select source everyOne, ∀ token ∈ Token.scan block.body,
      token.kind = .tag → '\n' ∉ token.value.toList) :
    (generator.convertSource (String.ofList (withReturns source.toList)) everyOne).map
        (fun made => (made.1.name, made.2)) =
      (generator.convertSource source everyOne).map fun made => (made.1.name, made.2) := by
  unfold convertSource
  rw [StructBlock.select_withReturns, List.map_map, List.map_map, List.map_map]
  refine List.map_congr_left fun block hblock => ?_
  have hread : StructBody.read block.withReturns.body = StructBody.read block.body := by
    rw [← String.ofList_toList (s := block.body)]
    refine StructBody.read_withReturns ?_
    exact h block hblock
  show (block.name, generator.generate block.name block.withReturns.body) =
    (block.name, generator.generate block.name block.body)
  unfold generate
  rw [hread]

/-- A declaration whose header takes two lines, with a string that its line leaves open, a comment
and a tag that is refused. -/
def halfQuotedSource : String :=
  "type\nUser struct \x7b\n\tN \"x\\\n\tID string `json:\"id\" bson:\"_id\"` // key\n\tB `x`\n\x7d\n"

/-- The body of that declaration. -/
def halfQuotedBody : String :=
  "\n\tN \"x\\\n\tID string `json:\"id\" bson:\"_id\"` // key\n\tB `x`\n"

theorem select_halfQuotedSource :
    StructBlock.select halfQuotedSource false = [⟨"User", halfQuotedBody⟩] := by
  have hblock : StructBlock.blockAt? halfQuotedSource.toList =
      some (⟨"User", halfQuotedBody⟩, ['\n']) := by cbv
  rw [StructBlock.select_eq, if_neg (by decide)]
  unfold StructBlock.all
  rw [StructBlock.blocksIn_of_blockAt? hblock]
  rfl

theorem tags_halfQuotedBody :
    ∀ token ∈ Token.scan halfQuotedBody, token.kind = .tag → '\n' ∉ token.value.toList :=
  Token.not_mem_of_oneLineTags (by cbv)

/-- The string, the comment and the refused tag meet the returns and tell nothing of them. -/
theorem Generator.convertSource_withReturns_halfQuoted :
    (∀ block ∈ StructBlock.select halfQuotedSource false, ∀ token ∈ Token.scan block.body,
      token.kind = .tag → '\n' ∉ token.value.toList) ∧
    ∃ generator, Nest.generator {} = .ok generator ∧
      (generator.convertSource (String.ofList (withReturns halfQuotedSource.toList)) false).map
          (fun made => (made.1.name, made.2)) =
        (generator.convertSource halfQuotedSource false).map fun made =>
          (made.1.name, made.2) := by
  obtain ⟨generator, hmade⟩ : ∃ generator, Nest.generator {} = .ok generator := ⟨_, rfl⟩
  have htags : ∀ block ∈ StructBlock.select halfQuotedSource false,
      ∀ token ∈ Token.scan block.body, token.kind = .tag → '\n' ∉ token.value.toList := by
    rw [select_halfQuotedSource, List.forall_mem_singleton]
    exact tags_halfQuotedBody
  exact ⟨htags, generator, hmade, generator.convertSource_withReturns htags⟩

end StructSchema
