import Mathlib
import StructSchema.Proofs.Statements

/-!
# Lines are read apart

A line feed ends every lexeme but a raw string, so a text whose raw strings are closed is cut into
lexemes apart from the lines behind it: `Token.lexemes_append_line`. The lines behind it say what
they say by themselves, further down: `StructBody.read_append_line`.
-/

namespace StructSchema

namespace Token

/-! ## Lexemes in front of a line feed -/

/-- A quoted string that is not closed on its line is not closed. -/
theorem quotedLength?_append_line {part : List Char} (h : quotedLength? part = none)
    (more : List Char) : quotedLength? (part ++ '\n' :: more) = none := by
  induction part using quotedLength?.induct with
  | case1 => simp [quotedLength?]
  | case2 rest => simp [quotedLength?] at h
  | case3 rest => simp [quotedLength?]
  | case4 c rest hc ih =>
    rw [quotedLength?, if_neg hc, Option.map_eq_none_iff] at h
    rw [List.cons_append, List.cons_append, quotedLength?, if_neg hc, ih h]
    rfl
  | case5 => simp [quotedLength?]
  | case6 rest => simp [quotedLength?]
  | case7 c rest hquote hnext hlast hc ih =>
    rw [quotedLength?.eq_5 c rest hquote hnext hlast, if_neg hc, Option.map_eq_none_iff] at h
    have hslash : c ≠ '\\' := by
      intro he
      cases rest with
      | nil => exact hlast he rfl
      | cons d rest => exact hnext d rest he rfl
    rw [List.cons_append, quotedLength?.eq_5 c _ hquote (fun _ _ he => absurd he hslash)
      (fun he => absurd he hslash), if_neg hc, ih h]
    rfl

theorem forall_head?_append_cons {P : Char → Prop} {rest : List Char} {c : Char}
    (hr : ∀ d ∈ rest.head?, P d) (hc : P c) (more : List Char) :
    ∀ d ∈ (rest ++ c :: more).head?, P d := by
  cases rest with
  | nil =>
    intro d hd
    obtain rfl := Option.some.inj hd
    exact hc
  | cons e rest => exact hr

/-- What begins no lexeme on its line begins none; an open backquote may find its end below. -/
theorem extent_append_line {c : Char} {rest : List Char} (hc : c ≠ '`')
    (h : extent c rest = (.mismatch, 0)) (more : List Char) :
    extent c (rest ++ '\n' :: more) = (.mismatch, 0) := by
  have hhead : c = '/' ∧ (rest ++ '\n' :: more).head? = some '/' →
      c = '/' ∧ rest.head? = some '/' := by
    rintro ⟨rfl, hd⟩
    cases rest with
    | nil => cases hd
    | cons d rest => exact ⟨rfl, hd⟩
  unfold extent at h ⊢
  rw [if_neg hc] at h ⊢
  by_cases hquote : c = '"'
  · rw [if_pos hquote] at h ⊢
    split at h
    · cases h
    · rename_i hn
      rw [quotedLength?_append_line hn]
  rw [if_neg hquote] at h ⊢
  by_cases hslash : c = '/' ∧ rest.head? = some '/'
  · rw [if_pos hslash] at h
    cases h
  rw [if_neg hslash] at h
  rw [if_neg (mt hhead hslash)]
  split_ifs at h ⊢
  all_goals cases h
  rfl

/-- A lexeme stays one when lines follow, unless it is an open backquote. -/
theorem Lexes.append_line {kind : Kind} {text rest : List Char} (h : Lexes kind text rest)
    (hopen : kind = .mismatch → text ≠ ['`']) (more : List Char) :
    Lexes kind text (rest ++ '\n' :: more) := by
  cases h with
  | tag h => exact .tag h
  | quoted h => exact .quoted h
  | comment h hr => exact .comment h (forall_head?_append_cons hr rfl more)
  | ident hc h hr => exact .ident hc h (forall_head?_append_cons hr (by decide) more)
  | number hc h hr => exact .number hc h (forall_head?_append_cons hr (by decide) more)
  | lineFeed => exact .lineFeed
  | semicolon => exact .semicolon
  | blank hc h hr => exact .blank hc h (forall_head?_append_cons hr (by decide) more)
  | punct hc => exact .punct hc
  | mismatch h =>
    refine .mismatch (extent_append_line ?_ h more)
    rintro rfl
    exact hopen rfl rfl

/-- The lexemes of a text whose raw strings are closed, and of the lines behind it. -/
theorem lexemes_append_line {text : List Char}
    (hclosed : ∀ x ∈ lexemes text, x.kind = .mismatch → x.text ≠ ['`']) (more : List Char) :
    lexemes (text ++ '\n' :: more) = lexemes text ++ ⟨.lineFeed, ['\n']⟩ :: lexemes more := by
  generalize hxs : lexemes text = xs at hclosed ⊢
  induction xs generalizing text with
  | nil =>
    have htext := flatMap_text_lexemes text
    rw [hxs] at htext
    subst htext
    exact lexemes_append .lineFeed
  | cons x xs ih =>
    obtain ⟨hx, hrest⟩ := lexes_of_lexemes hxs
    have htext := flatMap_text_lexemes text
    rw [hxs, List.flatMap_cons] at htext
    rw [List.forall_mem_cons] at hclosed
    rw [← htext, List.append_assoc, lexemes_append (hx.append_line hclosed.1 more),
      ih hrest hclosed.2]
    rfl

/-! ## Tokens further down -/

/-- The token so many lines further down. -/
def shift (lines : Nat) (token : Token) : Token := { token with line := token.line + lines }

theorem number_add (lines line : Nat) (xs : List Lexeme) :
    number (line + lines) xs = (number line xs).map (shift lines) := by
  induction xs generalizing line with
  | nil => rfl
  | cons x xs ih =>
    have hline : line + lines + x.text.count '\n' = line + x.text.count '\n' + lines := by omega
    rw [number, number, hline, ih]
    split
    · rfl
    · rfl

theorem cutWhere_map {α β : Type} (isMark : β → Bool) (f : α → β) (items : List α) :
    Text.cutWhere isMark (items.map f) =
      (Text.cutWhere (isMark <| f ·) items).map (List.map f) := by
  induction items with
  | nil => rfl
  | cons x items ih =>
    rw [List.map_cons, Text.cutWhere, Text.cutWhere, ih]
    split
    · rfl
    · cases Text.cutWhere (isMark <| f ·) items with
      | nil => rfl
      | cons piece pieces => rfl

/-- Where a statement ends does not depend on the lines of the tokens. -/
theorem statements_map_shift (lines : Nat) (tokens : List Token) :
    statements (tokens.map (shift lines)) = (statements tokens).map (List.map (shift lines)) := by
  have hempty : (fun statement : List Token => !statement.isEmpty) ∘ List.map (shift lines) =
      fun statement => !statement.isEmpty := by
    funext statement
    cases statement with
    | nil => rfl
    | cons token statement => rfl
  unfold statements
  rw [List.filter_map, cutWhere_map, List.filter_map, hempty]
  rfl

theorem hasTag_map_shift (lines : Nat) (statement : List Token) :
    hasTag (statement.map (shift lines)) = hasTag statement := by
  unfold hasTag
  rw [List.any_map]
  rfl

end Token

/-! ## Fields and issues further down -/

/-- The field so many lines further down. -/
def FieldDescriptor.shift (lines : Nat) (field : FieldDescriptor) : FieldDescriptor :=
  { field with line := field.line.map (· + lines) }

/-- The issue so many lines further down. -/
def FieldIssue.shift (lines : Nat) (issue : FieldIssue) : FieldIssue :=
  { issue with line := issue.line + lines }

namespace FieldLine

/-- What a statement declares further down. -/
theorem read_map_shift (lines : Nat) (statement : List Token) :
    read (statement.map (Token.shift lines)) = (read statement).map (·.shift lines) := by
  have hforeign : ∀ tokens : List Token,
      (tokens.map (Token.shift lines)).any isForeign = tokens.any isForeign := by
    intro tokens
    rw [List.any_map]
    rfl
  have hkind : (fun token : Token => token.kind != .tag) ∘ Token.shift lines =
      fun token => token.kind != .tag := rfl
  unfold read
  rw [List.takeWhile_map, List.dropWhile_map, hkind]
  generalize statement.takeWhile (fun token => token.kind != .tag) = before
  generalize statement.dropWhile (fun token => token.kind != .tag) = found
  match before, found with
  | _, [] => rfl
  | _, _ :: _ :: _ => rfl
  | [], [_] => rfl
  | name :: typeTokens, [tag] =>
    simp only [List.map_cons, List.map_nil, List.tail_cons, List.getLast?_map]
    cases typeTokens.getLast? with
    | none => rfl
    | some type =>
      simp only [Option.map_some, Token.shift]
      by_cases hname : name.kind ≠ .ident
      · rw [if_pos hname, if_pos hname]
        rfl
      rw [if_neg hname, if_neg hname]
      by_cases htype : type.kind ≠ .ident
      · rw [if_pos htype, if_pos htype]
        rfl
      rw [if_neg htype, if_neg htype]
      by_cases hany : typeTokens.any isForeign = true
      · rw [if_pos ((hforeign typeTokens).trans hany), if_pos hany]
        rfl
      rw [if_neg (by rwa [hforeign]), if_neg hany]
      cases FieldTag.read tag.value with
      | error fault => rfl
      | ok said => rfl

theorem text_map_shift (lines : Nat) (statement : List Token) :
    text (statement.map (Token.shift lines)) = text statement := by
  unfold text
  rw [List.map_map]
  rfl

theorem line_map_shift (lines : Nat) {statement : List Token} (hne : statement ≠ []) :
    line (statement.map (Token.shift lines)) = line statement + lines := by
  cases statement with
  | nil => exact absurd rfl hne
  | cons token statement => rfl

/-- The reading of a statement further down. -/
def shiftReading (lines : Nat) :
    Except FieldIssue FieldDescriptor → Except FieldIssue FieldDescriptor
  | .ok field => .ok (field.shift lines)
  | .error issue => .error (issue.shift lines)

theorem examine_map_shift (lines : Nat) {statement : List Token} (hne : statement ≠ []) :
    examine (statement.map (Token.shift lines)) = shiftReading lines (examine statement) := by
  unfold examine
  rw [read_map_shift, text_map_shift, line_map_shift lines hne]
  cases read statement with
  | error fault => rfl
  | ok field => rfl

end FieldLine

namespace StructBody

/-- The body so many lines further down. -/
def shift (lines : Nat) (body : StructBody) : StructBody :=
  ⟨body.fields.map (·.shift lines), body.issues.map (·.shift lines)⟩

theorem ofReadings_map_shift (lines : Nat) (readings : List (Except FieldIssue FieldDescriptor)) :
    ofReadings (readings.map (FieldLine.shiftReading lines)) = (ofReadings readings).shift lines := by
  unfold ofReadings shift
  rw [List.filterMap_map, List.filterMap_map, List.map_filterMap, List.map_filterMap]
  congr 1
  · refine List.filterMap_congr fun reading _ => ?_
    cases reading with
    | error issue => rfl
    | ok field => rfl
  · refine List.filterMap_congr fun reading _ => ?_
    cases reading with
    | error issue => rfl
    | ok field => rfl

theorem ne_nil_of_hasTag {statement : List Token} (h : Token.hasTag statement) :
    statement ≠ [] := by
  rintro rfl
  cases h

/-- Tokens further down say the same further down. -/
theorem ofTokens_map_shift (lines : Nat) (tokens : List Token) :
    ofTokens (tokens.map (Token.shift lines)) = (ofTokens tokens).shift lines := by
  have htagged : Token.hasTag ∘ List.map (Token.shift lines) = Token.hasTag :=
    funext (Token.hasTag_map_shift lines)
  unfold ofTokens
  rw [Token.statements_map_shift, List.filter_map, htagged, List.map_map, ← ofReadings_map_shift,
    List.map_map]
  congr 1
  refine List.map_congr_left fun statement hs => ?_
  exact FieldLine.examine_map_shift lines (ne_nil_of_hasTag (List.mem_filter.1 hs).2)

/-- A text of white space alone says nothing. -/
theorem read_of_isAllBlank {body : String} (h : Text.isAllBlank body.toList) :
    read body = empty := by
  rw [read_eq_ofTokens, ofTokens_eq_empty_iff]
  intro token ht hk
  obtain ⟨x, hx, hkind, -⟩ := Token.exists_of_mem_number ht
  obtain ⟨rest, hlexes⟩ := Token.exists_lexes_of_mem hx
  rw [← hkind, hk] at hlexes
  have hmem : '`' ∈ body.toList := by
    rw [← Token.flatMap_text_lexemes body.toList]
    refine List.mem_flatMap.2 ⟨x, hx, ?_⟩
    generalize x.text = text at hlexes
    cases hlexes with
    | tag _ => exact List.mem_cons_self
  have hblank := List.all_eq_true.1 h '`' hmem
  revert hblank
  decide

/-- **Lines are read apart.** When every raw string of the first text is closed in it, the lines of
a second text behind it say what they say by themselves, as many lines further down. -/
theorem read_append_line {first : String}
    (hclosed : ∀ token ∈ Token.scan first, token.kind = .mismatch → token.value ≠ "`")
    (second : String) :
    read (first ++ "\n" ++ second) =
      (read first).append ((read second).shift (1 + first.toList.count '\n')) := by
  have htext : (first ++ "\n" ++ second).toList = first.toList ++ '\n' :: second.toList := by simp
  have hlexemes : ∀ x ∈ Token.lexemes first.toList, x.kind = .mismatch → x.text ≠ ['`'] := by
    intro x hx hk he
    obtain ⟨before, after, hsplit⟩ := List.append_of_mem hx
    refine hclosed ⟨x.kind, String.ofList x.text, 1 + Token.lineFeeds before⟩ ?_ hk ?_
    · unfold Token.scan
      rw [hsplit, Token.number_append, Token.number, if_neg (by rw [hk]; decide)]
      exact List.mem_append_right _ List.mem_cons_self
    · rw [he]
  have hfeeds : Token.lineFeeds (Token.lexemes first.toList) = first.toList.count '\n' := by
    unfold Token.lineFeeds
    rw [Token.flatMap_text_lexemes]
  have hscan : Token.scan (first ++ "\n" ++ second) =
      Token.scan first ++ ⟨.lineFeed, "\n", 1 + first.toList.count '\n'⟩ ::
        (Token.scan second).map (Token.shift (1 + first.toList.count '\n')) := by
    unfold Token.scan
    rw [htext, Token.lexemes_append_line hlexemes, Token.number_append, hfeeds, Token.number,
      if_neg (by decide), ← Token.number_add]
    rw [show ['\n'].count '\n' = 1 from rfl, Nat.add_comm 1 (1 + _)]
  rw [read_eq_ofTokens, hscan, ofTokens_append rfl, ofTokens_map_shift]
  rfl

/-- A string that its line leaves open, and a comment with a backquote, alter no line below. -/
theorem read_append_line_half_quoted :
    (∀ token ∈ Token.scan "A \"b // `", token.kind = .mismatch → token.value ≠ "`") ∧
      read ("A \"b // `" ++ "\n" ++ "C d `json:\"c\" bson:\"c\"`\n`") =
        ⟨[⟨"c", "d", true, some "C", some 2⟩], []⟩ := by
  obtain ⟨hscan, hfirst, hsecond⟩ :
      Token.scan "A \"b // `" = [⟨.ident, "A", 1⟩, ⟨.mismatch, "\"", 1⟩, ⟨.ident, "b", 1⟩,
        ⟨.comment, "// `", 1⟩] ∧
      read "A \"b // `" = empty ∧
      read "C d `json:\"c\" bson:\"c\"`\n`" = ⟨[⟨"c", "d", true, some "C", some 1⟩], []⟩ :=
    ⟨by cbv, by cbv, by cbv⟩
  have hclosed : ∀ token ∈ Token.scan "A \"b // `",
      token.kind = .mismatch → token.value ≠ "`" := by
    rw [hscan]
    decide
  refine ⟨hclosed, ?_⟩
  rw [read_append_line hclosed, hfirst, hsecond]
  rfl

end StructBody

end StructSchema
