import StructSchema.Proofs.FieldReading
import StructSchema.Proofs.Headers
import StructSchema.Proofs.Statements

/-!
# Bodies cut at a closing brace

The body of a block ends at its first closing brace, wherever that stands. Cutting a body there
keeps the lexemes before the one that holds the brace. `StructBody.read_cut_iff` says what is lost:
nothing if no lexeme holds the brace, nothing behind a comment that holds it if no tag follows, and
the field itself if its tag holds it.
-/

namespace StructSchema

namespace Token

/-- Only tags, strings, comments and the brace itself hold a closing brace. -/
theorem kind_of_closingBrace {kind : Kind} {text rest : List Char} (h : Lexes kind text rest)
    (hb : closingBrace ∈ text) :
    kind = .tag ∨ kind = .quoted ∨ kind = .comment ∨ kind = .punct ∧ text = [closingBrace] := by
  cases h with
  | tag _ => exact .inl rfl
  | quoted _ => exact .inr (.inl rfl)
  | comment _ _ => exact .inr (.inr (.inl rfl))
  | ident hc hword _ => exact absurd hb (not_mem_run hc hword (by decide) (by decide))
  | number hc hdigit _ => exact absurd hb (not_mem_run hc hdigit (by decide) (by decide))
  | lineFeed => exact absurd hb (by decide)
  | semicolon => exact absurd hb (by decide)
  | blank hc hblank _ => exact absurd hb (not_mem_run hc hblank (by decide) (by decide))
  | punct _ => exact .inr (.inr (.inr ⟨rfl, by rw [List.mem_singleton.1 hb]⟩))
  | mismatch hm =>
    rw [← List.mem_singleton.1 hb, extent_of_isPunct (by decide)] at hm
    cases hm

/-- A text with fewer than two backquotes holds no tag. -/
theorem kind_ne_tag_of_count {text : List Char} (h : text.count '`' < 2) :
    ∀ x ∈ lexemes text, x.kind ≠ .tag := by
  intro x hx hk
  obtain ⟨before, after, hs⟩ := List.append_of_mem hx
  have hl := lexes_of_mem hs
  have htext := flatMap_text_lexemes text
  rw [hs, List.flatMap_append, List.flatMap_cons] at htext
  rw [hk] at hl
  generalize x.text = held at hl htext
  cases hl with
  | tag _ =>
    rw [← htext] at h
    simp at h
    omega

end Token

namespace StructBody

variable {tokens kept : List Token} {x : Token} {more : StructBody}

/-- Without a brace in the tokens there is none in the issues. -/
theorem not_mem_issue_text (h : ∀ token ∈ tokens, closingBrace ∉ token.value.toList) :
    ∀ issue ∈ (ofTokens tokens).issues, closingBrace ∉ issue.text.toList := by
  intro issue hi hb
  obtain ⟨reading, hr, he⟩ := List.mem_filterMap.1 hi
  obtain ⟨statement, hs, rfl⟩ := List.mem_map.1 hr
  cases hx : FieldLine.examine statement with
  | ok field => rw [hx] at he; cases he
  | error found =>
    rw [hx] at he
    cases he
    rw [FieldLine.text_of_examine hx, FieldLine.mem_text_iff (by decide)] at hb
    obtain ⟨token, ht, hb⟩ := hb
    have hflat : token ∈ (Token.statements tokens).flatten :=
      List.mem_flatten.2 ⟨statement, (List.mem_filter.1 hs).1, ht⟩
    rw [Token.flatten_statements] at hflat
    exact h token (List.mem_filter.1 hflat).1 hb

/-- A tagged run of tokens that ends nowhere is one statement. -/
theorem ofTokens_of_open (hopen : ∀ token ∈ tokens, token.endsStatement = false)
    (htag : ∃ token ∈ tokens, token.kind = .tag) :
    ofTokens tokens =
      ofReadings [FieldLine.examine (tokens.filter (·.kind != .comment))] := by
  obtain ⟨tag, ht, hk⟩ := htag
  have hmem : tag ∈ tokens.filter (·.kind != .comment) := List.mem_filter.2 ⟨ht, by simp [hk]⟩
  have hcut : Text.cutWhere Token.endsStatement (tokens.filter (·.kind != .comment)) =
      [tokens.filter (·.kind != .comment)] :=
    Text.cutWhere_of_forall_not fun token h => hopen token (List.mem_filter.1 h).1
  have hne : (!(tokens.filter (·.kind != .comment)).isEmpty) = true := by
    rw [Bool.not_eq_true', List.isEmpty_eq_false_iff]
    exact List.ne_nil_of_mem hmem
  have htagged : Token.hasTag (tokens.filter (·.kind != .comment)) = true :=
    List.any_eq_true.2 ⟨tag, hmem, by simp [hk]⟩
  unfold ofTokens Token.statements
  rw [hcut, List.filter_cons, if_pos hne, List.filter_nil, List.filter_cons_of_pos htagged]
  rfl

/-- If a body without braces says what a tagged statement with one says, the statement declares a
field, and so does the body. -/
theorem exists_field_of_eq (hkept : ∀ token ∈ kept, closingBrace ∉ token.value.toList)
    (hopen : ∀ token ∈ tokens, token.endsStatement = false)
    (htag : ∃ token ∈ tokens, token.kind = .tag) (hx : x ∈ tokens) (hk : x.kind ≠ .comment)
    (hb : closingBrace ∈ x.value.toList) (h : ofTokens kept = (ofTokens tokens).append more) :
    ofTokens kept ≠ empty ∧
      ∃ field, FieldLine.read (tokens.filter (·.kind != .comment)) = .ok field := by
  rw [ofTokens_of_open hopen htag] at h
  cases hr : FieldLine.examine (tokens.filter (·.kind != .comment)) with
  | ok field =>
    refine ⟨fun he => ?_, field, FieldLine.examine_eq_ok_iff.1 hr⟩
    rw [hr, he] at h
    cases congrArg (fun body => body.fields) h
  | error issue =>
    rw [hr] at h
    refine absurd ?_ (not_mem_issue_text hkept issue ?_)
    · rw [FieldLine.text_of_examine hr, FieldLine.mem_text_iff (by decide)]
      exact ⟨x, List.mem_filter.2 ⟨hx, by simpa using hk⟩, hb⟩
    · rw [h]
      exact List.mem_append_left _ List.mem_cons_self

variable {opened following : List Token}

/-- The statement that holds a token, and what follows the statement. -/
theorem ofTokens_append_cons (hopen : ∀ token ∈ opened, token.endsStatement = false)
    (hx : x.endsStatement = false) (following : List Token) :
    ofTokens (opened ++ x :: following) =
      (ofTokens (opened ++ x :: following.takeWhile (!·.endsStatement))).append
        (ofTokens (following.dropWhile (!·.endsStatement))) := by
  have hpos : ∀ token ∈ opened, (!token.endsStatement) = true := fun token h => by
    rw [hopen token h]
    rfl
  rw [ofTokens_eq_append_dropWhile, List.takeWhile_append_of_pos hpos,
    List.dropWhile_append_of_pos hpos, List.takeWhile_cons_of_pos (by rw [hx]; rfl),
    List.dropWhile_cons_of_pos (by rw [hx]; rfl)]

theorem endsStatement_of_mem_run (hopen : ∀ token ∈ opened, token.endsStatement = false)
    (hx : x.endsStatement = false) (following : List Token) :
    ∀ token ∈ opened ++ x :: following.takeWhile (!·.endsStatement),
      token.endsStatement = false := by
  intro token h
  rcases List.mem_append.1 h with h | h
  · exact hopen token h
  · rcases List.mem_cons.1 h with rfl | h
    · exact hx
    · simpa using List.mem_takeWhile_imp h

/-- A body cut inside a tag has lost the statement. -/
theorem ofTokens_ne_of_tag (hkept : ∀ token ∈ kept, closingBrace ∉ token.value.toList)
    (hopen : ∀ token ∈ opened, token.endsStatement = false)
    (hlost : (∀ token ∈ opened, token.kind ≠ .tag) → ∀ token ∈ kept, token.kind ≠ .tag)
    (hk : x.kind = .tag) (hb : closingBrace ∈ x.value.toList) (following : List Token) :
    ofTokens kept ≠ ofTokens (opened ++ x :: following) := by
  have hx : x.endsStatement = false := by simp [Token.endsStatement, hk]
  rw [ofTokens_append_cons hopen hx]
  intro h
  obtain ⟨hne, field, hread⟩ := exists_field_of_eq hkept
    (endsStatement_of_mem_run hopen hx following) ⟨x, by simp, hk⟩
    (List.mem_append_right _ List.mem_cons_self) (by simp [hk]) hb h
  obtain ⟨name, types, type, tag, hs, hbefore, -, -⟩ := FieldLine.exists_of_read hread
  -- The only tag of the statement is the cut one, so none stands before it.
  refine hne (ofTokens_eq_empty_iff.2 (hlost fun token ht htag => ?_))
  rw [List.filter_append, List.filter_cons_of_pos (by simp [hk])] at hs
  have hlast : opened.filter (·.kind != .comment) <+: name :: types := by
    refine List.prefix_of_prefix_length_le ⟨_, hs⟩ (List.prefix_append _ [tag]) ?_
    have hlength := congrArg List.length hs
    simp only [List.length_append, List.length_cons, List.length_nil] at hlength ⊢
    omega
  exact hbefore token (hlast.subset (List.mem_filter.2 ⟨ht, by simp [htag]⟩)) htag

/-- A body cut inside a string says the same exactly if the statement of the string has no tag, and
what is cut says what follows the statement. -/
theorem ofTokens_eq_iff_of_quoted (hkept : ∀ token ∈ kept, closingBrace ∉ token.value.toList)
    (hopen : ∀ token ∈ opened, token.endsStatement = false)
    (hk : x.kind = .quoted) (hb : closingBrace ∈ x.value.toList) (following : List Token) :
    ofTokens kept = ofTokens (opened ++ x :: following) ↔
      (∀ token ∈ opened ++ following.takeWhile (!·.endsStatement), token.kind ≠ .tag) ∧
        ofTokens kept = ofTokens (following.dropWhile (!·.endsStatement)) := by
  have hx : x.endsStatement = false := by simp [Token.endsStatement, hk]
  have hnone : (∀ token ∈ opened ++ following.takeWhile (!·.endsStatement), token.kind ≠ .tag) ↔
      ofTokens (opened ++ x :: following.takeWhile (!·.endsStatement)) = empty := by
    rw [ofTokens_eq_empty_iff]
    simp [or_imp, forall_and, hk]
  rw [ofTokens_append_cons hopen hx, hnone]
  constructor
  · intro h
    by_cases hempty : ofTokens (opened ++ x :: following.takeWhile (!·.endsStatement)) = empty
    · rw [hempty, empty_append] at h
      exact ⟨hempty, h⟩
    · rw [ofTokens_eq_empty_iff] at hempty
      push Not at hempty
      obtain ⟨-, field, hread⟩ := exists_field_of_eq hkept
        (endsStatement_of_mem_run hopen hx following) hempty
        (List.mem_append_right _ List.mem_cons_self) (by simp [hk]) hb h
      exact absurd hk (FieldLine.kind_ne_quoted_of_read hread x
        (List.mem_filter.2 ⟨List.mem_append_right _ List.mem_cons_self, by simp [hk]⟩))
  · rintro ⟨hempty, h⟩
    rw [hempty, empty_append, h]

theorem ofTokens_append_comment (hx : x.kind = .comment) (opened following : List Token) :
    ofTokens (opened ++ x :: following) = ofTokens (opened ++ following) := by
  unfold ofTokens Token.statements
  rw [List.filter_append, List.filter_cons_of_neg (by simp [hx]), List.filter_append]

/-- A body cut inside a comment says the same exactly if no tag follows. -/
theorem ofTokens_eq_iff_of_comment (hx : x.kind = .comment)
    (hnext : ∀ token ∈ following.head?, token.endsStatement) (opened : List Token) {y : Token}
    (hy : y.kind = .comment) :
    ofTokens (opened ++ [y]) = ofTokens (opened ++ x :: following) ↔
      ∀ token ∈ following, token.kind ≠ .tag := by
  rw [ofTokens_append_comment hx, ofTokens_append_comment hy, List.append_nil]
  cases following with
  | nil => simp
  | cons ending following =>
    have he : ending.endsStatement := hnext ending rfl
    rw [ofTokens_append he, ← ofTokens_eq_empty_iff, ← List.nil_append (ending :: following),
      ofTokens_append he]
    nth_rewrite 1 [← append_empty (ofTokens opened)]
    rw [append_right_inj]
    exact eq_comm

/-! ## The cut -/

/-- A body up to its first closing brace. -/
def cut (body : String) : String := String.ofList (body.toList.takeWhile (· != closingBrace))

open Token in
/-- Whether a body says the same when it is cut inside the lexeme `x`: inside a comment if no tag
follows; inside a string if its statement has no tag, and the tokens into which the string falls
apart say what follows the statement. -/
def SaysSame (before : List Lexeme) (x : Lexeme) (after : List Lexeme) : Prop :=
  let line := 1 + lineFeeds before
  let opened := (number 1 before).rtakeWhile (!·.endsStatement)
  let part := number line (lexemes (x.text.takeWhile (· != closingBrace)))
  let following := number (line + x.text.count '\n') after
  x.kind = .comment ∧ (∀ token ∈ following, token.kind ≠ .tag) ∨
    x.kind = .quoted ∧
      (∀ token ∈ opened ++ following.takeWhile (!·.endsStatement), token.kind ≠ .tag) ∧
      ofTokens (opened ++ part) = ofTokens (following.dropWhile (!·.endsStatement))

theorem takeWhile_append_of_mem {p : Char → Bool} {body rest : List Char} {d : Char} (hd : d ∈ body)
    (hp : p d = false) : (body ++ rest).takeWhile p = body.takeWhile p := by
  induction body with
  | nil => cases hd
  | cons c body ih =>
    rw [List.cons_append, List.takeWhile_cons, List.takeWhile_cons]
    rcases List.mem_cons.1 hd with rfl | hd
    · rw [hp]
      rfl
    · rw [ih hd]

/-- The tokens of a body and of what is left of it when it is cut. -/
theorem scan_cut {body : String} {before after : List Token.Lexeme} {x : Token.Lexeme}
    (h : Token.lexemes body.toList = before ++ x :: after)
    (hbefore : ∀ y ∈ before, closingBrace ∉ y.text) (hx : closingBrace ∈ x.text) :
    Token.scan (cut body) = Token.number 1 before ++ Token.number (1 + Token.lineFeeds before)
      (Token.lexemes (x.text.takeWhile (· != closingBrace))) := by
  have htext := Token.flatMap_text_lexemes body.toList
  rw [h, List.flatMap_append, List.flatMap_cons] at htext
  have hfree : ∀ c ∈ before.flatMap (·.text), (c != closingBrace) = true := by
    intro c hc
    obtain ⟨y, hy, hc⟩ := List.mem_flatMap.1 hc
    rw [bne_iff_ne]
    rintro rfl
    exact hbefore y hy hc
  have hpart : (cut body).toList =
      before.flatMap (·.text) ++ x.text.takeWhile (· != closingBrace) := by
    unfold cut
    rw [String.toList_ofList, ← htext, List.takeWhile_append_of_pos hfree,
      takeWhile_append_of_mem hx (by decide)]
  have hprefix : x.text.takeWhile (· != closingBrace) <+: (x :: after).flatMap (·.text) :=
    (List.takeWhile_prefix _).trans (List.prefix_append _ _)
  unfold Token.scan
  rw [hpart, Token.lexemes_flatMap_append h hprefix, Token.number_append]

/-- The tokens of a body around one of its lexemes. -/
theorem scan_eq {body : String} {before after : List Token.Lexeme} {x : Token.Lexeme}
    (h : Token.lexemes body.toList = before ++ x :: after) (hx : x.kind ≠ .blank) :
    Token.scan body = Token.number 1 before ++
      ⟨x.kind, String.ofList x.text, 1 + Token.lineFeeds before⟩ ::
        Token.number (1 + Token.lineFeeds before + x.text.count '\n') after := by
  unfold Token.scan
  rw [h, Token.number_append, Token.number, if_neg hx]

/-- The tokens of a text without braces have none. -/
theorem not_mem_value_of_scan {line : Nat} {text : List Char} (h : closingBrace ∉ text) :
    ∀ token ∈ Token.number line (Token.lexemes text), closingBrace ∉ token.value.toList := by
  intro token ht hb
  obtain ⟨x, hx, -, hv⟩ := Token.exists_of_mem_number ht
  rw [hv] at hb
  refine h ?_
  rw [← Token.flatMap_text_lexemes text]
  exact List.mem_flatMap.2 ⟨x, hx, hb⟩

/-- What is left of a tag that is cut holds one backquote. -/
theorem count_takeWhile_of_tag {text rest : List Char} (h : Token.Lexes .tag text rest)
    (hb : closingBrace ∈ text) : (text.takeWhile (· != closingBrace)).count '`' < 2 := by
  cases h with
  | tag h =>
    rename_i body
    have hbody : closingBrace ∈ body := by
      have hne : closingBrace ≠ '`' := by decide
      simpa [hne] using hb
    rw [List.takeWhile_cons_of_pos (by decide), takeWhile_append_of_mem hbody (by decide),
      List.count_cons_self]
    have hnone : '`' ∉ body.takeWhile (· != closingBrace) := fun hm =>
      h ((List.takeWhile_sublist _).subset hm)
    rw [List.count_eq_zero_of_not_mem hnone]
    omega

theorem kind_ne_tag_of_tag {text rest : List Char} (h : Token.Lexes .tag text rest)
    (hb : closingBrace ∈ text) (line : Nat) :
    ∀ token ∈ Token.number line (Token.lexemes (text.takeWhile (· != closingBrace))),
      token.kind ≠ .tag := by
  intro token ht
  obtain ⟨y, hy, hky, -⟩ := Token.exists_of_mem_number ht
  rw [hky]
  exact Token.kind_ne_tag_of_count (count_takeWhile_of_tag h hb) y hy

/-- What is left of a comment that is cut is a comment. -/
theorem lexemes_takeWhile_of_comment {text rest : List Char} (h : Token.Lexes .comment text rest) :
    Token.lexemes (text.takeWhile (· != closingBrace)) =
      [⟨.comment, text.takeWhile (· != closingBrace)⟩] := by
  cases h with
  | comment h hr =>
    rename_i body
    have hcomment : Token.Lexes .comment ('/' :: '/' :: body.takeWhile (· != closingBrace)) [] :=
      .comment (fun d hd => h d ((List.takeWhile_sublist _).subset hd)) (by simp)
    rw [List.takeWhile_cons_of_pos (by decide), List.takeWhile_cons_of_pos (by decide)]
    simpa using Token.lexemes_append hcomment

/-- Behind a comment stands a line end, if anything. -/
theorem endsStatement_of_comment {text : List Char} {after : List Token.Lexeme}
    (h : Token.Lexes .comment text (after.flatMap (·.text)))
    (hafter : Token.lexemes (after.flatMap (·.text)) = after) (line : Nat) :
    ∀ token ∈ (Token.number line after).head?, token.endsStatement := by
  cases h with
  | comment _ hr =>
    cases htext : after.flatMap (·.text) with
    | nil =>
      rw [htext, Token.lexemes_nil] at hafter
      subst hafter
      simp [Token.number]
    | cons c rest =>
      rw [htext] at hr hafter
      obtain rfl := hr c rfl
      have hfeed : Token.lexemes (['\n'] ++ rest) = _ := Token.lexemes_append .lineFeed
      rw [List.singleton_append, hafter] at hfeed
      subst hfeed
      intro token ht
      obtain rfl := Option.some.inj ht
      rfl

/-- What is kept of the statement that is cut holds no closing brace. -/
theorem not_mem_value_of_kept {before : List Token.Lexeme}
    (hbefore : ∀ y ∈ before, closingBrace ∉ y.text) (line : Nat) (text : List Char) :
    ∀ token ∈ (Token.number 1 before).rtakeWhile (!·.endsStatement) ++
        Token.number line (Token.lexemes (text.takeWhile (· != closingBrace))),
      closingBrace ∉ token.value.toList := by
  intro token ht
  rcases List.mem_append.1 ht with ht | ht
  · obtain ⟨y, hy, -, hv⟩ := Token.exists_of_mem_number ((List.rtakeWhile_suffix _ _).subset ht)
    rw [hv]
    exact hbefore y hy
  · refine not_mem_value_of_scan (fun hm => ?_) token ht
    simpa using List.mem_takeWhile_imp hm

/-- A body that is cut inside one of its lexemes says the same exactly if `SaysSame` holds. -/
theorem read_cut_iff_of_split {body : String} {before after : List Token.Lexeme} {x : Token.Lexeme}
    (h : Token.lexemes body.toList = before ++ x :: after)
    (hbefore : ∀ y ∈ before, closingBrace ∉ y.text) (hx : closingBrace ∈ x.text)
    (hk : x.kind ≠ .punct) : read (cut body) = read body ↔ SaysSame before x after := by
  have hlexes := Token.lexes_of_mem h
  have hkind := Token.kind_of_closingBrace hlexes hx
  have hblank : x.kind ≠ .blank := by
    rintro hblank
    simp [hblank] at hkind
  have hopen : ∀ token ∈ (Token.number 1 before).rtakeWhile (!·.endsStatement),
      token.endsStatement = false := fun token ht => by simpa using List.mem_rtakeWhile_imp ht
  have hvalue : closingBrace ∈
      (⟨x.kind, String.ofList x.text, 1 + Token.lineFeeds before⟩ : Token).value.toList := by
    rwa [String.toList_ofList]
  have hkept := not_mem_value_of_kept hbefore (1 + Token.lineFeeds before) x.text
  rw [read_eq_ofTokens, read_eq_ofTokens, scan_cut h hbefore hx, scan_eq h hblank,
    ofTokens_append_of_open, ofTokens_append_of_open (Token.number 1 before) (_ :: _),
    append_right_inj]
  unfold SaysSame
  rcases hkind with hkind | hkind | hkind | ⟨hkind, -⟩
  · have hpart := kind_ne_tag_of_tag (hkind ▸ hlexes) hx (1 + Token.lineFeeds before)
    refine iff_of_false (ofTokens_ne_of_tag hkept hopen (fun hopened token ht =>
      (List.mem_append.1 ht).elim (hopened token) (hpart token)) hkind hvalue _) ?_
    simp [hkind]
  · rw [ofTokens_eq_iff_of_quoted hkept hopen hkind hvalue]
    simp [hkind]
  · rw [hkind] at hlexes
    have hnext := endsStatement_of_comment hlexes
      (Token.lexes_of_lexemes (Token.lexemes_flatMap h)).2
      (1 + Token.lineFeeds before + x.text.count '\n')
    rw [lexemes_takeWhile_of_comment hlexes, Token.number, if_neg (by simp), Token.number,
      ofTokens_eq_iff_of_comment hkind hnext _ rfl]
    simp [hkind]
  · exact absurd hkind hk

/-- A body without braces as punctuation says the same up to its first closing brace exactly if what
is cut inside the lexeme that holds the brace says the same. -/
theorem read_cut_iff {body : String}
    (hbody : ∀ token ∈ Token.scan body, token.kind = .punct → token.value ≠ "\x7d") :
    read (cut body) = read body ↔ ∀ before x after,
      Token.lexemes body.toList = before ++ x :: after → (∀ y ∈ before, closingBrace ∉ y.text) →
        closingBrace ∈ x.text → SaysSame before x after := by
  have hpunct : ∀ before x after, Token.lexemes body.toList = before ++ x :: after →
      closingBrace ∈ x.text → x.kind ≠ .punct := by
    intro before x after h hx hk
    have hscan := scan_eq h (by simp [hk])
    have hkind := Token.kind_of_closingBrace (Token.lexes_of_mem h) hx
    simp only [hk, reduceCtorEq, false_or, true_and] at hkind
    exact hbody _ (hscan ▸ List.mem_append_right _ List.mem_cons_self) hk (by rw [hkind])
  constructor
  · intro hread before x after h hbefore hx
    exact (read_cut_iff_of_split h hbefore hx (hpunct before x after h hx)).1 hread
  · intro hall
    cases hfind : (Token.lexemes body.toList).find? (decide <| closingBrace ∈ ·.text) with
    | some x =>
      obtain ⟨hx, before, after, h, hbefore⟩ := List.find?_eq_some_iff_append.1 hfind
      have hx : closingBrace ∈ x.text := by simpa using hx
      have hbefore : ∀ y ∈ before, closingBrace ∉ y.text := by simpa using hbefore
      exact (read_cut_iff_of_split h hbefore hx (hpunct before x after h hx)).2
        (hall before x after h hbefore hx)
    | none =>
      have hfree : ∀ c ∈ body.toList, (c != closingBrace) = true := by
        intro c hc
        rw [← Token.flatMap_text_lexemes body.toList] at hc
        obtain ⟨y, hy, hc⟩ := List.mem_flatMap.1 hc
        have := List.find?_eq_none.1 hfind y hy
        rw [bne_iff_ne]
        rintro rfl
        exact this (by simpa using hc)
      unfold cut
      rw [List.takeWhile_eq_self_iff.2 hfree, String.ofList_toList]

end StructBody

end StructSchema
