import Mathlib.Data.List.TakeWhile
import Mathlib.Tactic.SplitIfs
import StructSchema.Proofs.CharClasses

/-!
# What the lexemes of a text are

`Lexes kind text rest` says that `text` is a lexeme of a kind in front of `rest`: one clause for
each kind. A text begins with a lexeme exactly if it is one in front of what follows:
`lexemes_append` and `lexes_of_lexemes`. A lexeme stays one when the text behind it is cut off, so a
text that is cut keeps the lexemes before the cut: `lexemes_flatMap_append`.
-/

namespace StructSchema.Token

/-! ## Runs -/

theorem takeWhile_append_of_head? {p : Char → Bool} {body rest : List Char}
    (h : ∀ d ∈ body, p d) (hr : ∀ d ∈ rest.head?, p d = false) :
    (body ++ rest).takeWhile p = body := by
  rw [List.takeWhile_append_of_pos h]
  cases rest with
  | nil => simp
  | cons d rest => rw [List.takeWhile_cons_of_neg (by simp [hr d rfl]), List.append_nil]

theorem dropWhile_append_of_head? {p : Char → Bool} {body rest : List Char}
    (h : ∀ d ∈ body, p d) (hr : ∀ d ∈ rest.head?, p d = false) :
    (body ++ rest).dropWhile p = rest := by
  rw [List.dropWhile_append_of_pos h]
  cases rest with
  | nil => rfl
  | cons d rest => exact List.dropWhile_cons_of_neg (by simp [hr d rfl])

theorem take_length_takeWhile (p : Char → Bool) (rest : List Char) :
    rest.take (rest.takeWhile p).length = rest.takeWhile p := by
  calc rest.take (rest.takeWhile p).length
      = (rest.takeWhile p ++ rest.dropWhile p).take (rest.takeWhile p).length := by
        rw [List.takeWhile_append_dropWhile]
    _ = rest.takeWhile p := List.take_left

theorem drop_length_takeWhile (p : Char → Bool) (rest : List Char) :
    rest.drop (rest.takeWhile p).length = rest.dropWhile p := by
  calc rest.drop (rest.takeWhile p).length
      = (rest.takeWhile p ++ rest.dropWhile p).drop (rest.takeWhile p).length := by
        rw [List.takeWhile_append_dropWhile]
    _ = rest.dropWhile p := List.drop_left

theorem head?_dropWhile_eq_false {α : Type} (p : α → Bool) (rest : List α) :
    ∀ d ∈ (rest.dropWhile p).head?, p d = false := by
  intro d hd
  have := List.head?_dropWhile_not p rest
  rw [Option.mem_def.1 hd] at this
  exact this

theorem head?_of_isPrefix {P : Char → Prop} {part rest : List Char} (hp : part <+: rest)
    (hr : ∀ d ∈ rest.head?, P d) : ∀ d ∈ part.head?, P d := by
  obtain ⟨more, rfl⟩ := hp
  cases part with
  | nil => simp
  | cons c part => exact hr

/-! ## Raw and quoted strings -/

theorem rawLength?_append {body : List Char} (h : '`' ∉ body) (rest : List Char) :
    rawLength? (body ++ '`' :: rest) = some (body.length + 1) := by
  induction body with
  | nil => simp [rawLength?]
  | cons c body ih =>
    rw [List.mem_cons, not_or] at h
    rw [List.cons_append, rawLength?, if_neg (Ne.symm h.1), ih h.2]
    rfl

/-- A raw string ends at the first backquote. -/
theorem exists_of_rawLength? {rest : List Char} {n : Nat} (h : rawLength? rest = some n) :
    ∃ body more, rest = body ++ '`' :: more ∧ '`' ∉ body ∧ n = body.length + 1 := by
  induction rest generalizing n with
  | nil => cases h
  | cons c rest ih =>
    rw [rawLength?] at h
    split at h
    · rename_i hc
      cases h
      exact ⟨[], rest, by rw [hc]; rfl, List.not_mem_nil, rfl⟩
    · rename_i hc
      obtain ⟨m, hm, rfl⟩ := Option.map_eq_some_iff.1 h
      obtain ⟨body, more, rfl, hb, rfl⟩ := ih hm
      refine ⟨c :: body, more, rfl, ?_, rfl⟩
      rw [List.mem_cons, not_or]
      exact ⟨Ne.symm hc, hb⟩

/-- What is unclosed was so before more followed. -/
theorem rawLength?_eq_none_of_append {part more : List Char}
    (h : rawLength? (part ++ more) = none) : rawLength? part = none := by
  cases hn : rawLength? part with
  | none => rfl
  | some n =>
    obtain ⟨body, rest, rfl, hb, -⟩ := exists_of_rawLength? hn
    rw [List.append_assoc, List.cons_append, rawLength?_append hb] at h
    cases h

/-- The rest of a quoted string behind its opening quote. -/
inductive Literal : List Char → Prop where
  | close : Literal ['"']
  | escaped {c : Char} {body : List Char} (hc : c ≠ '\n') (h : Literal body) :
    Literal ('\\' :: c :: body)
  | plain {c : Char} {body : List Char} (hquote : c ≠ '"') (hslash : c ≠ '\\') (hc : c ≠ '\n')
    (h : Literal body) : Literal (c :: body)

/-- A quoted string stands on one line. -/
theorem Literal.not_mem_lineFeed {body : List Char} (h : Literal body) : '\n' ∉ body := by
  induction h with
  | close => decide
  | escaped hc _ ih => simpa using ⟨Ne.symm hc, ih⟩
  | plain _ _ hc _ ih => simpa using ⟨Ne.symm hc, ih⟩

theorem quotedLength?_append {body : List Char} (h : Literal body) (rest : List Char) :
    quotedLength? (body ++ rest) = some body.length := by
  induction h with
  | close => rfl
  | escaped hc _ ih =>
    rw [List.cons_append, List.cons_append, quotedLength?, if_neg hc, ih]
    rfl
  | plain hquote hslash hc _ ih =>
    rw [List.cons_append, quotedLength?.eq_5 _ _ hquote (fun _ _ h => absurd h hslash)
      (fun h => absurd h hslash), if_neg hc, ih]
    rfl

theorem exists_of_quotedLength? {rest : List Char} {n : Nat} (h : quotedLength? rest = some n) :
    ∃ body more, rest = body ++ more ∧ Literal body ∧ n = body.length := by
  induction rest using quotedLength?.induct generalizing n with
  | case1 => cases h
  | case2 rest =>
    cases h
    exact ⟨['"'], rest, rfl, .close, rfl⟩
  | case3 rest => simp [quotedLength?] at h
  | case4 c rest hc ih =>
    rw [quotedLength?, if_neg hc] at h
    obtain ⟨m, hm, rfl⟩ := Option.map_eq_some_iff.1 h
    obtain ⟨body, more, rfl, hb, rfl⟩ := ih hm
    exact ⟨'\\' :: c :: body, more, rfl, .escaped hc hb, rfl⟩
  | case5 => cases h
  | case6 rest => simp [quotedLength?] at h
  | case7 c rest h₁ h₂ h₃ hc ih =>
    rw [quotedLength?.eq_5 c rest h₁ h₂ h₃, if_neg hc] at h
    obtain ⟨m, hm, rfl⟩ := Option.map_eq_some_iff.1 h
    obtain ⟨body, more, rfl, hb, rfl⟩ := ih hm
    have hslash : c ≠ '\\' := fun he => by
      cases h : body ++ more with
      | nil => exact h₃ he h
      | cons d rest => exact h₂ d rest he h
    exact ⟨c :: body, more, rfl, .plain h₁ hslash hc hb, rfl⟩

/-- What is unclosed was so before more followed. -/
theorem quotedLength?_eq_none_of_append {part more : List Char}
    (h : quotedLength? (part ++ more) = none) : quotedLength? part = none := by
  cases hn : quotedLength? part with
  | none => rfl
  | some n =>
    obtain ⟨body, rest, rfl, hb, -⟩ := exists_of_quotedLength? hn
    rw [List.append_assoc, quotedLength?_append hb] at h
    cases h

/-! ## Lexemes -/

/-- `Lexes kind text rest`: in front of `rest` the text is a lexeme of the kind. -/
inductive Lexes : Kind → List Char → List Char → Prop where
  | tag {body rest : List Char} (h : '`' ∉ body) : Lexes .tag ('`' :: (body ++ ['`'])) rest
  | quoted {body rest : List Char} (h : Literal body) : Lexes .quoted ('"' :: body) rest
  | comment {body rest : List Char} (h : ∀ d ∈ body, d ≠ '\n') (hr : ∀ d ∈ rest.head?, d = '\n') :
    Lexes .comment ('/' :: '/' :: body) rest
  | ident {c : Char} {body rest : List Char} (hc : Text.isNameStart c)
    (h : ∀ d ∈ body, Text.isWordChar d) (hr : ∀ d ∈ rest.head?, Text.isWordChar d = false) :
    Lexes .ident (c :: body) rest
  | number {c : Char} {body rest : List Char} (hc : Text.isDecimalDigit c)
    (h : ∀ d ∈ body, Text.isDecimalDigit d) (hr : ∀ d ∈ rest.head?, Text.isDecimalDigit d = false) :
    Lexes .number (c :: body) rest
  | lineFeed {rest : List Char} : Lexes .lineFeed ['\n'] rest
  | semicolon {rest : List Char} : Lexes .semicolon [';'] rest
  | blank {c : Char} {body rest : List Char} (hc : isSkipped c) (h : ∀ d ∈ body, isSkipped d)
    (hr : ∀ d ∈ rest.head?, isSkipped d = false) : Lexes .blank (c :: body) rest
  | punct {c : Char} {rest : List Char} (hc : isPunct c) : Lexes .punct [c] rest
  | mismatch {c : Char} {rest : List Char} (h : extent c rest = (.mismatch, 0)) :
    Lexes .mismatch [c] rest

/-- A run of characters behind the first one. -/
theorem run_spec (p : Char → Bool) (rest : List Char) :
    (∀ d ∈ rest.take (rest.takeWhile p).length, p d) ∧
      ∀ d ∈ (rest.drop (rest.takeWhile p).length).head?, p d = false := by
  rw [take_length_takeWhile, drop_length_takeWhile]
  exact ⟨fun d hd => List.mem_takeWhile_imp hd, head?_dropWhile_eq_false p rest⟩

/-- What the extent of a character takes is a lexeme. -/
theorem lexes_extent (c : Char) (rest : List Char) :
    Lexes (extent c rest).1 (c :: rest.take (extent c rest).2) (rest.drop (extent c rest).2) := by
  generalize he : extent c rest = found
  have hfound := he
  unfold extent at hfound
  split_ifs at hfound with htag hquote hslash hname hdigit hfeed hsemi hblank hpunct
  · subst htag
    split at hfound
    · rename_i n hn
      subst hfound
      obtain ⟨body, more, rfl, hb, rfl⟩ := exists_of_rawLength? hn
      have htake : (body ++ '`' :: more).take (body.length + 1) = body ++ ['`'] := by
        rw [List.append_cons]
        exact List.take_left' (by simp)
      show Lexes .tag ('`' :: (body ++ '`' :: more).take (body.length + 1)) _
      rw [htake]
      exact .tag hb
    · subst hfound
      exact .mismatch he
  · subst hquote
    split at hfound
    · rename_i n hn
      subst hfound
      obtain ⟨body, more, rfl, hb, rfl⟩ := exists_of_quotedLength? hn
      show Lexes .quoted ('"' :: (body ++ more).take body.length) _
      rw [List.take_left]
      exact .quoted hb
    · subst hfound
      exact .mismatch he
  · subst hfound
    obtain ⟨rfl, hslash⟩ := hslash
    cases rest with
    | nil => cases hslash
    | cons d rest =>
      cases hslash
      obtain ⟨h, hr⟩ := run_spec (· != '\n') rest
      exact .comment (fun d hd => by simpa using h d hd) (fun d hd => by simpa using hr d hd)
  · subst hfound
    obtain ⟨h, hr⟩ := run_spec Text.isWordChar rest
    exact .ident hname h hr
  · subst hfound
    obtain ⟨h, hr⟩ := run_spec Text.isDecimalDigit rest
    exact .number hdigit h hr
  · subst hfound hfeed
    exact .lineFeed
  · subst hfound hsemi
    exact .semicolon
  · subst hfound
    obtain ⟨h, hr⟩ := run_spec isSkipped rest
    exact .blank hblank h hr
  · subst hfound
    exact .punct hpunct
  · subst hfound
    exact .mismatch he

/-- Punctuation is a lexeme of its own. -/
theorem extent_of_isPunct {c : Char} (hc : isPunct c) (rest : List Char) :
    extent c rest = (.punct, 0) := by
  simp only [isPunct, List.contains_iff_mem, List.mem_cons, List.not_mem_nil, or_false] at hc
  rcases hc with rfl | rfl | rfl | rfl | rfl | rfl | rfl | rfl | rfl <;> rfl

/-- The extent of the first character of a lexeme. -/
theorem extent_of_lexes {kind : Kind} {c : Char} {body rest : List Char}
    (h : Lexes kind (c :: body) rest) : extent c (body ++ rest) = (kind, body.length) := by
  cases h with
  | tag h =>
    unfold extent
    rw [List.append_assoc, List.singleton_append, rawLength?_append h, if_pos rfl]
    simp
  | quoted h =>
    unfold extent
    rw [quotedLength?_append h, if_neg (by decide), if_pos rfl]
  | comment h hr =>
    have hrun : ∀ rest : List Char, extent '/' ('/' :: rest) =
        (.comment, ('/' :: rest.takeWhile (· != '\n')).length) := fun _ => rfl
    rw [List.cons_append, hrun, takeWhile_append_of_head? (by simpa using h) (by simpa using hr)]
  | ident hc h hr =>
    have htag : c ≠ '`' := ne_of_class hc (by decide)
    have hquote : c ≠ '"' := ne_of_class hc (by decide)
    have hslash : c ≠ '/' := ne_of_class hc (by decide)
    unfold extent
    rw [if_neg htag, if_neg hquote, if_neg (fun h => hslash h.1), if_pos hc]
    show (Kind.ident, ((body ++ rest).takeWhile Text.isWordChar).length) = _
    rw [takeWhile_append_of_head? h hr]
  | number hc h hr =>
    have htag : c ≠ '`' := ne_of_class hc (by decide)
    have hquote : c ≠ '"' := ne_of_class hc (by decide)
    have hslash : c ≠ '/' := ne_of_class hc (by decide)
    have hname : Text.isNameStart c = false :=
      Text.isNameStart_eq_false_of_isDecimalDigit hc
    unfold extent
    rw [if_neg htag, if_neg hquote, if_neg (fun h => hslash h.1), if_neg (by simp [hname]),
      if_pos hc]
    show (Kind.number, ((body ++ rest).takeWhile Text.isDecimalDigit).length) = _
    rw [takeWhile_append_of_head? h hr]
  | lineFeed => rfl
  | semicolon => rfl
  | blank hc h hr =>
    have hrun : extent c (body ++ rest) =
        (.blank, ((body ++ rest).takeWhile isSkipped).length) := by
      rcases isSkipped_iff.1 hc with rfl | rfl | rfl
      · rfl
      · rfl
      · rfl
    rw [hrun, takeWhile_append_of_head? h hr]
  | punct hc => exact extent_of_isPunct hc _
  | mismatch h => exact h

/-- A lexeme in front of a text is the first of its lexemes. -/
theorem lexemes_append {kind : Kind} {text rest : List Char} (h : Lexes kind text rest) :
    lexemes (text ++ rest) = ⟨kind, text⟩ :: lexemes rest := by
  cases text with
  | nil => cases h
  | cons c body =>
    rw [List.cons_append, lexemes_cons, extent_of_lexes h, List.take_left, List.drop_left]

/-- The first of the lexemes of a text, and the others. -/
theorem lexes_of_lexemes {text : List Char} {x : Lexeme} {after : List Lexeme}
    (h : lexemes text = x :: after) :
    Lexes x.kind x.text (after.flatMap (·.text)) ∧ lexemes (after.flatMap (·.text)) = after := by
  cases text with
  | nil => simp at h
  | cons c rest =>
    rw [lexemes_cons] at h
    obtain ⟨rfl, rfl⟩ := List.cons.inj h
    rw [flatMap_text_lexemes]
    exact ⟨lexes_extent c rest, rfl⟩

/-- The lexemes of a text from one of them on. -/
theorem lexemes_flatMap {text : List Char} {before after : List Lexeme}
    (h : lexemes text = before ++ after) : lexemes (after.flatMap (·.text)) = after := by
  induction before generalizing text with
  | nil => rw [← List.nil_append after, ← h, flatMap_text_lexemes]
  | cons x before ih => exact ih (lexes_of_lexemes h).2

/-- Every lexeme of a text is one in front of those behind it. -/
theorem lexes_of_mem {text : List Char} {before after : List Lexeme} {x : Lexeme}
    (h : lexemes text = before ++ x :: after) :
    Lexes x.kind x.text (after.flatMap (·.text)) :=
  (lexes_of_lexemes (lexemes_flatMap h)).1

theorem exists_lexes_of_mem {text : List Char} {x : Lexeme} (h : x ∈ lexemes text) :
    ∃ rest, Lexes x.kind x.text rest := by
  obtain ⟨before, after, hsplit⟩ := List.append_of_mem h
  exact ⟨_, lexes_of_mem hsplit⟩

/-! ## Characters of lexemes -/

theorem Lexes.isSkipped_of_mem {text rest : List Char} (h : Lexes .blank text rest) :
    ∀ c ∈ text, isSkipped c := by
  cases h with
  | blank hc h _ => exact List.forall_mem_cons.2 ⟨hc, h⟩

/-- No lexeme but a line feed and a raw string holds a line feed. -/
theorem Lexes.lineFeed_or_tag {kind : Kind} {text rest : List Char} (h : Lexes kind text rest)
    (hm : '\n' ∈ text) : kind = .lineFeed ∧ text = ['\n'] ∨ kind = .tag := by
  cases h with
  | tag _ => exact .inr rfl
  | lineFeed => exact .inl ⟨rfl, rfl⟩
  | quoted h => exact absurd hm (by simpa using h.not_mem_lineFeed)
  | comment h _ =>
    have hbody : '\n' ∉ _ := fun hm => h '\n' hm rfl
    exact absurd hm (by simpa using hbody)
  | ident hc h _ => exact absurd hm (not_mem_run hc h (by decide) (by decide))
  | number hc h _ => exact absurd hm (not_mem_run hc h (by decide) (by decide))
  | blank hc h _ => exact absurd hm (not_mem_run hc h (by decide) (by decide))
  | semicolon => exact absurd hm (by decide)
  | punct hc => exact absurd (List.mem_singleton.1 hm).symm (ne_of_class hc (by decide))
  | mismatch h =>
    rw [← List.mem_singleton.1 hm] at h
    cases h

/-! ## Cutting a text -/

/-- An unclosed quote stays unclosed, and a character that begins no lexeme begins none. -/
theorem extent_mismatch_of_isPrefix {c : Char} {part rest : List Char} (hp : part <+: rest)
    (h : extent c rest = (.mismatch, 0)) : extent c part = (.mismatch, 0) := by
  obtain ⟨more, rfl⟩ := hp
  have hmore : c = '/' ∧ part.head? = some '/' → c = '/' ∧ (part ++ more).head? = some '/' := by
    rintro ⟨rfl, hd⟩
    cases part with
    | nil => cases hd
    | cons d part => exact ⟨rfl, hd⟩
  unfold extent at h ⊢
  by_cases htag : c = '`'
  · rw [if_pos htag] at h ⊢
    split at h
    · cases h
    · rename_i hn
      rw [rawLength?_eq_none_of_append hn]
  rw [if_neg htag] at h ⊢
  by_cases hquote : c = '"'
  · rw [if_pos hquote] at h ⊢
    split at h
    · cases h
    · rename_i hn
      rw [quotedLength?_eq_none_of_append hn]
  rw [if_neg hquote] at h ⊢
  by_cases hslash : c = '/' ∧ (part ++ more).head? = some '/'
  · rw [if_pos hslash] at h
    cases h
  rw [if_neg hslash] at h
  rw [if_neg (mt hmore hslash)]
  split_ifs at h ⊢
  all_goals cases h
  rfl

/-- A lexeme stays one when the text behind it is cut off. -/
theorem Lexes.of_isPrefix {kind : Kind} {text part rest : List Char} (hp : part <+: rest)
    (h : Lexes kind text rest) : Lexes kind text part := by
  cases h with
  | tag h => exact .tag h
  | quoted h => exact .quoted h
  | comment h hr => exact .comment h (head?_of_isPrefix hp hr)
  | ident hc h hr => exact .ident hc h (head?_of_isPrefix hp hr)
  | number hc h hr => exact .number hc h (head?_of_isPrefix hp hr)
  | lineFeed => exact .lineFeed
  | semicolon => exact .semicolon
  | blank hc h hr => exact .blank hc h (head?_of_isPrefix hp hr)
  | punct hc => exact .punct hc
  | mismatch h => exact .mismatch (extent_mismatch_of_isPrefix hp h)

/-- A text that is cut keeps the lexemes before the cut. -/
theorem lexemes_flatMap_append {text part : List Char} {before after : List Lexeme}
    (h : lexemes text = before ++ after) (hp : part <+: after.flatMap (·.text)) :
    lexemes (before.flatMap (·.text) ++ part) = before ++ lexemes part := by
  induction before generalizing text with
  | nil => rfl
  | cons x before ih =>
    rw [List.cons_append] at h
    obtain ⟨hx, hrest⟩ := lexes_of_lexemes h
    rw [List.flatMap_append] at hx
    have hpart : before.flatMap (·.text) ++ part <+:
        before.flatMap (·.text) ++ after.flatMap (·.text) := (List.prefix_append_right_inj _).2 hp
    rw [List.flatMap_cons, List.append_assoc, lexemes_append (hx.of_isPrefix hpart), ih hrest]
    rfl

end StructSchema.Token
