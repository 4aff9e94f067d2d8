import StructSchema.Proofs.Statements

/-!
# Where tokens stand

The text of a body is its tokens with blanks between them: `Token.interleave`. The text before a
token tells its line, and as no lexeme but a line feed and a raw string holds a line feed, every one
is a token or stands in a tag: `Token.scan_covers`.
-/

namespace StructSchema.Token

/-- Tokens with what stands between them: a gap, a token, a gap, and so on. -/
def interleave : List (List Char) → List Token → List Char
  | gap :: gaps, token :: tokens => gap ++ (token.value.toList ++ interleave gaps tokens)
  | gaps, _ => gaps.flatten

variable {gap : List Char} {gaps : List (List Char)} {token : Token} {tokens : List Token}

theorem interleave_append_gap (blanks gap : List Char) (gaps : List (List Char))
    (tokens : List Token) : interleave ((blanks ++ gap) :: gaps) tokens =
      blanks ++ interleave (gap :: gaps) tokens := by
  cases tokens with
  | nil => simp [interleave]
  | cons token tokens => simp [interleave]

/-- The text before the token in place `i`. -/
def textBefore (gaps : List (List Char)) (tokens : List Token) (i : Nat) : List Char :=
  interleave (gaps.take (i + 1)) (tokens.take i)

@[simp] theorem textBefore_zero (gap : List Char) (gaps : List (List Char)) (tokens : List Token) :
    textBefore (gap :: gaps) tokens 0 = gap := by simp [textBefore, interleave]

@[simp] theorem textBefore_succ (gap : List Char) (gaps : List (List Char)) (token : Token)
    (tokens : List Token) (i : Nat) : textBefore (gap :: gaps) (token :: tokens) (i + 1) =
      gap ++ (token.value.toList ++ textBefore gaps tokens i) := rfl

theorem textBefore_append_gap (blanks gap : List Char) (gaps : List (List Char))
    (tokens : List Token) (i : Nat) : textBefore ((blanks ++ gap) :: gaps) tokens i =
      blanks ++ textBefore (gap :: gaps) tokens i :=
  interleave_append_gap blanks gap (gaps.take i) (tokens.take i)

/-! ## The gaps -/

/-- Gaps between the tokens of a text that begins on a line. -/
structure Gaps (line : Nat) (text : List Char) (tokens : List Token) (gaps : List (List Char)) :
    Prop where
  length_eq : gaps.length = tokens.length + 1
  isSkipped_of_mem : ∀ gap ∈ gaps, ∀ c ∈ gap, isSkipped c
  text_eq : text = interleave gaps tokens
  line_eq : ∀ i token, tokens[i]? = some token →
    token.line = line + (textBefore gaps tokens i).count '\n'

theorem Gaps.nil (line : Nat) : Gaps line [] [] [[]] where
  length_eq := rfl
  isSkipped_of_mem := by simp
  text_eq := rfl
  line_eq := by simp

/-- Blanks in front of a text belong to its first gap. -/
theorem Gaps.blanks {line : Nat} {text blanks : List Char} (hblanks : ∀ c ∈ blanks, isSkipped c)
    (h : Gaps (line + blanks.count '\n') text tokens (gap :: gaps)) :
    Gaps line (blanks ++ text) tokens ((blanks ++ gap) :: gaps) where
  length_eq := h.length_eq
  isSkipped_of_mem := by
    have hall := List.forall_mem_cons.1 h.isSkipped_of_mem
    refine List.forall_mem_cons.2 ⟨fun c hc => ?_, hall.2⟩
    rcases List.mem_append.1 hc with hc | hc
    · exact hblanks c hc
    · exact hall.1 c hc
  text_eq := by rw [interleave_append_gap, ← h.text_eq]
  line_eq := by
    intro i token ht
    rw [textBefore_append_gap, List.count_append, h.line_eq i token ht, Nat.add_assoc]

/-- A token in front of a text stands behind an empty gap. -/
theorem Gaps.behind {line : Nat} {text value : List Char} {kind : Kind}
    (h : Gaps (line + value.count '\n') text tokens gaps) :
    Gaps line (value ++ text) (⟨kind, String.ofList value, line⟩ :: tokens) ([] :: gaps) where
  length_eq := congrArg (· + 1) h.length_eq
  isSkipped_of_mem := List.forall_mem_cons.2 ⟨by simp, h.isSkipped_of_mem⟩
  text_eq := by
    rw [h.text_eq]
    simp [interleave]
  line_eq := by
    intro i token ht
    cases i with
    | zero =>
      obtain rfl := Option.some.inj ht
      simp
    | succ i =>
      rw [textBefore_succ, List.nil_append, String.toList_ofList, List.count_append,
        h.line_eq i token ht, Nat.add_assoc]

/-- The text of lexemes has gaps between its tokens if every lexeme of blanks holds blanks alone. -/
theorem exists_gaps {xs : List Lexeme} (h : ∀ x ∈ xs, x.kind = .blank → ∀ c ∈ x.text, isSkipped c)
    (line : Nat) : ∃ gaps, Gaps line (xs.flatMap (·.text)) (number line xs) gaps := by
  induction xs generalizing line with
  | nil => exact ⟨[[]], .nil line⟩
  | cons x xs ih =>
    rw [List.forall_mem_cons] at h
    obtain ⟨gaps, hgaps⟩ := ih h.2 (line + x.text.count '\n')
    rw [List.flatMap_cons, number]
    by_cases hx : x.kind = .blank
    · rw [if_pos hx]
      cases gaps with
      | nil => cases hgaps.length_eq
      | cons gap gaps => exact ⟨_, hgaps.blanks (h.1 hx)⟩
    · rw [if_neg hx]
      exact ⟨_, hgaps.behind⟩

/-! ## Characters in tokens -/

/-- A character that stands in no gap stands in a token. -/
theorem exists_token_of_getElem? {c : Char} {k : Nat} (hlength : gaps.length = tokens.length + 1)
    (hgaps : ∀ gap ∈ gaps, c ∉ gap) (hk : (interleave gaps tokens)[k]? = some c) :
    ∃ i token, tokens[i]? = some token ∧ (textBefore gaps tokens i).length ≤ k ∧
      k < (textBefore gaps tokens i).length + token.value.length ∧ c ∈ token.value.toList := by
  induction tokens generalizing gaps k with
  | nil =>
    have hm : c ∈ gaps.flatten := by
      rw [interleave] at hk
      · exact List.mem_of_getElem? hk
      · simp
    obtain ⟨gap, hg, hc⟩ := List.mem_flatten.1 hm
    exact absurd hc (hgaps gap hg)
  | cons token tokens ih =>
    cases gaps with
    | nil => cases hlength
    | cons gap gaps =>
      rw [List.forall_mem_cons] at hgaps
      rw [interleave, List.getElem?_append] at hk
      split at hk
      · exact absurd (List.mem_of_getElem? hk) hgaps.1
      · rename_i hgap
        rw [List.getElem?_append] at hk
        split at hk
        · rename_i hvalue
          refine ⟨0, token, rfl, ?_, ?_, List.mem_of_getElem? hk⟩
          · rw [textBefore_zero]
            omega
          · rw [textBefore_zero, ← String.length_toList]
            omega
        · rename_i hvalue
          obtain ⟨i, found, hi, hle, hlt, hc⟩ := ih (by simpa using hlength) hgaps.2 hk
          refine ⟨i + 1, found, hi, ?_, ?_, hc⟩
          · rw [textBefore_succ, List.length_append, List.length_append]
            omega
          · rw [textBefore_succ, List.length_append, List.length_append]
            omega

/-! ## Tokens of a text -/

theorem value_ne_of_mem_scan {text : String} (h : token ∈ scan text) : token.value ≠ "" := by
  obtain ⟨x, hx, -, hvalue⟩ := exists_of_mem_number h
  rw [← String.toList_inj.ne, hvalue]
  exact text_ne_nil_of_mem_lexemes hx

/-- **Nothing is lost.** A text is its tokens with spaces, tabs and carriage returns between them,
and no token is empty. The line of a token is one more than the line feeds before it, and every line
feed of the text is a token by itself or stands in a tag. -/
theorem scan_covers (text : String) : ∃ gaps : List (List Char),
    gaps.length = (scan text).length + 1 ∧
    (∀ gap ∈ gaps, ∀ c ∈ gap, c = ' ' ∨ c = '\t' ∨ c = '\r') ∧
    text.toList = interleave gaps (scan text) ∧
    (∀ i token, (scan text)[i]? = some token → token.value ≠ "" ∧
      token.line = 1 + (textBefore gaps (scan text) i).count '\n') ∧
    ∀ k, text.toList[k]? = some '\n' → ∃ i token, (scan text)[i]? = some token ∧
      (textBefore gaps (scan text) i).length ≤ k ∧
      k < (textBefore gaps (scan text) i).length + token.value.length ∧
      (token.kind = .lineFeed ∧ token.value = "\n" ∨ token.kind = .tag) := by
  have hblank : ∀ x ∈ lexemes text.toList, x.kind = .blank → ∀ c ∈ x.text, isSkipped c := by
    intro x hx hk
    obtain ⟨rest, hlexes⟩ := exists_lexes_of_mem hx
    rw [hk] at hlexes
    exact hlexes.isSkipped_of_mem
  obtain ⟨gaps, hgaps⟩ := exists_gaps hblank 1
  have htext := hgaps.text_eq
  rw [flatMap_text_lexemes] at htext
  refine ⟨gaps, hgaps.length_eq, ?_, htext, ?_, ?_⟩
  · intro gap hg c hc
    exact isSkipped_iff.1 (hgaps.isSkipped_of_mem gap hg c hc)
  · intro i token ht
    exact ⟨value_ne_of_mem_scan (List.mem_of_getElem? ht), hgaps.line_eq i token ht⟩
  · intro k hk
    have hfeed : ∀ gap ∈ gaps, '\n' ∉ gap := by
      intro gap hg hm
      exact absurd (hgaps.isSkipped_of_mem gap hg _ hm) (by decide)
    rw [htext] at hk
    obtain ⟨i, token, ht, hle, hlt, hm⟩ := exists_token_of_getElem? hgaps.length_eq hfeed hk
    obtain ⟨rest, hlexes⟩ := exists_lexes_of_mem_scan (List.mem_of_getElem? ht)
    refine ⟨i, token, ht, hle, hlt, (hlexes.lineFeed_or_tag hm).imp_left fun h => ⟨h.1, ?_⟩⟩
    rw [← String.toList_inj, h.2]
    rfl

end StructSchema.Token
