import Mathlib.Data.List.DropRight
import StructSchema.Proofs.Lexing
import StructSchema.Proofs.TidyLines
import StructSchema.StructBody

/-!
# Statements of a token sequence

A token that ends a statement separates what stands before it from what stands behind it, so a
sequence of tokens is read piece by piece: `StructBody.ofTokens_append`. Every token that ends no
statement and is no comment stands in one statement: `Token.flatten_statements`. Hence nothing is
read exactly where there is no tag, `StructBody.ofTokens_eq_empty_iff`.
-/

namespace StructSchema

/-! ## Tokens -/

namespace Token

/-- The line feeds in lexemes. -/
def lineFeeds (xs : List Lexeme) : Nat := (xs.flatMap (·.text)).count '\n'

theorem number_append (line : Nat) (xs ys : List Lexeme) :
    number line (xs ++ ys) = number line xs ++ number (line + lineFeeds xs) ys := by
  induction xs generalizing line with
  | nil => rfl
  | cons x xs ih =>
    have hcount : line + x.text.count '\n' + lineFeeds xs = line + lineFeeds (x :: xs) := by
      unfold lineFeeds
      rw [List.flatMap_cons, List.count_append]
      omega
    rw [List.cons_append, number, number, ih, hcount]
    split
    · rfl
    · rfl

/-- Every token is one of the lexemes. -/
theorem exists_of_mem_number {line : Nat} {xs : List Lexeme} {token : Token}
    (h : token ∈ number line xs) : ∃ x ∈ xs, token.kind = x.kind ∧ token.value.toList = x.text := by
  induction xs generalizing line with
  | nil => cases h
  | cons x xs ih =>
    rw [number] at h
    split at h
    · obtain ⟨y, hy, hk⟩ := ih h
      exact ⟨y, List.mem_cons_of_mem x hy, hk⟩
    · rcases List.mem_cons.1 h with rfl | h
      · exact ⟨x, List.mem_cons_self, rfl, String.toList_ofList⟩
      · obtain ⟨y, hy, hk⟩ := ih h
        exact ⟨y, List.mem_cons_of_mem x hy, hk⟩

theorem exists_lexes_of_mem_scan {text : String} {token : Token} (h : token ∈ scan text) :
    ∃ rest, Lexes token.kind token.value.toList rest := by
  obtain ⟨x, hx, hkind, hvalue⟩ := exists_of_mem_number h
  rw [hkind, hvalue]
  exact exists_lexes_of_mem hx

/-- An identifier of a text is a word. -/
theorem isWordChar_of_mem_scan {text : String} {token : Token} (h : token ∈ scan text)
    (hk : token.kind = .ident) :
    token.value ≠ "" ∧ ∀ c ∈ token.value.toList, Text.isWordChar c := by
  obtain ⟨rest, hlexes⟩ := exists_lexes_of_mem_scan h
  rw [hk] at hlexes
  rw [← String.toList_inj.ne]
  generalize token.value.toList = name at hlexes
  cases hlexes with
  | ident hc hbody _ =>
    exact ⟨List.cons_ne_nil _ _,
      List.forall_mem_cons.2 ⟨Text.isWordChar_of_isNameStart hc, hbody⟩⟩

variable {tokens before after : List Token} {ending token : Token}

theorem statements_append (he : ending.endsStatement) (before after : List Token) :
    statements (before ++ ending :: after) = statements before ++ statements after := by
  have hk : (ending.kind != .comment) = true := by
    rw [endsStatement, Bool.or_eq_true, beq_iff_eq, beq_iff_eq] at he
    rcases he with he | he
    · rw [he]; rfl
    · rw [he]; rfl
  unfold statements
  rw [List.filter_append, List.filter_cons, if_pos hk, Text.cutWhere_append he, List.filter_append]

/-- The statements hold every token that is no comment and ends no statement. -/
theorem flatten_statements (tokens : List Token) :
    (statements tokens).flatten =
      tokens.filter fun token => !token.endsStatement && token.kind != .comment := by
  unfold statements
  rw [List.flatten_filter_not_isEmpty, Text.flatten_cutWhere, List.filter_filter]

/-- A tag stands in some statement, and only there. -/
theorem exists_hasTag_iff :
    (∃ statement ∈ statements tokens, hasTag statement) ↔ ∃ token ∈ tokens, token.kind = .tag := by
  have hmem : ∀ token : Token, token.kind = .tag →
      (token ∈ (statements tokens).flatten ↔ token ∈ tokens) := by
    intro token ht
    rw [flatten_statements, List.mem_filter]
    simp [endsStatement, ht]
  simp only [hasTag, List.any_eq_true, beq_iff_eq]
  constructor
  · rintro ⟨statement, hs, token, ht, hk⟩
    exact ⟨token, (hmem token hk).1 (List.mem_flatten.2 ⟨statement, hs, ht⟩), hk⟩
  · rintro ⟨token, ht, hk⟩
    obtain ⟨statement, hs, ht⟩ := List.mem_flatten.1 ((hmem token hk).2 ht)
    exact ⟨statement, hs, token, ht, hk⟩

end Token

/-! ## Bodies -/

namespace StructBody

/-- What a token sequence says. -/
def ofTokens (tokens : List Token) : StructBody :=
  ofReadings (((Token.statements tokens).filter Token.hasTag).map FieldLine.examine)

/-- The body that says nothing. -/
def empty : StructBody := ⟨[], []⟩

/-- What two bodies say, one after the other. -/
def append (first second : StructBody) : StructBody :=
  ⟨first.fields ++ second.fields, first.issues ++ second.issues⟩

theorem read_eq_ofTokens (body : String) : read body = ofTokens (Token.scan body) := rfl

@[simp] theorem append_empty (body : StructBody) : body.append empty = body := by
  simp [append, empty]

@[simp] theorem empty_append (body : StructBody) : empty.append body = body := by
  simp [append, empty]

theorem append_assoc (a b c : StructBody) : (a.append b).append c = a.append (b.append c) := by
  simp [append]

theorem append_right_inj (a : StructBody) {b c : StructBody} : a.append b = a.append c ↔ b = c := by
  unfold append
  rw [StructBody.mk.injEq, List.append_cancel_left_eq, List.append_cancel_left_eq]
  cases b
  cases c
  simp

variable {tokens before after : List Token} {ending : Token}

/-- A token sequence is read piece by piece. -/
theorem ofTokens_append (he : ending.endsStatement) (before after : List Token) :
    ofTokens (before ++ ending :: after) = (ofTokens before).append (ofTokens after) := by
  unfold ofTokens
  rw [Token.statements_append he, List.filter_append, List.map_append]
  unfold ofReadings append
  rw [List.filterMap_append, List.filterMap_append]

theorem ofTokens_concat (he : ending.endsStatement) (tokens : List Token) :
    ofTokens (tokens ++ [ending]) = ofTokens tokens := by
  rw [ofTokens_append he]
  exact append_empty _

/-- What stands before the last statement is read apart from it. -/
theorem ofTokens_append_of_open (tokens more : List Token) :
    ofTokens (tokens ++ more) = (ofTokens (tokens.rdropWhile (!·.endsStatement))).append
      (ofTokens (tokens.rtakeWhile (!·.endsStatement) ++ more)) := by
  have hsplit : tokens.rdropWhile (!·.endsStatement) ++ tokens.rtakeWhile (!·.endsStatement) =
      tokens := by
    unfold List.rdropWhile List.rtakeWhile
    rw [← List.reverse_append, List.takeWhile_append_dropWhile, List.reverse_reverse]
  have hending := Token.head?_dropWhile_eq_false (fun token : Token => !token.endsStatement)
    tokens.reverse
  nth_rewrite 1 [← hsplit]
  unfold List.rdropWhile
  cases hd : tokens.reverse.dropWhile (!·.endsStatement) with
  | nil => exact (empty_append _).symm
  | cons ending rest =>
    have he : ending.endsStatement := by
      rw [hd] at hending
      simpa using hending ending rfl
    rw [List.reverse_cons, ofTokens_concat he, List.append_assoc, List.append_assoc,
      List.singleton_append, ofTokens_append he]

/-- What stands behind the first statement is read apart from it. -/
theorem ofTokens_eq_append_dropWhile (tokens : List Token) :
    ofTokens tokens = (ofTokens (tokens.takeWhile (!·.endsStatement))).append
      (ofTokens (tokens.dropWhile (!·.endsStatement))) := by
  have hending := Token.head?_dropWhile_eq_false (fun token : Token => !token.endsStatement) tokens
  nth_rewrite 1 [← List.takeWhile_append_dropWhile (p := (!·.endsStatement)) (l := tokens)]
  cases hd : tokens.dropWhile (!·.endsStatement) with
  | nil =>
    rw [List.append_nil]
    exact (append_empty _).symm
  | cons ending rest =>
    have he : ending.endsStatement := by
      rw [hd] at hending
      simpa using hending ending rfl
    rw [ofTokens_append he, ← List.nil_append (ending :: rest), ofTokens_append he]
    exact congrArg _ (empty_append _).symm

/-- Nothing is read exactly where there is no tag. -/
theorem ofTokens_eq_empty_iff : ofTokens tokens = empty ↔ ∀ token ∈ tokens, token.kind ≠ .tag := by
  have hempty : ofTokens tokens = empty ↔
      (Token.statements tokens).filter Token.hasTag = [] := by
    constructor
    · intro h
      have hlength := length_ofReadings
        (((Token.statements tokens).filter Token.hasTag).map FieldLine.examine)
      change (ofTokens tokens).fields.length + (ofTokens tokens).issues.length = _ at hlength
      rw [h, List.length_map] at hlength
      exact List.eq_nil_of_length_eq_zero hlength.symm
    · intro h
      unfold ofTokens
      rw [h]
      rfl
  rw [hempty, List.filter_eq_nil_iff]
  constructor
  · intro h token ht hk
    obtain ⟨statement, hs, htag⟩ := Token.exists_hasTag_iff.2 ⟨token, ht, hk⟩
    exact h statement hs htag
  · intro h statement hs htag
    obtain ⟨token, ht, hk⟩ := Token.exists_hasTag_iff.1 ⟨statement, hs, htag⟩
    exact h token ht hk

end StructBody

end StructSchema
