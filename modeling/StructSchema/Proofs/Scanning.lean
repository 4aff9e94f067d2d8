import Mathlib.Tactic.NthRewrite
import StructSchema.Proofs.Lexing

/-!
# The tokens of a text piece by piece

`Token.scanFrom` gives the tokens of a text that begins on a given line. A lexeme in front of a text
is its first token, blanks in front of a text are none, and the text of a type expression is scanned
apart from what follows it: `scanFrom_append`, `scanFrom_blanks_append`, `scanFrom_plain_append`.
-/

namespace StructSchema.Token

/-- The tokens of a text that begins on a line. -/
def scanFrom (line : Nat) (text : List Char) : List Token := number line (lexemes text)

variable {line : Nat} {text rest blanks : List Char} {kind : Kind}

theorem scan_eq_scanFrom (text : String) : scan text = scanFrom 1 text.toList := rfl

@[simp] theorem scanFrom_nil (line : Nat) : scanFrom line [] = [] := by
  unfold scanFrom
  rw [lexemes_nil]
  rfl

/-- A lexeme in front of a text is its first token. -/
theorem scanFrom_append (h : Lexes kind text rest) (hk : kind ≠ .blank) (line : Nat) :
    scanFrom line (text ++ rest) =
      ⟨kind, String.ofList text, line⟩ :: scanFrom (line + text.count '\n') rest := by
  unfold scanFrom
  rw [lexemes_append h, number, if_neg hk]

theorem count_lineFeed_eq_zero {p : Char → Bool} (hp : p '\n' = false) (h : ∀ c ∈ text, p c) :
    text.count '\n' = 0 := by
  refine List.count_eq_zero_of_not_mem fun hm => ?_
  rw [h _ hm] at hp
  cases hp

/-- Blanks in front of a text are no tokens. -/
theorem scanFrom_eq_dropWhile (line : Nat) (text : List Char) :
    scanFrom line text = scanFrom line (text.dropWhile isSkipped) := by
  cases hrun : text.takeWhile isSkipped with
  | nil =>
    have hsplit := List.takeWhile_append_dropWhile (p := isSkipped) (l := text)
    rw [hrun, List.nil_append] at hsplit
    rw [hsplit]
  | cons c body =>
    have hall : ∀ d ∈ c :: body, isSkipped d := fun d hd =>
      List.mem_takeWhile_imp (by rwa [hrun])
    have hlexes : Lexes .blank (c :: body) (text.dropWhile isSkipped) :=
      .blank (hall c List.mem_cons_self) (fun d hd => hall d (List.mem_cons_of_mem c hd))
        (head?_dropWhile_eq_false isSkipped text)
    have hcount := count_lineFeed_eq_zero (by decide) hall
    nth_rewrite 1 [← List.takeWhile_append_dropWhile (p := isSkipped) (l := text)]
    unfold scanFrom
    rw [hrun, lexemes_append hlexes, number, if_pos rfl, hcount]
    rfl

theorem scanFrom_blanks_append (h : ∀ c ∈ blanks, isSkipped c) (line : Nat) (rest : List Char) :
    scanFrom line (blanks ++ rest) = scanFrom line rest := by
  rw [scanFrom_eq_dropWhile, List.dropWhile_append_of_pos h, ← scanFrom_eq_dropWhile]

/-! ## Type expressions -/

/-- The tokens of type expressions. -/
def Kind.isPlain (kind : Kind) : Bool := kind == .ident || kind == .number || kind == .punct

/-- What follows a plain lexeme matters only by its first character. -/
theorem Lexes.append_of_isPlain (h : Lexes kind text rest) (hk : kind.isPlain) {more : List Char}
    (hm : ∀ d ∈ more.head?, Text.isWordChar d = false ∧ Text.isDecimalDigit d = false) :
    Lexes kind text (rest ++ more) := by
  have hhead : ∀ {p : Char → Bool}, (∀ d ∈ rest.head?, p d = false) →
      (∀ d ∈ more.head?, p d = false) → ∀ d ∈ (rest ++ more).head?, p d = false := by
    intro p hrest hmore
    cases rest with
    | nil => exact hmore
    | cons c rest => exact hrest
  cases h with
  | ident hc h hr => exact .ident hc h (hhead hr fun d hd => (hm d hd).1)
  | number hc h hr => exact .number hc h (hhead hr fun d hd => (hm d hd).2)
  | punct hc => exact .punct hc
  | _ => cases hk

/-- A plain lexeme stands on one line. -/
theorem Lexes.count_lineFeed (h : Lexes kind text rest) (hk : kind.isPlain) :
    text.count '\n' = 0 := by
  refine List.count_eq_zero_of_not_mem fun hm => ?_
  rcases h.lineFeed_or_tag hm with ⟨rfl, -⟩ | rfl
  · cases hk
  · cases hk

/-- The text of a type expression is scanned apart from what follows it. -/
theorem scanFrom_plain_append (h : ∀ token ∈ scanFrom line text, token.kind.isPlain)
    (hr : ∀ d ∈ rest.head?, Text.isWordChar d = false ∧ Text.isDecimalDigit d = false) :
    scanFrom line (text ++ rest) = scanFrom line text ++ scanFrom line rest := by
  generalize hxs : lexemes text = xs
  induction xs generalizing text with
  | nil =>
    have htext := flatMap_text_lexemes text
    rw [hxs] at htext
    rw [← htext]
    simp
  | cons x xs ih =>
    obtain ⟨hx, hrest⟩ := lexes_of_lexemes hxs
    have htext := flatMap_text_lexemes text
    rw [hxs, List.flatMap_cons] at htext
    generalize xs.flatMap (·.text) = more at hx hrest htext
    subst htext
    by_cases hblank : x.kind = .blank
    · have hskip : ∀ c ∈ x.text, isSkipped c := by
        rw [hblank] at hx
        exact hx.isSkipped_of_mem
      rw [scanFrom_blanks_append hskip] at h
      rw [List.append_assoc, scanFrom_blanks_append hskip, scanFrom_blanks_append hskip, ih h hrest]
    · rw [scanFrom_append hx hblank, List.forall_mem_cons] at h
      have hcount := hx.count_lineFeed h.1
      rw [hcount] at h
      rw [List.append_assoc, scanFrom_append (hx.append_of_isPlain h.1 hr) hblank,
        scanFrom_append hx hblank, hcount, Nat.add_zero, ih h.2 hrest]
      rfl

/-! ## Tags and lines -/

/-- Whether every tag stands on one line. -/
def oneLineTags (tokens : List Token) : Bool :=
  tokens.all fun token => token.kind != .tag || !token.value.toList.contains '\n'

theorem not_mem_of_oneLineTags {tokens : List Token} (h : oneLineTags tokens = true) :
    ∀ token ∈ tokens, token.kind = .tag → '\n' ∉ token.value.toList := by
  intro token ht hk
  simpa [hk] using List.all_eq_true.1 h token ht

/-! ## The line of a text -/

theorem map_number (n m : Nat) (xs : List Lexeme) :
    (number n xs).map (fun token => (token.kind, token.value)) =
      (number m xs).map fun token => (token.kind, token.value) := by
  induction xs generalizing n m with
  | nil => rfl
  | cons x xs ih =>
    rw [number, number]
    split
    · exact ih _ _
    · rw [List.map_cons, List.map_cons, ih (n + x.text.count '\n') (m + x.text.count '\n')]

/-- The line on which a text begins is all that its tokens take from it. -/
theorem map_scanFrom (n m : Nat) (text : List Char) :
    (scanFrom n text).map (fun token => (token.kind, token.value)) =
      (scanFrom m text).map fun token => (token.kind, token.value) :=
  map_number n m (lexemes text)

theorem isPlain_of_scanFrom {m : Nat} (h : ∀ token ∈ scanFrom m text, token.kind.isPlain)
    (n : Nat) : ∀ token ∈ scanFrom n text, token.kind.isPlain := by
  intro token ht
  have hm : (token.kind, token.value) ∈
      (scanFrom m text).map fun token => (token.kind, token.value) := by
    rw [map_scanFrom m n]
    exact List.mem_map_of_mem ht
  obtain ⟨other, ho, he⟩ := List.mem_map.1 hm
  rw [← (Prod.mk.inj he).1]
  exact h other ho

end StructSchema.Token
