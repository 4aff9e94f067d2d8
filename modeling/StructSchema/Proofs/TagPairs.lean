import StructSchema.FieldTag
import StructSchema.Proofs.Lexing
import StructSchema.Proofs.Outcome

/-!
# The pairs of a tag

The text of a pair is its key, a colon and its escaped value between quotes, and a pair is read
exactly where one stands: `FieldTag.pairAt?_eq_some_iff`. A tag holds pairs with white space before,
between and behind them, `FieldTag.Spaced`. The search for pairs finds exactly this split of a text,
`pairs_eq_ok_iff`, and a text has one such split at most: `Spaced.unique`.
-/

namespace StructSchema.FieldTag

/-! ## One pair -/

/-- A value as it stands between quotes: a backslash stands before every quote and backslash. -/
inductive Escaped : List Char → Prop where
  | nil : Escaped []
  | escaped {c : Char} {value : List Char} (hc : c ≠ '\n') (h : Escaped value) :
    Escaped ('\\' :: c :: value)
  | plain {c : Char} {value : List Char} (hquote : c ≠ '"') (hslash : c ≠ '\\')
    (h : Escaped value) : Escaped (c :: value)

/-- The text of a pair. -/
def Pair.text (pair : Pair) : List Char := pair.key ++ ':' :: '"' :: (pair.value ++ ['"'])

/-- A pair that can be written: its key is a word and its value is escaped. -/
structure Pair.Valid (pair : Pair) : Prop where
  key_ne_nil : pair.key ≠ []
  isWordChar_of_mem : ∀ c ∈ pair.key, Text.isWordChar c
  escaped : Escaped pair.value

variable {text value rest gap : List Char} {pair : Pair} {found : List Pair}
  {gaps : List (List Char)} {c : Char}

theorem escaped_of_forall {value : List Char} (h : ∀ c ∈ value, c ≠ '"' ∧ c ≠ '\\') :
    Escaped value := by
  induction value with
  | nil => exact .nil
  | cons c value ih =>
    rw [List.forall_mem_cons] at h
    exact .plain h.1.1 h.1.2 (ih h.2)

theorem closeQuote?_append {value : List Char} (h : Escaped value) (rest : List Char) :
    closeQuote? (value ++ '"' :: rest) = some (value, rest) := by
  induction h with
  | nil => rfl
  | escaped hc _ ih =>
    rw [List.cons_append, List.cons_append, closeQuote?, if_neg hc, ih]
    rfl
  | plain hquote hslash _ ih =>
    rw [List.cons_append, closeQuote?.eq_5 _ _ hquote (fun _ _ h => absurd h hslash)
      (fun h => absurd h hslash), ih]
    rfl

theorem eq_append_of_closeQuote? (h : closeQuote? text = some (value, rest)) :
    Escaped value ∧ text = value ++ '"' :: rest := by
  induction text using closeQuote?.induct generalizing value with
  | case1 => cases h
  | case2 text =>
    cases h
    exact ⟨.nil, rfl⟩
  | case3 text =>
    rw [closeQuote?, if_pos rfl] at h
    cases h
  | case4 c text hc ih =>
    rw [closeQuote?, if_neg hc, Option.map_eq_some_iff] at h
    obtain ⟨⟨inner, after⟩, hinner, he⟩ := h
    cases he
    obtain ⟨hescaped, rfl⟩ := ih hinner
    exact ⟨.escaped hc hescaped, rfl⟩
  | case5 => cases h
  | case6 c text hquote hnext hlast ih =>
    rw [closeQuote?.eq_5 c text hquote hnext hlast, Option.map_eq_some_iff] at h
    obtain ⟨⟨inner, after⟩, hinner, he⟩ := h
    cases he
    obtain ⟨hescaped, rfl⟩ := ih hinner
    refine ⟨.plain hquote (fun hslash => ?_) hescaped, rfl⟩
    -- A backslash has a character behind it, as there is a quote somewhere.
    cases inner with
    | nil => exact hnext '"' rest hslash rfl
    | cons d inner => exact hnext d (inner ++ '"' :: rest) hslash rfl

/-- A pair is read at its start. -/
theorem pairAt?_text (h : pair.Valid) (rest : List Char) :
    pairAt? (pair.text ++ rest) = some (pair, rest) := by
  have htext : pair.text ++ rest =
      pair.key ++ ':' :: '"' :: (pair.value ++ '"' :: rest) := by simp [Pair.text]
  have hrun : ∀ d ∈ (':' :: '"' :: (pair.value ++ '"' :: rest)).head?,
      Text.isWordChar d = false := by
    intro d hd
    obtain rfl := Option.some.inj hd
    rfl
  unfold pairAt?
  rw [htext, Token.takeWhile_append_of_head? h.isWordChar_of_mem hrun,
    Token.dropWhile_append_of_head? h.isWordChar_of_mem hrun]
  simp only
  rw [if_neg (by simpa using h.key_ne_nil), closeQuote?_append h.escaped]
  rfl

theorem eq_append_of_pairAt? (h : pairAt? text = some (pair, rest)) :
    pair.Valid ∧ text = pair.text ++ rest := by
  have hsplit := List.takeWhile_append_dropWhile (p := Text.isWordChar) (l := text)
  unfold pairAt? at h
  dsimp only at h
  split at h
  · rename_i body hbody
    split at h
    · cases h
    · rename_i hkey
      obtain ⟨⟨inner, after⟩, hinner, he⟩ := Option.map_eq_some_iff.1 h
      cases he
      obtain ⟨hescaped, rfl⟩ := eq_append_of_closeQuote? hinner
      refine ⟨⟨by simpa using hkey, fun c hc => List.mem_takeWhile_imp hc, hescaped⟩, ?_⟩
      rw [hbody] at hsplit
      refine hsplit.symm.trans ?_
      simp [Pair.text]
  · cases h

/-- A pair is read exactly where one stands. -/
theorem pairAt?_eq_some_iff : pairAt? text = some (pair, rest) ↔
    pair.Valid ∧ text = pair.text ++ rest := by
  constructor
  · exact eq_append_of_pairAt?
  · rintro ⟨hpair, rfl⟩
    exact pairAt?_text hpair rest

/-! ## The next pair -/

theorem eq_append_of_pairIn? {inWord : Bool} (h : pairIn? inWord text = some (gap, pair, rest)) :
    pair.Valid ∧ text = gap ++ (pair.text ++ rest) := by
  induction text generalizing inWord gap with
  | nil => cases h
  | cons c text ih =>
    rw [pairIn?] at h
    split at h
    · rename_i hpair
      cases h
      split at hpair
      · cases hpair
      · exact pairAt?_eq_some_iff.1 hpair
    · obtain ⟨⟨before, next, after⟩, hnext, he⟩ := Option.map_eq_some_iff.1 h
      cases he
      obtain ⟨hpair, rfl⟩ := ih hnext
      exact ⟨hpair, rfl⟩

theorem nextPair?_text (h : pair.Valid) (rest : List Char) :
    nextPair? (pair.text ++ rest) = some ([], pair, rest) := by
  obtain ⟨c, text, htext⟩ : ∃ c text, pair.text ++ rest = c :: text := by
    cases hkey : pair.key with
    | nil => exact absurd hkey h.key_ne_nil
    | cons c key => exact ⟨c, _, by rw [Pair.text, hkey]; rfl⟩
  have hpair := pairAt?_text h rest
  rw [htext] at hpair ⊢
  rw [nextPair?, pairIn?, if_neg (by decide), hpair]

/-- No pair begins with white space. -/
theorem pairAt?_cons_of_isBlank {c : Char} (hc : Text.isBlank c) (text : List Char) :
    pairAt? (c :: text) = none := by
  have hword := Text.isWordChar_eq_false_of_isBlank hc
  unfold pairAt?
  dsimp only
  rw [List.takeWhile_cons_of_neg (by simp [hword])]
  split
  · rfl
  · rfl

theorem nextPair?_cons_of_isBlank {c : Char} (hc : Text.isBlank c) (text : List Char) :
    nextPair? (c :: text) =
      (nextPair? text).map fun (gap, pair, rest) => (c :: gap, pair, rest) := by
  unfold nextPair?
  rw [pairIn?, if_neg (by decide), pairAt?_cons_of_isBlank hc,
    Text.isWordChar_eq_false_of_isBlank hc]

theorem nextPair?_blanks (hgap : ∀ c ∈ gap, Text.isBlank c) : nextPair? gap = none := by
  induction gap with
  | nil => rfl
  | cons c gap ih =>
    rw [List.forall_mem_cons] at hgap
    rw [nextPair?_cons_of_isBlank hgap.1, ih hgap.2]
    rfl

/-- White space before a pair is passed over. -/
theorem nextPair?_blanks_text (hgap : ∀ c ∈ gap, Text.isBlank c) (hpair : pair.Valid)
    (rest : List Char) : nextPair? (gap ++ (pair.text ++ rest)) = some (gap, pair, rest) := by
  induction gap with
  | nil => exact nextPair?_text hpair rest
  | cons c gap ih =>
    rw [List.forall_mem_cons] at hgap
    rw [List.cons_append, nextPair?_cons_of_isBlank hgap.1, ih hgap.2]
    rfl

/-! ## All pairs -/

/-- A text of pairs with white space before, between and behind them. -/
inductive Spaced : List Char → List (List Char) → List Pair → Prop where
  | last {gap : List Char} (hgap : ∀ c ∈ gap, Text.isBlank c) : Spaced gap [gap] []
  | pair {gap rest : List Char} {gaps : List (List Char)} {pair : Pair} {pairs : List Pair}
    (hgap : ∀ c ∈ gap, Text.isBlank c) (hpair : pair.Valid) (h : Spaced rest gaps pairs) :
    Spaced (gap ++ (pair.text ++ rest)) (gap :: gaps) (pair :: pairs)

theorem checkGap_eq_ok_iff : checkGap gap = .ok () ↔ ∀ c ∈ gap, Text.isBlank c := by
  have htrim : Text.trim gap = [] ↔ ∀ c ∈ gap, Text.isBlank c := by
    unfold Text.trim
    rw [Text.trimRight_eq_nil_iff, Text.isAllBlank, List.all_eq_true]
    constructor
    · intro h c hc
      rw [← List.takeWhile_append_dropWhile (p := Text.isBlank) (l := gap), List.mem_append] at hc
      exact hc.elim List.mem_takeWhile_imp (h c)
    · intro h c hc
      exact h c ((List.dropWhile_sublist _).subset hc)
  rw [← htrim]
  unfold checkGap
  cases Text.trim gap with
  | nil => simp
  | cons c inner => simp

/-- The pairs that are found split the text. -/
theorem exists_spaced_of_pairs (h : pairs text = .ok found) : ∃ gaps, Spaced text gaps found := by
  induction text using pairs.induct generalizing found with
  | case1 text hnone =>
    rw [pairs] at h
    split at h
    · obtain ⟨_, hgap, h⟩ := Outcome.bind_eq_ok_iff.1 h
      cases h
      exact ⟨[text], .last (checkGap_eq_ok_iff.1 hgap)⟩
    · rename_i hsome
      rw [hnone] at hsome
      cases hsome
  | case2 text gap first rest hsome ih =>
    rw [pairs] at h
    split at h
    · rename_i hnone
      rw [hsome] at hnone
      cases hnone
    · rename_i hfirst
      rw [hsome] at hfirst
      cases hfirst
      obtain ⟨_, hgap, h⟩ := Outcome.bind_eq_ok_iff.1 h
      obtain ⟨more, hmore, h⟩ := Outcome.bind_eq_ok_iff.1 h
      cases h
      obtain ⟨gaps, hspaced⟩ := ih hmore
      obtain ⟨hpair, htext⟩ := eq_append_of_pairIn? hsome
      rw [htext]
      exact ⟨gap :: gaps, .pair (checkGap_eq_ok_iff.1 hgap) hpair hspaced⟩

theorem pairs_of_some (h : nextPair? text = some (gap, pair, rest))
    (hgap : checkGap gap = .ok ()) :
    pairs text = (pairs rest).map (pair :: ·) := by
  rw [pairs]
  split
  · rename_i hn
    rw [h] at hn
    cases hn
  · rename_i hs
    rw [h] at hs
    cases hs
    rw [hgap]
    cases pairs rest with
    | error fault => rfl
    | ok more => rfl

theorem Spaced.pairs_eq (h : Spaced text gaps found) : pairs text = .ok found := by
  induction h with
  | last hgap =>
    rw [pairs]
    split
    · rw [checkGap_eq_ok_iff.2 hgap]
      rfl
    · rename_i hsome
      rw [nextPair?_blanks hgap] at hsome
      cases hsome
  | pair hgap hpair _ ih =>
    rw [pairs_of_some (nextPair?_blanks_text hgap hpair _) (checkGap_eq_ok_iff.2 hgap), ih]
    rfl

/-- Pairs are found exactly in a text of pairs with white space between them. -/
theorem pairs_eq_ok_iff : pairs text = .ok found ↔ ∃ gaps, Spaced text gaps found :=
  ⟨exists_spaced_of_pairs, fun ⟨_, h⟩ => h.pairs_eq⟩

/-- A text has one split at most. -/
theorem Spaced.unique (h : Spaced text gaps found) {otherGaps : List (List Char)}
    {other : List Pair} (h' : Spaced text otherGaps other) : gaps = otherGaps ∧ found = other := by
  induction h generalizing otherGaps other with
  | @last gap hgap =>
    have hnone := nextPair?_blanks hgap
    cases h' with
    | last _ => exact ⟨rfl, rfl⟩
    | pair hgap' hpair' h' =>
      rw [nextPair?_blanks_text hgap' hpair'] at hnone
      cases hnone
  | @pair gap rest gaps pair found hgap hpair _ ih =>
    have hnext := nextPair?_blanks_text hgap hpair rest
    generalize gap ++ (pair.text ++ rest) = text at h' hnext
    cases h' with
    | last hgap' =>
      rw [nextPair?_blanks hgap'] at hnext
      cases hnext
    | pair hgap' hpair' h' =>
      rw [nextPair?_blanks_text hgap' hpair'] at hnext
      cases hnext
      obtain ⟨rfl, rfl⟩ := ih h'
      exact ⟨rfl, rfl⟩

/-- The values of the pairs of a text stand in the text. -/
theorem mem_of_pairs (h : pairs text = .ok found) (hpair : pair ∈ found) (hc : c ∈ pair.value) :
    c ∈ text := by
  obtain ⟨gaps, hspaced⟩ := pairs_eq_ok_iff.1 h
  clear h
  induction hspaced with
  | last _ => cases hpair
  | pair _ _ _ ih =>
    rw [List.mem_append, List.mem_append]
    rcases List.mem_cons.1 hpair with rfl | hpair
    · exact .inr (.inl (by simp [Pair.text, hc]))
    · exact .inr (.inr (ih hpair))

end StructSchema.FieldTag
