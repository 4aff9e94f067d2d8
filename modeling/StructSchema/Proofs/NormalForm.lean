import Mathlib.Data.List.Destutter
import Mathlib.Data.List.DropRight
import StructSchema.Proofs.TidyLines

/-!
# The normal form of texts

Tidying takes white space off the end of every line, `trimRight_eq_rdropWhile`, keeps the first of
empty lines in a row, `squeeze_eq_destutter`, and takes the empty lines off both ends,
`trimEmptyLines_eq_rdropWhile`. So its lines are tidy, `areTidy_tidyLines`, tidy lines are those of
their own text, `AreTidy.tidyLines_flatMap`, and nothing but blank lines is lost,
`filter_tidyLines`: tidy texts are a normal form, `tidy_normal`.
-/

namespace StructSchema.Text

/-! ## The three steps -/

theorem trimRight_concat_of_isBlank {c : Char} (hc : isBlank c) (text : List Char) :
    trimRight (text ++ [c]) = trimRight text := by
  induction text with
  | nil => simp [trimRight, hc]
  | cons d text ih => rw [List.cons_append, trimRight, ih, trimRight]

/-- Trimming at the right drops the blanks at the end. -/
theorem trimRight_eq_rdropWhile (text : List Char) : trimRight text = text.rdropWhile isBlank := by
  induction text using List.reverseRecOn with
  | nil => rfl
  | append_singleton text c ih =>
    cases hc : isBlank c with
    | true => rw [trimRight_concat_of_isBlank hc, List.rdropWhile_concat_pos _ _ _ hc, ih]
    | false => rw [trimRight_concat hc, List.rdropWhile_concat_neg _ _ _ (by simp [hc])]

theorem trimRight_trimRight (text : List Char) : trimRight (trimRight text) = trimRight text := by
  rw [trimRight_eq_rdropWhile text, trimRight_eq_rdropWhile, List.rdropWhile_idempotent]

/-- A text from which nothing is trimmed does not end in white space. -/
theorem isBlank_of_trimRight {line : List Char} (h : trimRight line = line) :
    ∀ c ∈ line.getLast?, isBlank c = false := by
  intro c hc
  obtain ⟨hne, rfl⟩ := List.mem_getLast?_eq_getLast hc
  rw [trimRight_eq_rdropWhile, List.rdropWhile_eq_self_iff] at h
  exact Bool.eq_false_iff.2 (h hne)

/-- Not both of two lines are empty. -/
def Spaced (line next : List Char) : Prop := line ≠ [] ∨ next ≠ []

instance : DecidableRel Spaced :=
  fun line next => inferInstanceAs (Decidable (line ≠ [] ∨ next ≠ []))

variable {lines : List (List Char)} {afterEmpty : Bool}

theorem destutter'_spaced (line : List Char) (lines : List (List Char)) :
    lines.destutter' Spaced line = line :: squeeze line.isEmpty lines := by
  induction lines generalizing line with
  | nil => rfl
  | cons next lines ih =>
    rw [List.destutter'_cons, ih, ih]
    cases line with
    | nil =>
      cases next with
      | nil => simp [Spaced, squeeze]
      | cons d next => simp [Spaced, squeeze]
    | cons c line =>
      cases next with
      | nil => simp [Spaced, squeeze]
      | cons d next => simp [Spaced, squeeze]

/-- Of empty lines in a row the first is kept. -/
theorem squeeze_eq_destutter (lines : List (List Char)) :
    squeeze false lines = lines.destutter Spaced := by
  cases lines with
  | nil => rfl
  | cons line lines =>
    rw [List.destutter_cons', destutter'_spaced]
    cases line with
    | nil => rfl
    | cons c line => rfl

theorem trimEmptyLines_eq_rdropWhile (lines : List (List Char)) :
    trimEmptyLines lines = (lines.dropWhile (·.isEmpty)).rdropWhile (·.isEmpty) := rfl

/-- What is left without the empty lines at the ends stands together. -/
theorem trimEmptyLines_infix (lines : List (List Char)) : trimEmptyLines lines <:+: lines :=
  (List.rdropWhile_prefix _ _).isInfix.trans (List.dropWhile_suffix _).isInfix

theorem ne_nil_of_head?_trimEmptyLines {line : List Char}
    (h : line ∈ (trimEmptyLines lines).head?) : line ≠ [] := by
  obtain ⟨rest, hrest⟩ := List.rdropWhile_prefix (·.isEmpty) (lines.dropWhile (·.isEmpty))
  have hhead : line ∈ (lines.dropWhile (·.isEmpty)).head? := by
    rw [← hrest, ← trimEmptyLines_eq_rdropWhile, List.head?_append, Option.mem_def.1 h]
    rfl
  have hfalse := List.head?_dropWhile_not (·.isEmpty) lines
  rw [Option.mem_def.1 hhead] at hfalse
  simpa using hfalse

theorem ne_nil_of_getLast?_trimEmptyLines {line : List Char}
    (h : line ∈ (trimEmptyLines lines).getLast?) : line ≠ [] := by
  obtain ⟨hne, rfl⟩ := List.mem_getLast?_eq_getLast h
  have hlast := List.rdropWhile_last_not (fun line : List Char => line.isEmpty)
    (lines.dropWhile (·.isEmpty)) hne
  exact fun he => hlast (List.isEmpty_iff.2 he)

theorem filter_dropWhile_isEmpty (lines : List (List Char)) :
    (lines.dropWhile (·.isEmpty)).filter (!·.isEmpty) = lines.filter (!·.isEmpty) := by
  induction lines with
  | nil => rfl
  | cons line lines ih =>
    cases hl : line.isEmpty with
    | true => rw [List.dropWhile_cons_of_pos hl, ih, List.filter_cons_of_neg (by simp [hl])]
    | false => rw [List.dropWhile_cons_of_neg (by simp [hl])]

theorem filter_trimEmptyLines (lines : List (List Char)) :
    (trimEmptyLines lines).filter (!·.isEmpty) = lines.filter (!·.isEmpty) := by
  unfold trimEmptyLines
  rw [List.filter_reverse, filter_dropWhile_isEmpty, List.filter_reverse, List.reverse_reverse,
    filter_dropWhile_isEmpty]

theorem filter_squeeze (afterEmpty : Bool) (lines : List (List Char)) :
    (squeeze afterEmpty lines).filter (!·.isEmpty) = lines.filter (!·.isEmpty) := by
  induction lines generalizing afterEmpty with
  | nil => rfl
  | cons line lines ih =>
    rw [squeeze]
    cases hl : line.isEmpty with
    | true =>
      rw [List.filter_cons_of_neg (by simp [hl]), if_pos rfl]
      split
      · exact ih true
      · exact ih true
    | false =>
      rw [if_neg (by decide), List.filter_cons_of_pos (by simp [hl]),
        List.filter_cons_of_pos (by simp [hl]), ih]

/-! ## Tidy lines -/

/-- Lines that tidying leaves alone. -/
structure AreTidy (lines : List (List Char)) : Prop where
  oneLine : ∀ line ∈ lines, '\n' ∉ line
  trimmed : ∀ line ∈ lines, trimRight line = line
  spaced : lines.IsChain Spaced
  head : ∀ line ∈ lines.head?, line ≠ []
  last : ∀ line ∈ lines.getLast?, line ≠ []

/-- The lines of a tidied text are tidy. -/
theorem areTidy_tidyLines (text : List Char) : AreTidy (tidyLines text) := by
  have hblock := trimEmptyLines_infix (squeeze false ((cut '\n' text).map trimRight))
  have hpiece : ∀ line ∈ tidyLines text, ∃ piece ∈ cut '\n' text, trimRight piece = line :=
    fun line hl => List.mem_map.1 (mem_of_mem_squeeze (List.IsInfix.subset hblock hl))
  refine ⟨fun line hl => ?_, fun line hl => ?_, ?_,
    fun line => ne_nil_of_head?_trimEmptyLines, fun line => ne_nil_of_getLast?_trimEmptyLines⟩
  · obtain ⟨piece, hp, rfl⟩ := hpiece line hl
    exact fun hm => not_mem_of_mem_cut hp (mem_of_mem_trimRight hm)
  · obtain ⟨piece, -, rfl⟩ := hpiece line hl
    exact trimRight_trimRight piece
  · refine List.IsChain.infix ?_ hblock
    rw [squeeze_eq_destutter]
    exact List.isChain_destutter _ _

/-- A text of lines is cut into its lines and what stands behind the last one. -/
theorem cut_flatMap {mark : Char} (h : ∀ line ∈ lines, mark ∉ line) :
    cut mark (lines.flatMap (· ++ [mark])) = lines ++ [[]] := by
  induction lines with
  | nil => rfl
  | cons line lines ih =>
    rw [List.forall_mem_cons] at h
    have hline : cut mark line = [line] :=
      cutWhere_of_forall_not fun c hc => beq_eq_false_iff_ne.2 fun he => h.1 (he ▸ hc)
    have happend : cut mark (line ++ mark :: lines.flatMap (· ++ [mark])) =
        cut mark line ++ cut mark (lines.flatMap (· ++ [mark])) :=
      cutWhere_append (by simp) _ _
    rw [List.flatMap_cons, List.append_assoc, List.singleton_append, happend, hline, ih h.2]
    rfl

namespace AreTidy

variable (h : AreTidy lines)

include h

theorem map_trimRight : lines.map trimRight = lines :=
  (List.map_congr_left h.trimmed).trans (List.map_id lines)

theorem squeeze_concat_nil : squeeze false (lines ++ [[]]) = lines ++ [[]] := by
  rw [squeeze_eq_destutter]
  refine List.destutter_of_isChain _ _ (List.isChain_append.2 ⟨h.spaced, by simp, ?_⟩)
  intro line hl _ _
  exact .inl (h.last line hl)

/-- Tidy lines are the tidy lines of their text. -/
theorem tidyLines_flatMap : tidyLines (lines.flatMap (· ++ ['\n'])) = lines := by
  unfold tidyLines
  rw [cut_flatMap h.oneLine, List.map_append, h.map_trimRight, List.map_singleton]
  show trimEmptyLines (squeeze false (lines ++ [[]])) = lines
  rw [h.squeeze_concat_nil]
  cases hlines : lines with
  | nil => rfl
  | cons first rest =>
    rw [← hlines]
    have hhead : lines.head? = some first := by rw [hlines]; rfl
    have hne : lines ≠ [] := by rw [hlines]; exact List.cons_ne_nil first rest
    have hlast := List.getLast?_eq_some_getLast hne
    exact trimEmptyLines_of_ends (h.head first hhead) (h.last _ hlast) hhead hlast

/-- The text of tidy lines ends in one line feed. -/
theorem exists_flatMap_eq (hne : lines ≠ []) :
    ∃ front, lines.flatMap (· ++ ['\n']) = front ++ ['\n'] ∧ front.getLast? ≠ some '\n' := by
  have hmem := List.getLast_mem hne
  have hlast := h.last _ (List.getLast?_eq_some_getLast hne)
  refine ⟨lines.dropLast.flatMap (· ++ ['\n']) ++ lines.getLast hne, ?_, fun hfeed => ?_⟩
  · conv_lhs => rw [← List.dropLast_append_getLast hne]
    rw [List.flatMap_append, List.flatMap_singleton, List.append_assoc]
  · rw [List.getLast?_append_of_ne_nil _ hlast] at hfeed
    exact h.oneLine _ hmem (List.mem_of_getLast? hfeed)

/-- The text of tidy lines does not start with a line feed. -/
theorem head?_flatMap_ne (hne : lines ≠ []) :
    (lines.flatMap (· ++ ['\n'])).head? ≠ some '\n' := by
  obtain ⟨first, rest, rfl⟩ := List.exists_cons_of_ne_nil hne
  have hfirst : first ≠ [] := h.head first rfl
  intro hfeed
  rw [List.flatMap_cons, List.append_assoc, List.head?_append_of_ne_nil _ hfirst] at hfeed
  exact h.oneLine first List.mem_cons_self (List.mem_of_head? hfeed)

end AreTidy

/-! ## The lines of a text -/

/-- The lines of a text, each of which a line feed ends; what stands behind the last line feed is
one more line unless it is empty. -/
def linesOf (text : String) : List (List Char) :=
  let pieces := cut '\n' text.toList
  if pieces.getLast? = some [] then pieces.dropLast else pieces

variable {text : String}

theorem linesOf_of_flatMap (h : ∀ line ∈ lines, '\n' ∉ line)
    (htext : text.toList = lines.flatMap (· ++ ['\n'])) : linesOf text = lines := by
  unfold linesOf
  rw [htext, cut_flatMap h]
  simp

/-- Every piece of a text that is not blank is a line of it. -/
theorem filter_linesOf (text : String) :
    (linesOf text).filter (!isAllBlank ·) = (cut '\n' text.toList).filter (!isAllBlank ·) := by
  unfold linesOf
  dsimp only
  split
  · rename_i hlast
    obtain ⟨front, hfront⟩ := List.getLast?_eq_some_iff.1 hlast
    rw [hfront, List.dropLast_concat, List.filter_append, List.filter_singleton]
    exact (List.append_nil _).symm
  · rfl

theorem isEmpty_trimRight (line : List Char) : (trimRight line).isEmpty = isAllBlank line := by
  rw [Bool.eq_iff_iff, List.isEmpty_iff, trimRight_eq_nil_iff]

/-- Tidying keeps the lines that are not blank but for the white space at their ends. -/
theorem filter_tidyLines (text : List Char) :
    (tidyLines text).filter (!isAllBlank ·) =
      ((cut '\n' text).filter (!isAllBlank ·)).map trimRight := by
  have hempty : ∀ line ∈ tidyLines text, (!isAllBlank line) = !line.isEmpty := by
    intro line hl
    rw [← isEmpty_trimRight, (areTidy_tidyLines text).trimmed line hl]
  have htrim : (fun line => !(trimRight line).isEmpty) = (!isAllBlank ·) :=
    funext fun line => congrArg not (isEmpty_trimRight line)
  calc (tidyLines text).filter (!isAllBlank ·)
      = (tidyLines text).filter (!·.isEmpty) := List.filter_congr hempty
    _ = ((cut '\n' text).map trimRight).filter (!·.isEmpty) := by
        unfold tidyLines
        rw [filter_trimEmptyLines, filter_squeeze]
    _ = ((cut '\n' text).filter (!isAllBlank ·)).map trimRight := by
        rw [List.filter_map]
        exact congrArg (fun p => ((cut '\n' text).filter p).map trimRight) htrim

theorem toList_tidy (text : String) :
    (tidy text).toList = join '\n' (tidyLines text.toList) ++ ['\n'] := String.toList_ofList

/-- A tidied text is a line feed or made of tidy lines. -/
theorem tidy_cases (text : String) :
    tidyLines text.toList = [] ∧ tidy text = "\n" ∨ tidyLines text.toList ≠ [] ∧
      (tidy text).toList = (tidyLines text.toList).flatMap (· ++ ['\n']) := by
  by_cases h : tidyLines text.toList = []
  · refine .inl ⟨h, String.toList_inj.1 ?_⟩
    rw [toList_tidy, h]
    rfl
  · exact .inr ⟨h, by rw [toList_tidy, join_concat h]⟩

/-- **The normal form of a text.** Tidying a tidied text changes nothing. A tidied text ends in one
line feed and starts with none unless it is this one, none of its lines ends in white space, no two
of them in a row are empty, and its lines that are not blank are those of the text but for the white
space at their ends. -/
theorem tidy_normal (text : String) :
    tidy (tidy text) = tidy text ∧
    (∃ front, (tidy text).toList = front ++ ['\n'] ∧ front.getLast? ≠ some '\n') ∧
    (tidy text ≠ "\n" → (tidy text).toList.head? ≠ some '\n') ∧
    (∀ line ∈ linesOf (tidy text), ∀ c ∈ line.getLast?, isBlank c = false) ∧
    (linesOf (tidy text)).IsChain (fun line next => line ≠ [] ∨ next ≠ []) ∧
    (linesOf (tidy text)).filter (!isAllBlank ·) =
      ((linesOf text).filter (!isAllBlank ·)).map trimRight := by
  have htidy := areTidy_tidyLines text.toList
  have hkept := filter_tidyLines text.toList
  rw [← filter_linesOf] at hkept
  rcases tidy_cases text with ⟨hnone, hfeed⟩ | ⟨hsome, htext⟩
  · rw [hnone] at hkept
    have hlines : linesOf "\n" = [[]] := rfl
    rw [hfeed, hlines]
    exact ⟨rfl, ⟨[], rfl, nofun⟩, fun hne => absurd rfl hne,
      List.forall_mem_singleton.2 nofun, List.isChain_singleton [], hkept⟩
  · have hlines := linesOf_of_flatMap htidy.oneLine htext
    have hagain : tidy (tidy text) = tidy text := by
      rw [← String.toList_inj, toList_tidy, htext, htidy.tidyLines_flatMap, join_concat hsome]
    rw [hlines, htext]
    exact ⟨hagain, htidy.exists_flatMap_eq hsome, fun _ => htidy.head?_flatMap_ne hsome,
      fun line hl => isBlank_of_trimRight (htidy.trimmed line hl), htidy.spaced, hkept⟩

example : tidy "\n \n a \n\t\n\n b" = " a\n\n b\n" := by cbv

end StructSchema.Text
