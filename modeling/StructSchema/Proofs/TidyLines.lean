import Mathlib.Data.List.TakeWhile
import StructSchema.Text.Tidy

/-!
# Pieces and tidy lines

A text is cut apart from what follows a mark, `cutWhere_append`, so a text of lines is cut into the
pieces of its lines and tidied line by line: `tidy_unlines`. Behind a line that does not end in
white space tidying starts anew, `tidied_append`, so groups of lines with an empty line between each
two of them are tidied one by one, `tidied_groups`, and groups of tidy lines are left alone:
`tidied_intercalate`.
-/

namespace StructSchema.Text

/-! ## Pieces -/

variable {α : Type} {isMark : α → Bool}

theorem cutWhere_append {mark : α} (hm : isMark mark) (before after : List α) :
    cutWhere isMark (before ++ mark :: after) =
      cutWhere isMark before ++ cutWhere isMark after := by
  induction before with
  | nil => simp [cutWhere, hm]
  | cons x before ih =>
    rw [List.cons_append, cutWhere, cutWhere, ih]
    split
    · rfl
    · cases h : cutWhere isMark before with
      | nil => exact absurd h (cutWhere_ne_nil isMark before)
      | cons piece pieces => rfl

/-- Without marks there is one piece. -/
theorem cutWhere_of_forall_not {items : List α} (h : ∀ x ∈ items, isMark x = false) :
    cutWhere isMark items = [items] := by
  induction items with
  | nil => rfl
  | cons x items ih =>
    rw [List.forall_mem_cons] at h
    rw [cutWhere, ih h.2, if_neg (by simp [h.1])]

/-- The pieces hold everything but the marks. -/
theorem flatten_cutWhere (isMark : α → Bool) (items : List α) :
    (cutWhere isMark items).flatten = items.filter (!isMark ·) := by
  induction items with
  | nil => rfl
  | cons x items ih =>
    rw [cutWhere, List.filter_cons]
    cases isMark x with
    | true => simpa using ih
    | false =>
      cases h : cutWhere isMark items with
      | nil => exact absurd h (cutWhere_ne_nil isMark items)
      | cons piece pieces =>
        rw [h, List.flatten_cons] at ih
        simp [ih]

theorem not_mem_of_mem_cut {mark : Char} {text piece : List Char} (h : piece ∈ cut mark text) :
    mark ∉ piece := by
  intro hm
  have hmem := List.mem_flatten_of_mem h hm
  unfold cut at hmem
  rw [flatten_cutWhere] at hmem
  simpa using (List.mem_filter.1 hmem).2

/-- The pieces of lines, which may hold line feeds themselves. -/
def pieces (lines : List String) : List (List Char) :=
  lines.flatMap fun line => cut '\n' line.toList

theorem cut_text (lines : List String) :
    cut '\n' (String.join (lines.map (· ++ "\n"))).toList = pieces lines ++ [[]] := by
  induction lines with
  | nil => rfl
  | cons line lines ih =>
    have htext : (String.join ((line :: lines).map (· ++ "\n"))).toList =
        line.toList ++ '\n' :: (String.join (lines.map (· ++ "\n"))).toList := by
      simp [String.join_cons]
    rw [htext, cut, cutWhere_append (by decide)]
    show cut '\n' line.toList ++ cut '\n' _ = _
    rw [ih, ← List.append_assoc]
    rfl

/-- A text that ends in no mark ends in the last of its pieces. -/
theorem exists_cut_concat {mark c : Char} (hc : c ≠ mark) (text : List Char) :
    ∃ before piece, cut mark (text ++ [c]) = before ++ [piece ++ [c]] := by
  induction text with
  | nil => exact ⟨[], [], by simp [cut, cutWhere, hc]⟩
  | cons d text ih =>
    obtain ⟨before, piece, h⟩ := ih
    unfold cut at h ⊢
    rw [List.cons_append, cutWhere, h]
    split
    · exact ⟨[] :: before, piece, rfl⟩
    · cases before with
      | nil => exact ⟨[], d :: piece, rfl⟩
      | cons first before => exact ⟨(d :: first) :: before, piece, rfl⟩

theorem exists_cut_eq {mark c : Char} {front : List Char} (hfront : mark ∉ front) (hc : c ≠ mark)
    (rest : List Char) : ∃ piece pieces, cut mark (front ++ c :: rest) =
      (front ++ c :: piece) :: pieces := by
  induction front with
  | nil =>
    show ∃ piece pieces, cut mark (c :: rest) = (c :: piece) :: pieces
    unfold cut
    rw [cutWhere, if_neg (by simpa using hc)]
    cases h : cutWhere (· == mark) rest with
    | nil => exact absurd h (cutWhere_ne_nil _ rest)
    | cons piece pieces => exact ⟨piece, pieces, rfl⟩
  | cons d front ih =>
    rw [List.mem_cons, not_or] at hfront
    obtain ⟨piece, pieces, hcut⟩ := ih hfront.2
    refine ⟨piece, pieces, ?_⟩
    unfold cut at hcut ⊢
    rw [List.cons_append, cutWhere, if_neg (by simpa using Ne.symm hfront.1), hcut]
    rfl

/-! ## White space at the end -/

theorem trimRight_concat {c : Char} (hc : isBlank c = false) (text : List Char) :
    trimRight (text ++ [c]) = text ++ [c] := by
  induction text with
  | nil => simp [trimRight, hc]
  | cons d text ih =>
    rw [List.cons_append, trimRight, ih]
    cases h : text ++ [c] with
    | nil => simp at h
    | cons e rest => rfl

theorem mem_of_mem_trimRight {c : Char} {text : List Char} (h : c ∈ trimRight text) :
    c ∈ text := by
  induction text with
  | nil => cases h
  | cons d text ih =>
    rw [trimRight] at h
    split at h
    · split at h
      · cases h
      · rw [List.mem_singleton.1 h]
        exact List.mem_cons_self
    · rename_i hrest
      rcases List.mem_cons.1 h with rfl | h
      · exact List.mem_cons_self
      · exact List.mem_cons_of_mem d (ih h)

/-! ## Empty lines -/

variable {xs ys : List (List Char)} {afterEmpty : Bool}

theorem mem_of_mem_squeeze {afterEmpty : Bool} {text : List Char} {texts : List (List Char)}
    (h : text ∈ squeeze afterEmpty texts) : text ∈ texts := by
  induction texts generalizing afterEmpty with
  | nil => cases h
  | cons first texts ih =>
    rw [squeeze] at h
    split at h
    · rename_i hempty
      split at h
      · exact List.mem_cons_of_mem first (ih h)
      · rcases List.mem_cons.1 h with rfl | h
        · rw [List.isEmpty_iff.1 hempty]
          exact List.mem_cons_self
        · exact List.mem_cons_of_mem first (ih h)
    · rcases List.mem_cons.1 h with rfl | h
      · exact List.mem_cons_self
      · exact List.mem_cons_of_mem first (ih h)

theorem squeeze_concat {line : List Char} (hl : line ≠ []) (afterEmpty : Bool)
    (xs : List (List Char)) :
    squeeze afterEmpty (xs ++ [line]) = squeeze afterEmpty xs ++ [line] := by
  have hline : line.isEmpty = false := List.isEmpty_eq_false_iff.2 hl
  induction xs generalizing afterEmpty with
  | nil => simp [squeeze, hline]
  | cons x xs ih =>
    rw [List.cons_append, squeeze, squeeze, ih, ih]
    split
    · split
      · rfl
      · rfl
    · rfl

/-- Behind a line that is not empty, lines are tidied as if they were the first. -/
theorem squeeze_append {line : List Char} (hl : line ≠ []) (afterEmpty : Bool)
    (xs ys : List (List Char)) :
    squeeze afterEmpty (xs ++ [line] ++ ys) =
      squeeze afterEmpty (xs ++ [line]) ++ squeeze false ys := by
  have hline : line.isEmpty = false := List.isEmpty_eq_false_iff.2 hl
  induction xs generalizing afterEmpty with
  | nil => simp [squeeze, hline]
  | cons x xs ih =>
    rw [List.cons_append, List.cons_append, squeeze, squeeze, ih, ih]
    split
    · split
      · rfl
      · rfl
    · rfl

/-- An empty line before lines of which the first is not empty stays. -/
theorem squeeze_true (h : ∀ line ∈ xs.head?, line ≠ []) : squeeze true xs = squeeze false xs := by
  cases xs with
  | nil => rfl
  | cons line xs =>
    have hline : line.isEmpty = false := List.isEmpty_eq_false_iff.2 (h line rfl)
    rw [squeeze, squeeze, hline]
    rfl

theorem trimEmptyLines_of_ends {first last : List Char} (hf : first ≠ []) (hl : last ≠ [])
    (hfirst : xs.head? = some first) (hlast : xs.getLast? = some last) :
    trimEmptyLines (xs ++ [[]]) = xs := by
  have hstop : ∀ {lines : List (List Char)} {line : List Char}, line ≠ [] →
      lines.head? = some line → lines.dropWhile (·.isEmpty) = lines := by
    intro lines line hne hhead
    cases lines with
    | nil => rfl
    | cons other lines =>
      obtain rfl := Option.some.inj hhead
      exact List.dropWhile_cons_of_neg (by simpa using hne)
  have hhead : (xs ++ [[]]).head? = some first := by
    rw [List.head?_append, hfirst]
    rfl
  unfold trimEmptyLines
  rw [hstop hf hhead, List.reverse_append, List.reverse_singleton, List.singleton_append,
    List.dropWhile_cons_of_pos (by decide), hstop hl (by rwa [List.head?_reverse]),
    List.reverse_reverse]

/-! ## Texts of lines -/

/-- A text of lines. -/
def unlines (lines : List String) : String := String.join (lines.map (· ++ "\n"))

/-- The lines of a text of lines, tidied. -/
def tidied (lines : List String) : List String :=
  (squeeze false ((pieces lines).map trimRight)).map String.ofList

/-- A text does not end in white space. -/
def EndsInInk (line : String) : Prop := ∃ c ∈ line.toList.getLast?, isBlank c = false

/-- A line with something else than white space in front of its line feeds. -/
def HasInk (line : String) : Prop :=
  ∃ front c rest, line.toList = front ++ c :: rest ∧ '\n' ∉ front ∧ isBlank c = false

/-- A text without line feeds. -/
def IsOneLine (line : String) : Prop := '\n' ∉ line.toList

instance (line : String) : Decidable (IsOneLine line) :=
  inferInstanceAs (Decidable ('\n' ∉ line.toList))

/-- A line that tidying leaves alone. -/
structure IsTidyLine (line : String) : Prop where
  endsInInk : EndsInInk line
  isOneLine : IsOneLine line

variable {line other : String}

theorem EndsInInk.exists_concat (h : EndsInInk line) :
    ∃ text c, line.toList = text ++ [c] ∧ isBlank c = false := by
  obtain ⟨c, hc, hink⟩ := h
  obtain ⟨text, htext⟩ := List.getLast?_eq_some_iff.1 hc
  exact ⟨text, c, htext, hink⟩

theorem EndsInInk.append (h : EndsInInk line) (other : String) : EndsInInk (other ++ line) := by
  obtain ⟨c, hc, hink⟩ := h
  refine ⟨c, ?_, hink⟩
  rw [String.toList_append, List.getLast?_append, Option.mem_def.1 hc]
  rfl

theorem IsOneLine.append (h : IsOneLine line) (ho : IsOneLine other) :
    IsOneLine (line ++ other) := by
  unfold IsOneLine
  rw [String.toList_append, List.mem_append]
  exact fun hm => hm.elim h ho

theorem IsOneLine.cut_eq (h : IsOneLine line) : cut '\n' line.toList = [line.toList] :=
  cutWhere_of_forall_not fun _ hc => beq_eq_false_iff_ne.2 fun he => h (he ▸ hc)

theorem isOneLine_join {parts : List String} (h : ∀ part ∈ parts, IsOneLine part) :
    IsOneLine (String.join parts) := by
  unfold IsOneLine
  rw [String.toList_join, List.mem_flatMap]
  rintro ⟨part, hp, hm⟩
  exact h part hp hm

theorem join_concat {mark : Char} (h : xs ≠ []) :
    join mark xs ++ [mark] = xs.flatMap (· ++ [mark]) := by
  induction xs with
  | nil => exact absurd rfl h
  | cons x xs ih =>
    cases xs with
    | nil =>
      rw [List.flatMap_singleton]
      rfl
    | cons y xs =>
      show x ++ mark :: join mark (y :: xs) ++ [mark] = _
      rw [List.append_assoc, List.cons_append, ih (List.cons_ne_nil y xs)]
      simp

theorem ne_lineFeed_of_isBlank {c : Char} (h : isBlank c = false) : c ≠ '\n' := by
  rintro rfl
  cases h

theorem toList_unlines (lines : List String) :
    (unlines lines).toList = (lines.map String.toList).flatMap (· ++ ['\n']) := by
  unfold unlines
  rw [String.toList_join, List.flatMap_map, List.flatMap_map]
  simp

/-- The last piece of a line that ends in no white space. -/
theorem EndsInInk.exists_pieces (h : EndsInInk line) (lines : List String) :
    ∃ before last, last ≠ [] ∧ (pieces (lines ++ [line])).map trimRight = before ++ [last] := by
  obtain ⟨text, c, htext, hc⟩ := h.exists_concat
  obtain ⟨before, piece, hcut⟩ := exists_cut_concat (ne_lineFeed_of_isBlank hc) text
  refine ⟨(pieces lines ++ before).map trimRight, piece ++ [c], by simp, ?_⟩
  have hline : pieces [line] = before ++ [piece ++ [c]] := by
    unfold pieces
    rw [List.flatMap_singleton, htext, hcut]
  have hlines : pieces (lines ++ [line]) = pieces lines ++ pieces [line] := List.flatMap_append
  rw [hlines, hline, ← List.append_assoc, List.map_append, List.map_singleton, trimRight_concat hc]

/-- Behind a line that does not end in white space, lines are tidied as if they were the first. -/
theorem tidied_append (h : EndsInInk line) (xs ys : List String) :
    tidied (xs ++ [line] ++ ys) = tidied (xs ++ [line]) ++ tidied ys := by
  obtain ⟨before, last, hl, hlast⟩ := h.exists_pieces xs
  have hpieces : pieces (xs ++ [line] ++ ys) = pieces (xs ++ [line]) ++ pieces ys :=
    List.flatMap_append
  unfold tidied
  rw [hpieces, List.map_append, hlast, squeeze_append hl, List.map_append]

theorem tidied_append_of_getLast? {group : List String}
    (h : ∃ last ∈ group.getLast?, EndsInInk last) (lines : List String) :
    tidied (group ++ lines) = tidied group ++ tidied lines := by
  obtain ⟨last, hlast, hink⟩ := h
  obtain ⟨front, rfl⟩ := List.getLast?_eq_some_iff.1 hlast
  exact tidied_append hink front lines

/-- Tidied lines hold no line feeds. -/
theorem isOneLine_of_mem_tidied {lines : List String} (h : line ∈ tidied lines) :
    IsOneLine line := by
  obtain ⟨text, htext, rfl⟩ := List.mem_map.1 h
  obtain ⟨piece, hpiece, rfl⟩ := List.mem_map.1 (mem_of_mem_squeeze htext)
  obtain ⟨whole, -, hcut⟩ := List.mem_flatMap.1 hpiece
  unfold IsOneLine
  rw [String.toList_ofList]
  exact fun hfeed => not_mem_of_mem_cut hcut (mem_of_mem_trimRight hfeed)

theorem IsOneLine.hasInk_append {text : String} (h : IsOneLine line)
    (ht : ∃ c ∈ text.toList.head?, isBlank c = false) : HasInk (line ++ text) := by
  obtain ⟨c, hc, hink⟩ := ht
  obtain ⟨rest, hrest⟩ := List.head?_eq_some_iff.1 hc
  exact ⟨line.toList, c, rest, by rw [String.toList_append, hrest], h, hink⟩

/-- An empty line in front of a line with ink stays. -/
theorem tidied_empty_cons (h : HasInk line) (lines : List String) :
    tidied ("" :: line :: lines) = "" :: tidied (line :: lines) := by
  obtain ⟨front, c, rest, htext, hfront, hc⟩ := h
  obtain ⟨piece, more, hcut⟩ := exists_cut_eq hfront (ne_lineFeed_of_isBlank hc) rest
  have hempty : (pieces ("" :: line :: lines)).map trimRight =
      [] :: (pieces (line :: lines)).map trimRight := rfl
  have hline : (pieces (line :: lines)).map trimRight =
      trimRight (front ++ c :: piece) :: (more ++ pieces lines).map trimRight := by
    unfold pieces
    rw [List.flatMap_cons, htext, hcut]
    rfl
  have hne : trimRight (front ++ c :: piece) ≠ [] := by
    rw [Ne, trimRight_eq_nil_iff, isAllBlank, List.all_eq_true]
    intro hall
    rw [hall c (by simp)] at hc
    cases hc
  have hsqueeze : squeeze true ((pieces (line :: lines)).map trimRight) =
      squeeze false ((pieces (line :: lines)).map trimRight) := by
    refine squeeze_true fun text ht => ?_
    rw [hline] at ht
    obtain rfl := Option.some.inj ht
    exact hne
  unfold tidied
  rw [hempty, squeeze, hsqueeze]
  rfl

/-- Groups of lines that begin with ink and end in ink are tidied one by one. -/
theorem tidied_groups {groups : List (List String)}
    (h : ∀ group ∈ groups, (∃ first ∈ group.head?, HasInk first) ∧
      ∃ last ∈ group.getLast?, EndsInInk last) (lines : List String) :
    tidied ([""].intercalate groups ++ lines) =
      [""].intercalate (groups.map tidied) ++ tidied lines := by
  induction groups with
  | nil => rfl
  | cons group groups ih =>
    rw [List.forall_mem_cons] at h
    cases groups with
    | nil =>
      rw [List.map_singleton, List.intercalate_singleton, List.intercalate_singleton]
      exact tidied_append_of_getLast? h.1.2 lines
    | cons next groups =>
      have ih := ih h.2
      obtain ⟨⟨⟨first, hfirst, hink⟩, -⟩, -⟩ := List.forall_mem_cons.1 h.2
      obtain ⟨rest, rfl⟩ := List.head?_eq_some_iff.1 hfirst
      have hempty : tidied ("" :: ([""].intercalate ((first :: rest) :: groups) ++ lines)) =
          "" :: tidied ([""].intercalate ((first :: rest) :: groups) ++ lines) := by
        rw [List.intercalate_cons_cons_left]
        exact tidied_empty_cons hink _
      calc tidied ([""].intercalate (group :: (first :: rest) :: groups) ++ lines)
          = tidied group ++
              tidied ("" :: ([""].intercalate ((first :: rest) :: groups) ++ lines)) := by
            rw [List.intercalate_cons_cons, List.append_assoc, List.append_assoc,
              tidied_append_of_getLast? h.1.2]
            rfl
        _ = [""].intercalate ((group :: (first :: rest) :: groups).map tidied)
              ++ tidied lines := by
            simp only [hempty, ih, List.map_cons, List.intercalate_cons_cons, List.append_assoc]
            rfl

theorem IsTidyLine.pieces_cons (h : IsTidyLine line) (lines : List String) :
    (pieces (line :: lines)).map trimRight = line.toList :: (pieces lines).map trimRight := by
  obtain ⟨text, c, htext, hc⟩ := h.endsInInk.exists_concat
  have hline : pieces (line :: lines) = cut '\n' line.toList ++ pieces lines := List.flatMap_cons
  rw [hline, h.isOneLine.cut_eq, List.singleton_append, List.map_cons, htext, trimRight_concat hc]

theorem IsTidyLine.toList_ne_nil (h : IsTidyLine line) : line.toList ≠ [] := by
  obtain ⟨text, c, htext, -⟩ := h.endsInInk.exists_concat
  rw [htext]
  simp

theorem IsTidyLine.hasInk (h : IsTidyLine line) : HasInk line := by
  obtain ⟨text, c, htext, hc⟩ := h.endsInInk.exists_concat
  refine ⟨text, c, [], htext, fun hfeed => h.isOneLine ?_, hc⟩
  rw [htext]
  exact List.mem_append_left _ hfeed

theorem tidied_cons (h : IsTidyLine line) (lines : List String) :
    tidied (line :: lines) = line :: tidied lines := by
  unfold tidied
  rw [h.pieces_cons, squeeze, List.isEmpty_eq_false_iff.2 h.toList_ne_nil, if_neg (by decide),
    List.map_cons, String.ofList_toList]

/-- A line that ends in ink is left alone if it is one line, and else is not. -/
theorem tidied_singleton_iff (h : EndsInInk line) : tidied [line] = [line] ↔ IsOneLine line := by
  constructor
  · intro htidied
    exact isOneLine_of_mem_tidied (by rw [htidied]; exact List.mem_singleton_self line)
  · intro hline
    exact tidied_cons ⟨h, hline⟩ []

theorem tidied_group {group : List String} (h : ∀ line ∈ group, IsTidyLine line)
    (lines : List String) : tidied (group ++ lines) = group ++ tidied lines := by
  induction group with
  | nil => rfl
  | cons line group ih =>
    rw [List.forall_mem_cons] at h
    rw [List.cons_append, tidied_cons h.1, ih h.2]
    rfl

/-- Tidy lines in groups, with an empty line between each two groups, stay. -/
theorem tidied_intercalate {groups : List (List String)}
    (h : ∀ group ∈ groups, group ≠ [] ∧ ∀ line ∈ group, IsTidyLine line) (lines : List String) :
    tidied ([""].intercalate groups ++ lines) = [""].intercalate groups ++ tidied lines := by
  have hinked : ∀ group ∈ groups, (∃ first ∈ group.head?, HasInk first) ∧
      ∃ last ∈ group.getLast?, EndsInInk last := by
    intro group hg
    obtain ⟨hne, htidy⟩ := h group hg
    exact ⟨⟨group.head hne, List.head?_eq_some_head hne, (htidy _ (List.head_mem hne)).hasInk⟩,
      group.getLast hne, List.getLast?_eq_some_getLast hne,
      (htidy _ (List.getLast_mem hne)).endsInInk⟩
  have hsame : groups.map tidied = groups.map id := by
    refine List.map_congr_left fun group hg => ?_
    have hgroup := tidied_group (h group hg).2 []
    have hnone : tidied [] = [] := rfl
    rwa [hnone, List.append_nil] at hgroup
  rw [tidied_groups hinked, hsame, List.map_id]

/-- A text of lines that begins and ends in no white space is tidied line by line. -/
theorem tidy_unlines {lines : List String} (hf : ∃ first ∈ lines.head?, IsTidyLine first)
    (hl : ∃ last ∈ lines.getLast?, EndsInInk last) :
    tidy (unlines lines) = unlines (tidied lines) := by
  obtain ⟨first, hfirst, hf⟩ := hf
  obtain ⟨rest, hrest⟩ := List.head?_eq_some_iff.1 hfirst
  obtain ⟨last, hlast, hl⟩ := hl
  obtain ⟨front, hfront⟩ := List.getLast?_eq_some_iff.1 hlast
  obtain ⟨before, final, hne, hfinal⟩ := hl.exists_pieces front
  rw [← hfront] at hfinal
  generalize hkept : squeeze false ((pieces lines).map trimRight) = kept
  have hhead : kept.head? = some first.toList := by
    rw [← hkept, hrest, hf.pieces_cons, squeeze, List.isEmpty_eq_false_iff.2 hf.toList_ne_nil,
      if_neg (by decide)]
    rfl
  have hend : kept.getLast? = some final := by
    rw [← hkept, hfinal, squeeze_concat hne]
    simp
  have hsqueeze : squeeze false ((pieces lines ++ [[]]).map trimRight) = kept ++ [[]] := by
    rw [List.map_append, hfinal, List.map_singleton, squeeze_append hne, ← hfinal, hkept]
    rfl
  have hkeptNe : kept ≠ [] := by
    rintro rfl
    cases hhead
  have htidied : tidied lines = kept.map String.ofList := by
    unfold tidied
    rw [hkept]
  have hlists : (kept.map String.ofList).map String.toList = kept := by
    rw [List.map_map]
    exact List.map_id'' (fun _ => String.toList_ofList) kept
  rw [← String.toList_inj, toList_unlines, htidied, hlists, ← join_concat hkeptNe]
  unfold tidy tidyLines unlines
  rw [String.toList_ofList, cut_text, hsqueeze,
    trimEmptyLines_of_ends hf.toList_ne_nil hne hhead hend]

end StructSchema.Text
