import Mathlib.Data.List.Basic
import StructSchema.Proofs.Lexing
import StructSchema.Proofs.TidyLines

/-!
# Texts that can be taken apart

What was put together can be told from the text: a run of characters of one kind from what follows,
`Text.append_inj_of_head?`, lines without line feeds from their text, `Text.unlines_inj`, and groups
of as many lines each from the list of all lines, `Text.intercalate_inj`.
-/

namespace StructSchema

namespace Text

/-! ## Runs and lines -/

/-- A run of characters of one kind ends where a character of another kind stands. -/
theorem append_inj_of_head? {p : Char → Bool} {xs ys rest later : List Char}
    (hx : ∀ c ∈ xs, p c) (hy : ∀ c ∈ ys, p c) (hrest : ∀ c ∈ rest.head?, p c = false)
    (hlater : ∀ c ∈ later.head?, p c = false) (h : xs ++ rest = ys ++ later) :
    xs = ys ∧ rest = later := by
  have hrun : xs = ys := by
    rw [← Token.takeWhile_append_of_head? hx hrest, h, Token.takeWhile_append_of_head? hy hlater]
  rw [hrun] at h
  exact ⟨hrun, List.append_cancel_left h⟩

theorem unlines_append (lines others : List String) :
    unlines (lines ++ others) = unlines lines ++ unlines others := by
  unfold unlines
  rw [List.map_append, String.join_append]

theorem pieces_of_isOneLine {lines : List String} (h : ∀ line ∈ lines, IsOneLine line) :
    pieces lines = lines.map String.toList := by
  induction lines with
  | nil => rfl
  | cons line lines ih =>
    rw [List.forall_mem_cons] at h
    have hpieces : pieces (line :: lines) = cut '\n' line.toList ++ pieces lines :=
      List.flatMap_cons
    rw [hpieces, h.1.cut_eq, ih h.2]
    rfl

/-- A text of lines without line feeds has these lines. -/
theorem unlines_inj {lines others : List String} (hl : ∀ line ∈ lines, IsOneLine line)
    (ho : ∀ line ∈ others, IsOneLine line) (h : unlines lines = unlines others) :
    lines = others := by
  have hcut := congrArg (fun text : String => cut '\n' text.toList) h
  unfold unlines at hcut
  simp only [cut_text, pieces_of_isOneLine hl, pieces_of_isOneLine ho] at hcut
  exact List.map_injective_iff.2 (fun _ _ => String.toList_inj.1) (List.append_cancel_right hcut)

/-! ## Groups of lines -/

section Groups

variable {α : Type} {mark : α} {size : Nat} {groups others : List (List α)}

/-- Behind the first group every group has a mark in front of it. -/
theorem intercalate_cons_eq (mark : α) (group : List α) (groups : List (List α)) :
    [mark].intercalate (group :: groups) = group ++ groups.flatMap (mark :: ·) := by
  induction groups generalizing group with
  | nil => simp
  | cons next groups ih =>
    rw [List.intercalate_cons_cons, ih, List.flatMap_cons]
    simp

theorem flatMap_inj_of_length (hg : ∀ group ∈ groups, group.length = size)
    (ho : ∀ group ∈ others, group.length = size)
    (h : groups.flatMap (mark :: ·) = others.flatMap (mark :: ·)) : groups = others := by
  induction groups generalizing others with
  | nil =>
    cases others with
    | nil => rfl
    | cons other others => cases h
  | cons group groups ih =>
    cases others with
    | nil => cases h
    | cons other others =>
      rw [List.forall_mem_cons] at hg ho
      rw [List.flatMap_cons, List.flatMap_cons] at h
      obtain ⟨hfirst, hrest⟩ := List.append_inj h (by simp [hg.1, ho.1])
      rw [(List.cons.inj hfirst).2, ih hg.2 ho.2 hrest]

/-- Groups of one size can be told apart, whatever stands between them. -/
theorem intercalate_inj (hsize : 0 < size) (hg : ∀ group ∈ groups, group.length = size)
    (ho : ∀ group ∈ others, group.length = size)
    (h : [mark].intercalate groups = [mark].intercalate others) : groups = others := by
  have hnone : ∀ {group : List α} {groups : List (List α)}, group.length = size →
      [mark].intercalate (group :: groups) ≠ [] := by
    intro group groups hlength he
    rw [intercalate_cons_eq, List.append_eq_nil_iff] at he
    rw [he.1, List.length_nil] at hlength
    omega
  cases groups with
  | nil =>
    cases others with
    | nil => rfl
    | cons other others => exact absurd h.symm (hnone (ho other List.mem_cons_self))
  | cons group groups =>
    cases others with
    | nil => exact absurd h (hnone (hg group List.mem_cons_self))
    | cons other others =>
      rw [List.forall_mem_cons] at hg ho
      rw [intercalate_cons_eq, intercalate_cons_eq] at h
      obtain ⟨hfirst, hrest⟩ := List.append_inj h (hg.1.trans ho.1.symm)
      rw [hfirst, flatMap_inj_of_length hg.2 ho.2 hrest]

/-- What holds of the mark and of the members of every group holds of all. -/
theorem forall_mem_intercalate {p : α → Prop} (hmark : p mark)
    (h : ∀ group ∈ groups, ∀ item ∈ group, p item) :
    ∀ item ∈ [mark].intercalate groups, p item := by
  cases groups with
  | nil => exact fun item hi => by cases hi
  | cons group groups =>
    rw [List.forall_mem_cons] at h
    intro item hi
    rw [intercalate_cons_eq, List.mem_append, List.mem_flatMap] at hi
    rcases hi with hi | ⟨next, hnext, hi⟩
    · exact h.1 item hi
    · rcases List.mem_cons.1 hi with rfl | hi
      · exact hmark
      · exact h.2 next hnext item hi

end Groups

end Text

end StructSchema
