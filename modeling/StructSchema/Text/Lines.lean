/-!
# Lines

Cutting a text at every occurrence of one character and joining the pieces again, and the reading
of a file's line ends: a carriage return, with or without a line feed after it, is one line feed.
Main statement: `join_cut`, joining what was cut gives the text back.
-/

namespace StructSchema.Text

/-- The pieces of a list between the items for which `isMark` holds; there is always one. -/
def cutWhere (isMark : α → Bool) : List α → List (List α)
  | [] => [[]]
  | x :: rest =>
    if isMark x then [] :: cutWhere isMark rest
    else
      match cutWhere isMark rest with
      | [] => [[x]]
      | piece :: pieces => (x :: piece) :: pieces

/-- The pieces of a text between the occurrences of `mark`. -/
def cut (mark : Char) (text : List Char) : List (List Char) := cutWhere (· == mark) text

/-- Pieces with `mark` between them. -/
def join (mark : Char) : List (List Char) → List Char
  | [] => []
  | [piece] => piece
  | piece :: pieces => piece ++ mark :: join mark pieces

theorem cutWhere_ne_nil (isMark : α → Bool) (items : List α) : cutWhere isMark items ≠ [] := by
  cases items with
  | nil => simp [cutWhere]
  | cons x rest =>
    simp only [cutWhere]
    split
    · simp
    · split <;> simp

theorem cut_ne_nil (mark : Char) (text : List Char) : cut mark text ≠ [] :=
  cutWhere_ne_nil _ text

theorem join_cons_cut (mark : Char) (piece rest : List Char) :
    join mark (piece :: cut mark rest) = piece ++ mark :: join mark (cut mark rest) := by
  cases h : cut mark rest with
  | nil => exact absurd h (cut_ne_nil mark rest)
  | cons p ps => rfl

/-- Joining the pieces of a text gives the text. -/
@[simp] theorem join_cut (mark : Char) (text : List Char) : join mark (cut mark text) = text := by
  induction text with
  | nil => rfl
  | cons c rest ih =>
    by_cases h : c = mark
    · have hc : cut mark (c :: rest) = [] :: cut mark rest := by simp [cut, cutWhere, h]
      rw [hc, join_cons_cut, ih, h]
      rfl
    · cases hr : cut mark rest with
      | nil => exact absurd hr (cut_ne_nil mark rest)
      | cons p ps =>
        have hc : cut mark (c :: rest) = (c :: p) :: ps := by
          simp only [cut] at hr
          simp [cut, cutWhere, h, hr]
        rw [hr] at ih
        rw [hc]
        cases ps with
        | nil => simpa [join] using ih
        | cons q qs => simpa [join] using ih

/-- A text with each kind of line end as one line feed. -/
def unifyLineEnds : List Char → List Char
  | [] => []
  | '\r' :: '\n' :: rest => '\n' :: unifyLineEnds rest
  | c :: rest => (if c = '\r' then '\n' else c) :: unifyLineEnds rest

/-- A text without one line feed at its end. -/
def dropFinalLineFeed (text : List Char) : List Char :=
  if text.getLast? = some '\n' then text.dropLast else text

theorem dropFinalLineFeed_of_not_mem {text : List Char} (h : '\n' ∉ text) :
    dropFinalLineFeed text = text :=
  if_neg fun hlast => h (List.mem_of_getLast? hlast)

theorem dropFinalLineFeed_cases (text : List Char) :
    text = dropFinalLineFeed text ∨ text = dropFinalLineFeed text ++ ['\n'] := by
  unfold dropFinalLineFeed
  split
  · rename_i hlast
    obtain ⟨front, rfl⟩ := List.getLast?_eq_some_iff.1 hlast
    exact .inr (by rw [List.dropLast_concat])
  · exact .inl rfl

end StructSchema.Text
