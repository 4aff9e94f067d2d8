import StructSchema.Text.Ranges

/-!
# White space

White space is the Unicode property together with the four information separators U+001C to
U+001F. Trimming removes it from one or both ends of a text; `trimRight_eq_nil_iff` says of which
texts nothing is left.
-/

namespace StructSchema.Text

/-- The white space characters. -/
def blankRanges : Ranges :=
  [(0x9, 0xD), (0x1C, 0x20), (0x85, 0x85), (0xA0, 0xA0), (0x1680, 0x1680), (0x2000, 0x200A),
   (0x2028, 0x2029), (0x202F, 0x202F), (0x205F, 0x205F), (0x3000, 0x3000)]

/-- Whether a character is white space. -/
def isBlank (c : Char) : Bool := blankRanges.has c.toNat

/-- A text without the white space at its start. -/
def trimLeft (text : List Char) : List Char := text.dropWhile isBlank

/-- A text without the white space at its end. -/
def trimRight : List Char → List Char
  | [] => []
  | c :: rest =>
    match trimRight rest with
    | [] => if isBlank c then [] else [c]
    | kept => c :: kept

/-- A text without the white space at either end. -/
def trim (text : List Char) : List Char := trimRight (trimLeft text)

/-- Whether a text holds nothing but white space. -/
def isAllBlank (text : List Char) : Bool := text.all isBlank

theorem length_trimLeft_le (text : List Char) : (trimLeft text).length ≤ text.length :=
  (List.dropWhile_sublist _).length_le

/-- Trimming at the right leaves nothing exactly of a blank text. -/
theorem trimRight_eq_nil_iff (text : List Char) : trimRight text = [] ↔ isAllBlank text := by
  induction text with
  | nil => simp [trimRight, isAllBlank]
  | cons c rest ih =>
    simp only [trimRight]
    cases h : trimRight rest with
    | nil =>
      have hr : rest.all isBlank = true := ih.1 h
      by_cases hc : isBlank c = true <;> simp [isAllBlank, hc, hr]
    | cons d kept =>
      have hr : ¬ rest.all isBlank = true := fun hb => by simp [ih.2 hb] at h
      simp [isAllBlank, hr]

end StructSchema.Text
