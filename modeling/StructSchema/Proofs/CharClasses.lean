import StructSchema.Text.Blank
import StructSchema.Token

/-!
# Classes of characters

How the classes of characters lie to one another: a name begins with an ASCII letter or the
underscore, which are word characters and no digits, and white space stands in no word.
-/

namespace StructSchema

/-- A character of a class is none that is not in it. -/
theorem ne_of_class {p : Char → Bool} {c d : Char} (hc : p c) (hd : p d = false) : c ≠ d := by
  rintro rfl
  rw [hc] at hd
  cases hd

/-- A run of characters of one class behind one of another holds none that is in neither. -/
theorem not_mem_run {p q : Char → Bool} {c d : Char} {body : List Char} (hc : p c)
    (hbody : ∀ e ∈ body, q e) (hp : p d = false) (hq : q d = false) : d ∉ c :: body := by
  rw [List.mem_cons, not_or]
  exact ⟨(ne_of_class hc hp).symm, fun hd => ne_of_class (hbody d hd) hq rfl⟩

/-- The characters of joined texts, but for those of what stands between them. -/
theorem mem_intercalate_iff {separator : String} {c : Char} (hc : c ∉ separator.toList)
    (texts : List String) :
    c ∈ (separator.intercalate texts).toList ↔ ∃ text ∈ texts, c ∈ text.toList := by
  induction texts with
  | nil => simp
  | cons text texts ih =>
    cases texts with
    | nil => simp
    | cons next texts =>
      rw [String.intercalate_cons_cons, String.toList_append, String.toList_append,
        List.mem_append, List.mem_append, ih]
      simp [hc]

namespace Text

variable {c : Char}

/-- The characters that begin a name, by their code points. -/
theorem toNat_of_isNameStart (h : isNameStart c) :
    65 ≤ c.toNat ∧ c.toNat ≤ 90 ∨ c.toNat = 95 ∨ 97 ≤ c.toNat ∧ c.toNat ≤ 122 := by
  unfold isNameStart at h
  rw [Bool.or_eq_true, beq_iff_eq] at h
  rcases h with h | rfl
  · delta Char.isAlpha Char.isUpper Char.isLower at h
    simp only [Bool.or_eq_true, Bool.and_eq_true, decide_eq_true_eq, UInt32.le_iff_toNat_le] at h
    have hA : ('A' : Char).val.toNat = 65 := rfl
    have hZ : ('Z' : Char).val.toNat = 90 := rfl
    have ha : ('a' : Char).val.toNat = 97 := rfl
    have hz : ('z' : Char).val.toNat = 122 := rfl
    unfold Char.toNat
    omega
  · decide

/-- A name begins with a word character. -/
theorem isWordChar_of_isNameStart (h : isNameStart c) : isWordChar c := by
  have hall : ∀ n < 123, 65 ≤ n ∧ n ≤ 90 ∨ n = 95 ∨ 97 ≤ n ∧ n ≤ 122 → wordRanges.has n = true := by
    decide +kernel
  have hn := toNat_of_isNameStart h
  exact hall c.toNat (by omega) hn

/-- No digit begins a name. -/
theorem isNameStart_eq_false_of_isDecimalDigit (hc : isDecimalDigit c) : isNameStart c = false := by
  rw [Bool.eq_false_iff]
  intro h
  have hn := toNat_of_isNameStart h
  unfold isDecimalDigit digitRanges at hc
  rw [Ranges.has, if_neg (by omega), Ranges.has_of_lt (by omega), Bool.or_false,
    decide_eq_true_eq] at hc
  omega

/-- White space stands in no word. -/
theorem isWordChar_eq_false_of_isBlank (h : isBlank c) : isWordChar c = false := by
  have hall : ∀ n ∈ [9, 10, 11, 12, 13, 28, 29, 30, 31, 32, 133, 160, 5760, 8192, 8193, 8194, 8195,
      8196, 8197, 8198, 8199, 8200, 8201, 8202, 8232, 8233, 8239, 8287, 12288],
      wordRanges.has n = false := by decide +kernel
  refine hall c.toNat ?_
  unfold isBlank at h
  generalize c.toNat = n at h
  simp [blankRanges, Ranges.has] at h
  simp only [List.mem_cons, List.not_mem_nil, or_false]
  omega

theorem isBlank_eq_false_of_isWordChar (h : isWordChar c) : isBlank c = false := by
  rw [Bool.eq_false_iff]
  intro hb
  rw [isWordChar_eq_false_of_isBlank hb] at h
  cases h

end Text

/-- The blanks between tokens. -/
theorem Token.isSkipped_iff {c : Char} : isSkipped c ↔ c = ' ' ∨ c = '\t' ∨ c = '\r' := by
  simp [isSkipped, or_assoc]

/-- A blank between tokens stands in no word and in no number. -/
theorem Token.not_word_of_isSkipped {c : Char} (h : isSkipped c) :
    Text.isWordChar c = false ∧ Text.isDecimalDigit c = false := by
  rcases isSkipped_iff.1 h with rfl | rfl | rfl
  · decide
  · decide
  · decide

end StructSchema
