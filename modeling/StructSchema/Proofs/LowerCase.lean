import StructSchema.Proofs.OutputNames

/-!
# The lower case of a lower case text

The image of a character under the lower case mappings has no image of its own, and is none of the
two capitals that are treated apart. So the lower case of a text is its own lower case:
`Text.lower_lower`.
-/

namespace StructSchema.Text

variable {c d : Char} {n m low high : Nat} {spaced : Bool} {runs : List CaseRun}

/-! ## Images have no images -/

/-- Whether ascending runs hold no code point from `low` to `high`; if these are `spaced`, only
every second one is meant. -/
def CaseRun.miss (low high : Nat) (spaced : Bool) : List CaseRun → Bool
  | [] => true
  | run :: rest =>
    Nat.blt high run.first ||
      (Nat.blt run.last low ||
        (spaced && Nat.beq run.step 2 && Nat.beq ((low + run.first) % 2) 1)) &&
        miss low high spaced rest

theorem image?_eq_none_of_miss (h : CaseRun.miss low high spaced runs) (hlow : low ≤ m)
    (hhigh : m ≤ high) (hspaced : spaced → m % 2 = low % 2) : CaseRun.image? runs m = none := by
  induction runs with
  | nil => rfl
  | cons run rest ih =>
    simp only [CaseRun.miss, Bool.or_eq_true, Bool.and_eq_true, Nat.blt_eq, Nat.beq_eq] at h
    rw [CaseRun.image?]
    split
    · rfl
    · rename_i hfirst
      rcases h with hbefore | ⟨hclear, hrest⟩
      · omega
      · split
        · -- The run holds code points on either side, but not this one.
          rename_i hlast
          rcases hclear with hbehind | ⟨⟨hs, htwo⟩, hodd⟩
          · omega
          · have heven := hspaced hs
            rw [htwo, if_neg (by omega)]
        · exact ih hrest

/-- The images of a run are missed by all runs. -/
theorem lowerRuns_miss : (lowerRuns.all fun run =>
    decide (0 ≤ (run.first : Int) + run.offset) &&
      CaseRun.miss ((run.first : Int) + run.offset).toNat ((run.last : Int) + run.offset).toNat
        (run.step == 2 || run.first == run.last) lowerRuns) = true := by
  decide +kernel

/-- A character that lower case leaves alone, wherever it stands. -/
structure IsLower (c : Char) : Prop where
  ne_sigma : c ≠ 'Σ'
  ne_dotted : c ≠ 'İ'
  image?_eq : CaseRun.image? lowerRuns c.toNat = none

theorem image?_image (h : CaseRun.image? lowerRuns n = some m) :
    CaseRun.image? lowerRuns m = none := by
  obtain ⟨run, hmem, hfirst, hlast, hstep, rfl⟩ := exists_run_of_image? h
  have hmiss := List.all_eq_true.1 lowerRuns_miss run hmem
  rw [Bool.and_eq_true, decide_eq_true_iff] at hmiss
  refine image?_eq_none_of_miss hmiss.2 (by omega) (by omega) fun hspaced => ?_
  rw [Bool.or_eq_true, beq_iff_eq, beq_iff_eq] at hspaced
  rcases hspaced with htwo | hone
  · rw [htwo] at hstep
    omega
  · obtain rfl : n = run.first := by omega
    rfl

theorem isLower_of_image (h : CaseRun.image? lowerRuns n = some m) : IsLower (Char.ofNat m) := by
  have hnat : (Char.ofNat m).toNat = m := by
    rw [Char.toNat_ofNat, if_pos (lower_image_bounds h).2]
  have hnone := image?_image h
  refine ⟨fun hsigma => ?_, fun hdotted => ?_, by rwa [hnat]⟩
  · rw [← hnat, hsigma] at hnone
    revert hnone
    decide +kernel
  · have hruns : ∀ run ∈ lowerRuns, (run.last : Int) + run.offset < 'İ'.toNat ∨
        ('İ'.toNat : Int) < run.first + run.offset := by
      decide +kernel
    obtain ⟨run, hmem, hfirst, hlast, -, hm⟩ := exists_run_of_image? h
    have hbeyond := hruns run hmem
    have hpositive := List.all_eq_true.1 lowerRuns_miss run hmem
    rw [Bool.and_eq_true, decide_eq_true_iff] at hpositive
    rw [hdotted] at hnat
    omega

/-! ## Texts -/

theorem isLower_of_mem_lowerChar {before after : List Char} (h : d ∈ lowerChar before c after) :
    IsLower d := by
  have hapart : ∀ d ∈ ['ς', 'σ', 'i', '\u0307'], IsLower d := by
    have hnone : (['ς', 'σ', 'i', '\u0307'].all fun d =>
        (CaseRun.image? lowerRuns d.toNat).isNone) = true := by
      cbv
    intro d hd
    refine ⟨?_, ?_, Option.isNone_iff_eq_none.1 (List.all_eq_true.1 hnone d hd)⟩
    · rintro rfl
      simp at hd
    · rintro rfl
      simp at hd
  unfold lowerChar at h
  split at h
  · refine hapart d ?_
    rw [List.mem_singleton] at h
    subst h
    split
    · simp
    · simp
  · rename_i hsigma
    split at h
    · exact hapart d (List.mem_of_mem_drop (i := 2) h)
    · rename_i hdotted
      rw [List.mem_singleton] at h
      subst h
      cases himage : CaseRun.image? lowerRuns c.toNat with
      | none => exact ⟨hsigma, hdotted, himage⟩
      | some m => exact isLower_of_image himage

theorem isLower_of_mem_lowerAfter {text before : List Char} (h : d ∈ lowerAfter before text) :
    IsLower d := by
  induction text generalizing before with
  | nil => cases h
  | cons c text ih =>
    rcases List.mem_append.1 h with h | h
    · exact isLower_of_mem_lowerChar h
    · exact ih h

theorem lowerAfter_of_isLower {text : List Char} (h : ∀ c ∈ text, IsLower c)
    (before : List Char) : lowerAfter before text = text := by
  induction text generalizing before with
  | nil => rfl
  | cons c text ih =>
    rw [List.forall_mem_cons] at h
    obtain ⟨⟨hsigma, hdotted, hnone⟩, htext⟩ := h
    have hchar : lowerChar before c text = [c] := by
      unfold lowerChar
      rw [if_neg hsigma, if_neg hdotted, hnone]
      rfl
    rw [lowerAfter, hchar, ih htext]
    rfl

/-- The lower case of a text is its own lower case. -/
@[simp] theorem lower_lower (text : String) : lower (lower text) = lower text := by
  have hlower : ∀ c ∈ (lower text).toList, IsLower c := by
    unfold lower
    rw [String.toList_ofList]
    exact fun c => isLower_of_mem_lowerAfter
  have hagain := lowerAfter_of_isLower hlower []
  calc lower (lower text) = String.ofList (lowerAfter [] (lower text).toList) := rfl
    _ = lower text := by rw [hagain, String.ofList_toList]

end StructSchema.Text
