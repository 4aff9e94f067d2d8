import StructSchema.Conversion
import StructSchema.Proofs.Accounting
import StructSchema.Proofs.StorePaths
import StructSchema.Proofs.TidyLines

/-!
# Names of artifacts

An artifact is named by the lower case of its declaration and the suffix of its generator:
`Generator.outputFile_of_generate`. The name of a declaration is a word, and the lower case of a
word holds no slash, so if the suffix holds none the artifact lies directly in the output directory:
`Conversion.outputPath_eq`.
-/

namespace StructSchema

/-! ## The lower case of a word -/

namespace Text

variable {c d : Char} {n m : Nat}

theorem exists_run_of_image? {runs : List CaseRun} (h : CaseRun.image? runs n = some m) :
    ∃ run ∈ runs, run.first ≤ n ∧ n ≤ run.last ∧ (n - run.first) % run.step = 0 ∧
      m = ((n : Int) + run.offset).toNat := by
  induction runs with
  | nil => cases h
  | cons run rest ih =>
    rw [CaseRun.image?] at h
    split at h
    · cases h
    · rename_i hfirst
      split at h
      · rename_i hlast
        split at h
        · rename_i hstep
          cases h
          exact ⟨run, List.mem_cons_self, Nat.not_lt.1 hfirst, hlast, hstep, rfl⟩
        · cases h
      · obtain ⟨found, hfound, hrun⟩ := ih h
        exact ⟨found, List.mem_cons_of_mem run hfound, hrun⟩

/-- The lower case mappings lead beyond the slash, to characters. -/
theorem lower_image_bounds (h : CaseRun.image? lowerRuns n = some m) :
    '/'.toNat < m ∧ m.isValidChar := by
  have hruns : ∀ run ∈ lowerRuns, ('/'.toNat : Int) < run.first + run.offset ∧
      (run.last + run.offset < 0xD800 ∨
        0xDFFF < run.first + run.offset ∧ run.last + run.offset < 0x110000) := by
    decide +kernel
  obtain ⟨run, hmem, hfirst, hlast, -, rfl⟩ := exists_run_of_image? h
  obtain ⟨hslash, hvalid⟩ := hruns run hmem
  unfold Nat.isValidChar
  omega

theorem lt_toNat_of_mem_lowerChar (hc : '/'.toNat < c.toNat) (before after : List Char)
    (hd : d ∈ lowerChar before c after) : '/'.toNat < d.toNat := by
  unfold lowerChar at hd
  split at hd
  · rw [List.mem_singleton] at hd
    subst hd
    split
    · decide
    · decide
  · split at hd
    · rcases List.mem_cons.1 hd with rfl | hd
      · decide
      · rw [List.mem_singleton.1 hd]
        decide
    · rw [List.mem_singleton] at hd
      subst hd
      cases himage : CaseRun.image? lowerRuns c.toNat with
      | none => exact hc
      | some m =>
        obtain ⟨hslash, hvalid⟩ := lower_image_bounds himage
        have hm : (Char.ofNat m).toNat = m := by rw [Char.toNat_ofNat, if_pos hvalid]
        show '/'.toNat < (Char.ofNat m).toNat
        rw [hm]
        exact hslash

theorem lt_toNat_of_mem_lowerAfter {text : List Char} (ht : ∀ c ∈ text, '/'.toNat < c.toNat)
    (before : List Char) : ∀ d ∈ lowerAfter before text, '/'.toNat < d.toNat := by
  induction text generalizing before with
  | nil => simp [lowerAfter]
  | cons c text ih =>
    rw [List.forall_mem_cons] at ht
    intro d hd
    rcases List.mem_append.1 hd with hd | hd
    · exact lt_toNat_of_mem_lowerChar ht.1 before text hd
    · exact ih ht.2 (c :: before) d hd

theorem lowerAfter_ne_nil {text : List Char} (ht : text ≠ []) (before : List Char) :
    lowerAfter before text ≠ [] := by
  cases text with
  | nil => exact absurd rfl ht
  | cons c text =>
    unfold lowerAfter lowerChar
    split
    · simp
    · split
      · simp
      · simp

theorem lt_toNat_of_isWordChar (h : isWordChar c) : '/'.toNat < c.toNat := by
  by_contra hn
  unfold isWordChar wordRanges at h
  rw [Ranges.has_of_lt (by have : '/'.toNat = 47 := rfl; omega)] at h
  cases h

end Text

/-! ## The names of declarations -/

namespace StructBlock

/-- The name of a declaration is a word. -/
structure HasWordName (block : StructBlock) : Prop where
  ne_empty : block.name ≠ ""
  isWordChar : ∀ c ∈ block.name.toList, Text.isWordChar c

theorem hasWordName_of_blockAt? {text after : List Char} {block : StructBlock}
    (h : blockAt? text = some (block, after)) : block.HasWordName := by
  simp only [blockAt?, Option.bind_eq_bind, Option.bind_eq_some_iff] at h
  obtain ⟨⟨name, inside⟩, hheader, h⟩ := h
  have hname : name ≠ [] ∧ ∀ c ∈ name, Text.isWordChar c := by
    simp only [headerAt?, Option.bind_eq_bind, Option.bind_eq_some_iff] at hheader
    obtain ⟨_, -, atName, -, hheader⟩ := hheader
    split at hheader
    · cases hheader
    · rename_i hne
      simp only [Option.bind_eq_some_iff] at hheader
      obtain ⟨_, -, _, -, hheader⟩ := hheader
      split at hheader
      · cases hheader
        exact ⟨by simpa using hne, fun c hc => List.mem_takeWhile_imp hc⟩
      · cases hheader
  dsimp only at h
  split at h
  · cases h
  · cases h
    exact ⟨by simpa using hname.1, by simpa using hname.2⟩

theorem hasWordName_of_mem_blocksIn {inWord : Bool} {text : List Char} {block : StructBlock}
    (h : block ∈ blocksIn inWord text) : block.HasWordName := by
  induction inWord, text using blocksIn.induct with
  | case1 => simp [blocksIn] at h
  | case2 inWord c rest found after hfound ih =>
    rw [dite_eq_ite] at hfound
    have hat : blockAt? (c :: rest) = some (found, after) := by
      split at hfound
      · cases hfound
      · exact hfound
    rw [blocksIn] at h
    split at h
    · rename_i found' after' hfound'
      rw [hfound] at hfound'
      cases hfound'
      rcases List.mem_cons.1 h with rfl | h
      · exact hasWordName_of_blockAt? hat
      · exact ih h
    · rename_i hnone
      rw [hfound] at hnone
      cases hnone
  | case3 inWord c rest hnone ih =>
    rw [dite_eq_ite] at hnone
    rw [blocksIn] at h
    split at h
    · rename_i hfound
      rw [hnone] at hfound
      cases hfound
    · exact ih h

theorem hasWordName_of_mem_select {source : String} {everyOne : Bool} {block : StructBlock}
    (h : block ∈ select source everyOne) : block.HasWordName := by
  have hall : ∀ block ∈ all source, block.HasWordName := fun _ => hasWordName_of_mem_blocksIn
  rw [select_eq] at h
  split at h
  · exact hall block h
  · exact hall block (List.mem_of_mem_head? (Option.mem_toList.1 h))

end StructBlock

/-! ## The names of artifacts -/

namespace Generator

variable {generator : Generator} {structName body : String} {made : Artifact}

/-- The name of the artifact of a declaration. -/
def artifactName (generator : Generator) (structName : String) : String :=
  Text.lower structName ++ generator.fileExtension.display

theorem outputFile_of_generate (h : generator.generate structName body = .ok made) :
    made.outputFile = generator.artifactName structName := by
  obtain ⟨model, code, hmodel, -, rfl⟩ := generate_eq_ok_iff.1 h
  obtain ⟨policy, -, hbuild⟩ := model_eq_ok_iff.1 hmodel
  show Text.lower model.structName ++ _ = _
  rw [(SchemaModel.sourceType_of_build hbuild).1]
  rfl

theorem structName_of_generate (h : generator.generate structName body = .ok made) :
    made.structName = structName := by
  obtain ⟨model, code, hmodel, -, rfl⟩ := generate_eq_ok_iff.1 h
  obtain ⟨policy, -, hbuild⟩ := model_eq_ok_iff.1 hmodel
  exact (SchemaModel.sourceType_of_build hbuild).1

/-- A generator whose suffix holds neither a slash nor the null character. -/
structure HasPlainSuffix (generator : Generator) : Prop where
  slash_not_mem : '/' ∉ generator.fileExtension.display.toList
  null_not_mem : '\x00' ∉ generator.fileExtension.display.toList

/-- A text that may name a file: it begins with a character beyond the slash, and holds neither a
slash nor the null character. -/
structure IsFileName (name : String) : Prop where
  head : ∃ c rest, name.toList = c :: rest ∧ '/'.toNat < c.toNat
  slash_not_mem : '/' ∉ name.toList
  null_not_mem : '\x00' ∉ name.toList

theorem HasPlainSuffix.isFileName (h : generator.HasPlainSuffix) {block : StructBlock}
    (hblock : block.HasWordName) : IsFileName (generator.artifactName block.name) := by
  have hbeyond : ∀ c ∈ (Text.lower block.name).toList, '/'.toNat < c.toNat := by
    unfold Text.lower
    rw [String.toList_ofList]
    exact Text.lt_toNat_of_mem_lowerAfter
      (fun c hc => Text.lt_toNat_of_isWordChar (hblock.isWordChar c hc)) []
  have hfree : ∀ {c : Char}, ¬ '/'.toNat < c.toNat →
      c ∉ generator.fileExtension.display.toList →
      c ∉ (generator.artifactName block.name).toList := by
    intro c hc hsuffix hmem
    unfold artifactName at hmem
    rw [String.toList_append, List.mem_append] at hmem
    exact hmem.elim (fun hmem => hc (hbeyond c hmem)) hsuffix
  refine ⟨?_, hfree (by decide) h.slash_not_mem, hfree (by decide) h.null_not_mem⟩
  cases hlower : (Text.lower block.name).toList with
  | nil =>
    unfold Text.lower at hlower
    rw [String.toList_ofList] at hlower
    exact absurd hlower (Text.lowerAfter_ne_nil (by simpa using hblock.ne_empty) [])
  | cons c rest =>
    refine ⟨c, rest ++ generator.fileExtension.display.toList, ?_, hbeyond c ?_⟩
    · unfold artifactName
      rw [String.toList_append, hlower, List.cons_append]
    · rw [hlower]
      exact List.mem_cons_self

theorem IsFileName.ne_parent {name : String} (h : IsFileName name) : name ≠ ".." := by
  rintro rfl
  obtain ⟨c, rest, he, hc⟩ := h.head
  obtain ⟨rfl, -⟩ := List.cons.inj he
  exact absurd hc (by decide)

/-- The path of a file name. -/
theorem IsFileName.ofString {name : String} (h : IsFileName name) :
    Path.ofString name = ⟨"", [name]⟩ := by
  obtain ⟨c, rest, he, hc⟩ := h.head
  have hslash : c ≠ '/' := by
    rintro rfl
    exact absurd hc (by decide)
  have hdot : c ≠ '.' := by
    rintro rfl
    exact absurd hc (by decide)
  have hcut : Text.cut '/' name.toList = [name.toList] :=
    Text.cutWhere_of_forall_not fun d hd => by
      rw [beq_eq_false_iff_ne]
      rintro rfl
      exact h.slash_not_mem hd
  have hlead : name.toList.takeWhile (· == '/') = [] := by
    rw [he, List.takeWhile_cons_of_neg (by simpa using hslash)]
  have hkeep : (name.toList != [] && name.toList != ['.']) = true := by
    simp [he, hdot]
  unfold Path.ofString
  simp only [hlead, List.length_nil, List.drop_zero, hcut, List.filter_cons, hkeep, if_true,
    List.filter_nil, List.map_cons, List.map_nil, String.ofList_toList]
  rfl

end Generator

namespace Conversion

variable {conversion : Conversion} {block : StructBlock} {made : Artifact}

/-- Artifacts lie directly in the output directory. -/
theorem outputPath_eq (hsuffix : conversion.generator.HasPlainSuffix) (hblock : block.HasWordName)
    (h : conversion.generator.generate block.name block.body = .ok made) :
    conversion.outputPath made =
      conversion.output.child (conversion.generator.artifactName block.name) := by
  unfold outputPath
  rw [Generator.outputFile_of_generate h, (hsuffix.isFileName hblock).ofString]
  rfl

end Conversion

end StructSchema
