import StructSchema.Proofs.ConversionAccount
import StructSchema.Proofs.DirectoryListing

/-!
# Artifacts in a store

The artifacts of outcomes are written one after the other: `Conversion.saved`. They fit if each has
a file name in the output directory and nothing stands in its way. Then no directory changes, nor
anything outside the output directory, and each artifact is there at the end if no two have one
path: `Conversion.Fits.get?_saved_of_mem`. Saving them a second time changes nothing,
`Conversion.Fits.saved_saved`.
-/

namespace StructSchema.Conversion

variable {conversion : Conversion} {base store : FileStore} {outcomes more : List Outcome}
  {outcome : Outcome} {path : Path} {l : Location}

/-- What stands in the way of a file name in the output directory, unless nothing is written. -/
def refusal (conversion : Conversion) (base : FileStore) (name : String) : Option FileStore.Cause :=
  if conversion.dryRun then none else base.obstacle? conversion.output name

/-- A store with the artifact of an outcome, if it has one. -/
def save (store : FileStore) (outcome : Outcome) : FileStore :=
  match outcome.outputPath, outcome.code with
  | some path, some code => store.set path.location (.file (octetsOf code))
  | _, _ => store

/-- A store with the artifacts of outcomes, unless nothing is written. -/
def saved (conversion : Conversion) (base : FileStore) (outcomes : List Outcome) : FileStore :=
  if conversion.dryRun then base else outcomes.foldl save base

/-- Artifacts that lie in the output directory, where nothing stands in their way. -/
def Fits (conversion : Conversion) (base : FileStore) (outcomes : List Outcome) : Prop :=
  ∀ outcome ∈ outcomes, ∀ path, outcome.outputPath = some path →
    ∃ name, Generator.IsFileName name ∧ path = conversion.output.child name ∧
      conversion.refusal base name = none

theorem refusal_of_write (hdry : conversion.dryRun = false) (base : FileStore) (name : String) :
    conversion.refusal base name = base.obstacle? conversion.output name := by
  unfold refusal
  rw [if_neg (by simp [hdry])]

theorem saved_nil (conversion : Conversion) (base : FileStore) :
    conversion.saved base [] = base := by
  unfold saved
  split
  · rfl
  · rfl

theorem saved_concat (conversion : Conversion) (base : FileStore) (outcomes : List Outcome)
    (outcome : Outcome) : conversion.saved base (outcomes ++ [outcome]) =
      if conversion.dryRun then base else save (conversion.saved base outcomes) outcome := by
  unfold saved
  by_cases hdry : conversion.dryRun = true
  · rw [if_pos hdry, if_pos hdry]
  · rw [if_neg hdry, if_neg hdry, if_neg hdry, List.foldl_append]
    rfl

/-- A location without an artifact keeps what it holds. -/
theorem get?_foldl_save (hne : ∀ outcome ∈ outcomes, ∀ path, outcome.outputPath = some path →
    path.location.names ≠ [] ∧ l ≠ path.location) :
    (outcomes.foldl save base).get? l = base.get? l := by
  induction outcomes generalizing base with
  | nil => rfl
  | cons outcome outcomes ih =>
    rw [List.forall_mem_cons] at hne
    rw [List.foldl_cons, ih hne.2]
    unfold save
    split
    · rename_i path code hpath _
      obtain ⟨hnames, hl⟩ := hne.1 path hpath
      rw [FileStore.get?_set _ _ _ _ hnames, if_neg hl]
    · rfl

namespace Fits

theorem append (h : conversion.Fits base outcomes) (hmore : conversion.Fits base more) :
    conversion.Fits base (outcomes ++ more) := by
  intro outcome houtcome
  rcases List.mem_append.1 houtcome with houtcome | houtcome
  · exact h outcome houtcome
  · exact hmore outcome houtcome

theorem names_ne_nil (h : conversion.Fits base outcomes) (houtcome : outcome ∈ outcomes)
    (hpath : outcome.outputPath = some path) : path.location.names ≠ [] := by
  obtain ⟨name, hname, rfl, -⟩ := h outcome houtcome path hpath
  rw [Path.location_child _ hname.ne_parent]
  exact Location.names_child_ne_nil _ _

theorem get?_saved_of_forall_ne (h : conversion.Fits base outcomes)
    (hne : ∀ outcome ∈ outcomes, ∀ path, outcome.outputPath = some path → l ≠ path.location) :
    (conversion.saved base outcomes).get? l = base.get? l := by
  unfold saved
  split
  · rfl
  · refine get?_foldl_save fun outcome houtcome path hpath => ?_
    exact ⟨h.names_ne_nil houtcome hpath, hne outcome houtcome path hpath⟩

/-- A location outside the output directory keeps what it holds. -/
theorem get?_saved_of_ne (h : conversion.Fits base outcomes) {directory : Location}
    (hne : conversion.output.location ≠ directory) (name : String) :
    (conversion.saved base outcomes).get? (directory.child name) =
      base.get? (directory.child name) := by
  refine h.get?_saved_of_forall_ne fun outcome houtcome path hpath hl => ?_
  obtain ⟨_, hname, rfl, -⟩ := h outcome houtcome path hpath
  rw [Path.location_child _ hname.ne_parent, Location.child_inj] at hl
  exact hne hl.1.symm

/-- A location holds what it held, or the artifact of an outcome. -/
theorem get?_saved_cases (h : conversion.Fits base outcomes) (l : Location) :
    (conversion.saved base outcomes).get? l = base.get? l ∨
      ∃ outcome ∈ outcomes, ∃ path, outcome.outputPath = some path ∧ l = path.location := by
  by_cases hl : ∃ outcome ∈ outcomes, ∃ path, outcome.outputPath = some path ∧ l = path.location
  · exact .inr hl
  · refine .inl (h.get?_saved_of_forall_ne fun outcome houtcome path hpath he => hl ?_)
    exact ⟨outcome, houtcome, path, hpath, he⟩

/-- The artifact of an outcome whose output path no later outcome has. -/
theorem get?_saved_of_mem (h : conversion.Fits base outcomes) (hdry : conversion.dryRun = false)
    (hnodup : (Outcome.outputPaths outcomes).Nodup) (houtcome : outcome ∈ outcomes)
    (hpath : outcome.outputPath = some path) {code : String} (hcode : outcome.code = some code) :
    (conversion.saved base outcomes).get? path.location = some (.file (octetsOf code)) := by
  obtain ⟨before, after, rfl⟩ := List.append_of_mem houtcome
  unfold Outcome.outputPaths at hnodup
  rw [List.filterMap_append, List.filterMap_cons_some hpath, List.nodup_append,
    List.nodup_cons] at hnodup
  have hnames := h.names_ne_nil houtcome hpath
  unfold saved
  rw [if_neg (by simp [hdry]), List.foldl_append, List.foldl_cons, get?_foldl_save]
  · unfold save
    simp only [hpath, hcode]
    rw [FileStore.get?_set _ _ _ _ hnames, if_pos rfl]
  · -- No outcome behind it has its path, so none has its location.
    intro other hother otherPath hotherPath
    have hmem := List.mem_append_right before (List.mem_cons_of_mem outcome hother)
    refine ⟨h.names_ne_nil hmem hotherPath, fun hl => hnodup.2.1.1 ?_⟩
    obtain ⟨name, hname, rfl, -⟩ := h outcome houtcome path hpath
    obtain ⟨otherName, hotherName, rfl, -⟩ := h other hmem otherPath hotherPath
    rw [Path.location_child _ hname.ne_parent, Path.location_child _ hotherName.ne_parent,
      Location.child_inj] at hl
    exact List.mem_filterMap.2 ⟨other, hother, by rw [hotherPath, hl.2]⟩

/-- Artifacts change no directory, and make none. -/
theorem directory_saved_iff (h : conversion.Fits base outcomes) (l : Location) :
    (conversion.saved base outcomes).get? l = some .directory ↔ base.get? l = some .directory := by
  induction outcomes using List.reverseRec with
  | nil => rw [saved_nil]
  | append_singleton outcomes outcome ih =>
    have hprev := ih fun o ho => h o (List.mem_append_left _ ho)
    rw [saved_concat]
    split
    · rfl
    · rename_i hdry
      unfold save
      split
      · rename_i path code hpath _
        have hmem : outcome ∈ outcomes ++ [outcome] := List.mem_append_right _ List.mem_cons_self
        obtain ⟨name, hname, rfl, hfree⟩ := h outcome hmem path hpath
        rw [FileStore.get?_set _ _ _ _ (h.names_ne_nil hmem hpath)]
        split
        · rename_i hl
          rw [Path.location_child _ hname.ne_parent] at hl
          rw [refusal_of_write (by simpa using hdry)] at hfree
          refine iff_of_false nofun ?_
          rw [hl]
          exact (FileStore.obstacle?_eq_none_iff.1 hfree).2.2
        · exact hprev
      · exact hprev

theorem refusal_saved (h : conversion.Fits base outcomes) :
    conversion.refusal (conversion.saved base outcomes) = conversion.refusal base := by
  funext name
  unfold refusal FileStore.obstacle?
  simp only [h.directory_saved_iff]

theorem keepsDirectories (h : conversion.Fits base outcomes) :
    base.KeepsDirectories (conversion.saved base outcomes) :=
  fun l hl => (h.directory_saved_iff l).2 hl

end Fits

end StructSchema.Conversion
