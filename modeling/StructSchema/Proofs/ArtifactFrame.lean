import StructSchema.Proofs.BlockSearch
import StructSchema.Proofs.FileOutcomes

/-!
# What a run writes

A run that writes leaves its artifacts and nothing else: `Conversion.artifacts_of_run`. No artifact
is written over another one, since a file name belongs to the first declaration whose artifact was
written under it; a later one that comes to the same name collides, and what failed has no name.
-/

namespace StructSchema.Conversion

variable {conversion : Conversion} {refused : String → Option FileStore.Cause}
  {store : FileStore} {files : List Path} {report : Report} {earlier : List Outcome}
  {outcome owner : Outcome} {source path : Path} {block : StructBlock} {structName : String}

/-! ## Wordings -/

/-- An outcome is that of an artifact, or has no output path. -/
theorem writes_or_of_mem_account {items : List Item}
    (h : outcome ∈ conversion.account refused earlier items) :
    (∃ declared code, conversion.Writes outcome declared code) ∨
      outcome.status ≠ .success ∧ outcome.outputPath = none := by
  obtain ⟨item, -, before, rfl⟩ := exists_of_mem_account h
  rcases conversion.settle_cases refused before item with ⟨declared, code, hwrites, -⟩ | hnone
  · exact .inl ⟨declared, code, hwrites⟩
  · exact .inr ⟨hnone.1, hnone.2.1⟩

theorem artifactPath_inj {a b : String} : conversion.artifactPath a = conversion.artifactPath b ↔
    conversion.generator.artifactName a = conversion.generator.artifactName b :=
  Path.child_inj

/-- A store after a conversion: it holds the artifacts of the successes, each under a path of its
own, and differs from the store before only there and by directories made toward the output
directory. -/
structure ArtifactFrame (conversion : Conversion) (store later : FileStore)
    (outcomes : List Outcome) : Prop where
  nodup : (Outcome.outputPaths (outcomes.filter (·.status = .success))).Nodup
  written : ∀ outcome ∈ outcomes, outcome.status = .success → ∃ path code,
    outcome.outputPath = some path ∧ outcome.code = some code ∧
      later.read path = .ok (octetsOf code)
  frame : ∀ l, later.get? l = store.get? l ∨
    (∃ outcome ∈ outcomes, outcome.status = .success ∧
      ∃ path, outcome.outputPath = some path ∧ l = path.location) ∨
    store.get? l = none ∧ later.get? l = some .directory ∧
      ∃ above, above <+: conversion.output.segments ∧
        l = (⟨conversion.output.root, above⟩ : Path).location

/-- What is saved under an output path can be read there. -/
theorem Fits.read_saved {base : FileStore} {outcomes : List Outcome} {code : String}
    (h : conversion.Fits base outcomes) (hready : conversion.Ready base)
    (hdry : conversion.dryRun = false) (hnodup : (Outcome.outputPaths outcomes).Nodup)
    (houtcome : outcome ∈ outcomes) (hpath : outcome.outputPath = some path)
    (hcode : outcome.code = some code) :
    (conversion.saved base outcomes).read path = .ok (octetsOf code) := by
  have hget := h.get?_saved_of_mem hdry hnodup houtcome hpath hcode
  have hdir : (conversion.saved base outcomes).isDirectory conversion.output = .ok true :=
    FileStore.isDirectory_of_keeps h.keepsDirectories (hready.isDirectory hdry)
  obtain ⟨name, hname, rfl, hfree⟩ := h outcome houtcome path hpath
  rw [refusal_of_write hdry, FileStore.obstacle?_eq_none_iff] at hfree
  have hlocate := FileStore.locate_child hdir hname.ne_parent hname.null_not_mem
  rw [if_neg (by omega)] at hlocate
  rw [Path.location_child _ hname.ne_parent] at hget
  exact FileStore.read_of_find (FileStore.find_eq_ok_iff.2 ⟨hlocate, hget⟩)

theorem Completes.artifactFrame (h : conversion.Completes store files report)
    (hsuffix : conversion.generator.HasPlainSuffix) (hdry : conversion.dryRun = false) :
    conversion.ArtifactFrame store (conversion.run store).store report.outcomes := by
  have hfits := h.fits hsuffix
  have hcases : ∀ outcome ∈ report.outcomes,
      (∃ declared code, conversion.Writes outcome declared code) ∨
        outcome.status ≠ .success ∧ outcome.outputPath = none := by
    rw [h.outcomes]
    exact fun outcome => writes_or_of_mem_account
  rw [h.store_run hsuffix]
  refine ⟨?_, fun outcome houtcome hstatus => ?_, fun l => ?_⟩
  · exact h.nodup_outputPaths.sublist (List.filter_sublist.filterMap _)
  · rcases hcases outcome houtcome with ⟨declared, code, hwrites⟩ | ⟨hnot, -⟩
    · exact ⟨_, code, hwrites.outputPath, hwrites.code, hfits.read_saved (h.ready hsuffix) hdry
        h.nodup_outputPaths houtcome hwrites.outputPath hwrites.code⟩
    · exact absurd hstatus hnot
  · rcases hfits.get?_saved_cases l with hl | ⟨outcome, houtcome, path, hpath, hl⟩
    · rw [hl]
      exact (conversion.madeToward_prepare store l).imp_right .inr
    · rcases hcases outcome houtcome with ⟨declared, code, hwrites⟩ | ⟨-, hnone⟩
      · exact .inr (.inl ⟨outcome, houtcome, hwrites.status, path, hpath, hl⟩)
      · rw [hpath] at hnone
        cases hnone

end StructSchema.Conversion
