import StructSchema.Proofs.OutputNames

/-!
# What a conversion reports

A conversion has something to report on for every file: that it cannot be read, that nothing is
declared in it, or its declarations, one by one. `Conversion.account` gives the outcomes of these
items in order, without a store: all that an outcome takes from elsewhere is which outcomes came
before it and what stands in the way of a file name. `Conversion.ending_settle` says how a
declaration can end, and `Conversion.nodup_outputPaths` that no output path is given twice.
-/

namespace StructSchema

/-- The output paths of outcomes, in order. -/
def Outcome.outputPaths (outcomes : List Outcome) : List Path := outcomes.filterMap (·.outputPath)

/-- The wording of an artifact that cannot be written. -/
def Conversion.unwritten (path : Path) (fault : FileStore.Fault) : String :=
  s!"Failed to write {path}: {fault.message}"

namespace Conversion

/-- What there is to report on. -/
inductive Item where
  | unreadable (source : Path) (message : String)
  | bare (source : Path)
  | declared (source : Path) (block : StructBlock)

variable {conversion : Conversion} {refused : String → Option FileStore.Cause}
  {earlier before : List Outcome} {outcome : Outcome} {items : List Item} {item : Item}
  {source : Path} {block : StructBlock}

/-- What there is to report on a file, by what comes of reading it. -/
def itemsOf (conversion : Conversion) (source : Path) : Except Fault String → List Item
  | .error (.source fault) => [.unreadable source fault.message]
  | .error fault => [.unreadable source (unforeseen fault)]
  | .ok text =>
    match StructBlock.select text conversion.everyStruct with
    | [] => [.bare source]
    | blocks => blocks.map (.declared source)

/-- The path of the artifact of a declaration. -/
def artifactPath (conversion : Conversion) (structName : String) : Path :=
  conversion.output.child (conversion.generator.artifactName structName)

/-- The outcome of an item behind earlier outcomes; `refused` tells what stands in the way of a file
name. An output path is taken when an earlier outcome has it. -/
def settle (conversion : Conversion) (refused : String → Option FileStore.Cause)
    (earlier : List Outcome) : Item → Outcome
  | .unreadable source message => { source, status := .failed, message }
  | .bare source => { source, status := .skipped, message := "no struct definition found" }
  | .declared source block =>
    let name := conversion.generator.artifactName block.name
    let path := conversion.artifactPath block.name
    match conversion.generator.generate block.name block.body with
    | .error failure =>
      { source, status := .failed, structName := block.name, message := failure.message }
    | .ok made =>
      match earlier.find? (·.outputPath = some path), refused name with
      | some owner, _ =>
        { source, status := .failed, structName := block.name,
          message := collision name block.name owner.source, warnings := made.warnings }
      | none, some cause =>
        { source, status := .failed, structName := block.name,
          message := unwritten path (.refused cause path), warnings := made.warnings }
      | none, none =>
        { source, status := .success, structName := block.name, outputPath := path,
          warnings := made.warnings, code := made.code }

/-- The outcomes of items behind earlier outcomes. -/
def account (conversion : Conversion) (refused : String → Option FileStore.Cause)
    (earlier : List Outcome) : List Item → List Outcome
  | [] => []
  | item :: items =>
    let outcome := conversion.settle refused earlier item
    outcome :: account conversion refused (earlier ++ [outcome]) items

/-! ## The ends of a declaration -/

/-- How the outcome of a declaration can come about. -/
inductive Ending (conversion : Conversion) (refused : String → Option FileStore.Cause)
    (earlier : List Outcome) (source : Path) (block : StructBlock) : Outcome → Prop where
  | failed {failure : GenerationFailure}
    (hgenerate : conversion.generator.generate block.name block.body = .error failure) :
    Ending conversion refused earlier source block
      { source, status := .failed, structName := block.name, message := failure.message }
  | collided {made : Artifact} {owner : Outcome}
    (hgenerate : conversion.generator.generate block.name block.body = .ok made)
    (howner : owner ∈ earlier)
    (htaken : owner.outputPath = some (conversion.artifactPath block.name)) :
    Ending conversion refused earlier source block
      { source, status := .failed, structName := block.name,
        message := collision (conversion.generator.artifactName block.name) block.name owner.source,
        warnings := made.warnings }
  | unwritten {made : Artifact} {cause : FileStore.Cause}
    (hgenerate : conversion.generator.generate block.name block.body = .ok made)
    (hfree : ∀ owner ∈ earlier, owner.outputPath ≠ some (conversion.artifactPath block.name))
    (hrefused : refused (conversion.generator.artifactName block.name) = some cause) :
    Ending conversion refused earlier source block
      { source, status := .failed, structName := block.name,
        message := Conversion.unwritten (conversion.artifactPath block.name)
          (.refused cause (conversion.artifactPath block.name)),
        warnings := made.warnings }
  | written {made : Artifact}
    (hgenerate : conversion.generator.generate block.name block.body = .ok made)
    (hfree : ∀ owner ∈ earlier, owner.outputPath ≠ some (conversion.artifactPath block.name))
    (hrefused : refused (conversion.generator.artifactName block.name) = none) :
    Ending conversion refused earlier source block
      { source, status := .success, structName := block.name,
        outputPath := conversion.artifactPath block.name, warnings := made.warnings,
        code := made.code }

/-- Every declaration ends in one of these ways. -/
theorem ending_settle (conversion : Conversion) (refused : String → Option FileStore.Cause)
    (earlier : List Outcome) (source : Path) (block : StructBlock) :
    Ending conversion refused earlier source block
      (conversion.settle refused earlier (.declared source block)) := by
  unfold settle
  dsimp only
  cases hgenerate : conversion.generator.generate block.name block.body with
  | error failure => exact .failed hgenerate
  | ok made =>
    cases hfind : earlier.find? (·.outputPath = some (conversion.artifactPath block.name)) with
    | some owner =>
      have htaken := List.find?_some hfind
      exact .collided hgenerate (List.mem_of_find?_eq_some hfind) (of_decide_eq_true htaken)
    | none =>
      have hfree : ∀ owner ∈ earlier,
          owner.outputPath ≠ some (conversion.artifactPath block.name) := by
        intro owner howner
        simpa using List.find?_eq_none.1 hfind owner howner
      cases hrefused : refused (conversion.generator.artifactName block.name) with
      | some cause => exact .unwritten hgenerate hfree hrefused
      | none => exact .written hgenerate hfree hrefused

/-! ## Item by item -/

theorem account_append (conversion : Conversion) (refused : String → Option FileStore.Cause)
    (earlier : List Outcome) (items more : List Item) :
    conversion.account refused earlier (items ++ more) =
      conversion.account refused earlier items ++
        conversion.account refused (earlier ++ conversion.account refused earlier items) more := by
  induction items generalizing earlier with
  | nil => simp [account]
  | cons item items ih => simp [account, ih]

/-- Every outcome is that of an item. -/
theorem exists_of_mem_account (h : outcome ∈ conversion.account refused earlier items) :
    ∃ item ∈ items, ∃ before, outcome = conversion.settle refused before item := by
  induction items generalizing earlier with
  | nil => cases h
  | cons item items ih =>
    rcases List.mem_cons.1 h with rfl | h
    · exact ⟨item, List.mem_cons_self, earlier, rfl⟩
    · obtain ⟨found, hfound, hbefore⟩ := ih h
      exact ⟨found, List.mem_cons_of_mem item hfound, hbefore⟩

/-! ## Output paths -/

/-- An outcome that has an output path, and one that succeeded. -/
structure Writes (conversion : Conversion) (outcome : Outcome) (declared code : String) :
    Prop where
  status : outcome.status = .success
  structName : outcome.structName = some declared
  outputPath : outcome.outputPath = some (conversion.artifactPath declared)
  code : outcome.code = some code

/-- An outcome has an output path and code exactly when it is a success. -/
theorem settle_cases (conversion : Conversion) (refused : String → Option FileStore.Cause)
    (earlier : List Outcome) (item : Item) :
    (∃ structName code,
        conversion.Writes (conversion.settle refused earlier item) structName code ∧
        (∀ owner ∈ earlier, owner.outputPath ≠ some (conversion.artifactPath structName)) ∧
        refused (conversion.generator.artifactName structName) = none) ∨
      (conversion.settle refused earlier item).status ≠ .success ∧
        (conversion.settle refused earlier item).outputPath = none ∧
        (conversion.settle refused earlier item).code = none := by
  cases item with
  | unreadable source message => exact .inr ⟨nofun, rfl, rfl⟩
  | bare source => exact .inr ⟨nofun, rfl, rfl⟩
  | declared source block =>
    have hend := conversion.ending_settle refused earlier source block
    generalize conversion.settle refused earlier (.declared source block) = outcome at hend ⊢
    cases hend with
    | failed _ => exact .inr ⟨nofun, rfl, rfl⟩
    | collided _ _ _ => exact .inr ⟨nofun, rfl, rfl⟩
    | unwritten _ _ _ => exact .inr ⟨nofun, rfl, rfl⟩
    | @written made _ hfree hrefused =>
      exact .inl ⟨block.name, made.code, ⟨rfl, rfl, rfl, rfl⟩, hfree, hrefused⟩

/-- No output path is given twice. -/
theorem nodup_outputPaths (h : (Outcome.outputPaths earlier).Nodup) (items : List Item) :
    (Outcome.outputPaths (earlier ++ conversion.account refused earlier items)).Nodup := by
  induction items generalizing earlier with
  | nil => simpa [account] using h
  | cons item items ih =>
    have hnext : (Outcome.outputPaths
        (earlier ++ [conversion.settle refused earlier item])).Nodup := by
      unfold Outcome.outputPaths
      rw [List.filterMap_append, List.nodup_append]
      rcases conversion.settle_cases refused earlier item with
        ⟨structName, code, hwrites, hfree, -⟩ | ⟨-, hpath, -⟩
      · rw [List.filterMap_cons_some hwrites.outputPath]
        refine ⟨h, List.nodup_singleton _, fun a ha b hb he => ?_⟩
        obtain ⟨owner, howner, hown⟩ := List.mem_filterMap.1 ha
        rw [List.filterMap_nil, List.mem_singleton] at hb
        rw [he, hb] at hown
        exact hfree owner howner hown
      · rw [List.filterMap_cons_none hpath]
        exact ⟨h, List.nodup_nil, fun a _ b hb => by cases hb⟩
    have hlater := ih hnext
    rwa [List.append_assoc] at hlater

end Conversion

end StructSchema
