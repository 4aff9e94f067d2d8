import StructSchema.Proofs.SavedArtifacts

/-!
# A run gives its account

A conversion carries a store, the names that are claimed and the outcomes along. The outcomes alone
determine the other two: the store is the one at the start with the artifacts of the outcomes,
`Conversion.saved`, and a name is claimed by the outcome that has its output path. This is the
invariant `Conversion.Accounted`; every declaration and every file adds the outcomes of its account
and keeps it. So a run reports the account of what it read, `Conversion.run_eq_ok_iff`, and where
the output directory is not the input directory it read what was there at the start,
`Conversion.itemsFrom_eq`.
-/

namespace StructSchema.Conversion

variable {conversion : Conversion} {store base : FileStore} {progress next last : Progress}
  {outcomes added more : List Outcome} {outcome : Outcome} {source : Path} {block : StructBlock}
  {blocks : List StructBlock} {files : List Path}

/-! ## What is carried along -/

/-- A store in which a conversion has its output directory, if it is to write. -/
structure Ready (conversion : Conversion) (base : FileStore) : Prop where
  suffix : conversion.generator.HasPlainSuffix
  isDirectory : conversion.dryRun = false → base.isDirectory conversion.output = .ok true

/-- The store and the claimed names of a conversion in progress are those of its outcomes. -/
structure Accounted (conversion : Conversion) (base : FileStore) (progress : Progress) : Prop where
  store_eq : progress.store = conversion.saved base progress.outcomes
  claimed : ∀ name, progress.claimed.get? name =
    (progress.outcomes.find? (·.outputPath = some (conversion.output.child name))).map (·.source)
  fits : conversion.Fits base progress.outcomes

/-- A conversion that went on from earlier outcomes by some. -/
structure Adds (conversion : Conversion) (base : FileStore) (earlier : List Outcome)
    (next : Progress) (added : List Outcome) : Prop where
  outcomes : next.outcomes = earlier ++ added
  accounted : conversion.Accounted base next

theorem Adds.nil (h : conversion.Accounted base progress) :
    conversion.Adds base progress.outcomes progress [] :=
  ⟨(List.append_nil _).symm, h⟩

theorem Adds.behind {earlier : List Outcome}
    (h : conversion.Adds base (earlier ++ added) last more) :
    conversion.Adds base earlier last (added ++ more) :=
  ⟨by rw [h.outcomes, List.append_assoc], h.accounted⟩

/-- Records change nothing that is accounted for. -/
theorem Accounted.log (h : conversion.Accounted base progress) (records : List Journal.Record) :
    conversion.Accounted base (progress.log records) :=
  ⟨h.store_eq, h.claimed, h.fits⟩

/-- An outcome without an artifact. -/
theorem Accounted.conclude (h : conversion.Accounted base progress)
    (hpath : outcome.outputPath = none) :
    conversion.Adds base progress.outcomes (progress.conclude outcome) [outcome] := by
  refine ⟨rfl, ⟨?_, fun name => ?_, h.fits.append ?_⟩⟩
  · show progress.store = conversion.saved base (progress.outcomes ++ [outcome])
    rw [saved_concat, h.store_eq]
    unfold saved save
    split
    · rfl
    · simp only [hpath]
  · show progress.claimed.get? name = _
    rw [h.claimed name]
    unfold Progress.conclude
    simp [List.find?_append, hpath]
  · intro o ho path hp
    rw [List.mem_singleton.1 ho, hpath] at hp
    cases hp

/-! ## A declaration -/

/-- Writing an artifact into the output directory. -/
theorem write_eq {made : Artifact} (hready : conversion.Ready base)
    (h : conversion.Accounted base progress) (hblock : block.HasWordName)
    (hgenerate : conversion.generator.generate block.name block.body = .ok made) :
    conversion.write progress.store made =
      match conversion.refusal base (conversion.generator.artifactName block.name) with
      | some cause => .error (.refused cause (conversion.artifactPath block.name))
      | none => .ok (if conversion.dryRun then progress.store else
          progress.store.set (conversion.artifactPath block.name).location
            (.file (octetsOf made.code))) := by
  have hname := hready.suffix.isFileName hblock
  unfold write
  split
  · rename_i hdry
    have hnone : conversion.refusal base (conversion.generator.artifactName block.name) = none := by
      unfold refusal
      rw [if_pos hdry]
    rw [hnone]
  · rename_i hdry
    have hdry : conversion.dryRun = false := by simpa using hdry
    have hdir : progress.store.isDirectory conversion.output = .ok true := by
      rw [h.store_eq]
      exact FileStore.isDirectory_of_keeps h.fits.keepsDirectories (hready.isDirectory hdry)
    rw [outputPath_eq hready.suffix hblock hgenerate,
      FileStore.write_child hdir hname.ne_parent hname.null_not_mem, ← h.fits.refusal_saved,
      ← h.store_eq, refusal_of_write hdry]
    have hlocation : (conversion.artifactPath block.name).location =
        conversion.output.location.child (conversion.generator.artifactName block.name) :=
      Path.location_child _ hname.ne_parent
    cases progress.store.obstacle? conversion.output
        (conversion.generator.artifactName block.name) with
    | some cause => rfl
    | none => simp only [hlocation]

/-- A declaration whose artifact is written. -/
theorem Accounted.succeed {made : Artifact} (hready : conversion.Ready base)
    (h : conversion.Accounted base progress) (hblock : block.HasWordName)
    (hgenerate : conversion.generator.generate block.name block.body = .ok made)
    (hfree : conversion.refusal base (conversion.generator.artifactName block.name) = none)
    (hnew : progress.outcomes.find?
      (·.outputPath = some (conversion.artifactPath block.name)) = none)
    (hstore : store = if conversion.dryRun then progress.store else
      progress.store.set (conversion.artifactPath block.name).location
        (.file (octetsOf made.code))) :
    conversion.Adds base progress.outcomes (conversion.succeed { progress with store } source made)
      [{ source, status := .success, structName := block.name,
         outputPath := conversion.artifactPath block.name, warnings := made.warnings,
         code := made.code }] := by
  have hpath : conversion.outputPath made = conversion.artifactPath block.name :=
    outputPath_eq hready.suffix hblock hgenerate
  have hname := hready.suffix.isFileName hblock
  unfold Conversion.succeed
  rw [hpath, Generator.structName_of_generate hgenerate]
  refine ⟨rfl, ⟨?_, fun name => ?_, ?_⟩⟩
  · show store = conversion.saved base (progress.outcomes ++ [_])
    rw [saved_concat, hstore, h.store_eq]
    split
    · rename_i hdry
      unfold saved
      rw [if_pos hdry]
    · rfl
  · show (progress.claimed.insert made.outputFile source).get? name = _
    rw [Dictionary.get?_insert, Generator.outputFile_of_generate hgenerate, h.claimed name]
    show _ = ((progress.outcomes ++ [_]).find? _).map _
    rw [List.find?_append, List.find?_singleton]
    by_cases hn : name = conversion.generator.artifactName block.name
    · subst hn
      unfold artifactPath at hnew ⊢
      rw [hnew]
      simp
    · rw [if_neg hn]
      have hne : conversion.artifactPath block.name ≠ conversion.output.child name :=
        fun he => hn (Path.child_inj.1 he).symm
      simp [hne]
  · refine h.fits.append fun o ho path hp => ?_
    rw [List.mem_singleton.1 ho] at hp
    cases hp
    exact ⟨_, hname, rfl, hfree⟩

/-- A declaration adds its outcome. -/
theorem convertBlock_adds (hready : conversion.Ready base)
    (h : conversion.Accounted base progress) (hblock : block.HasWordName) (source : Path) :
    ∃ next, conversion.convertBlock source progress block = .ok next ∧
      conversion.Adds base progress.outcomes next
        [conversion.settle (conversion.refusal base) progress.outcomes
          (.declared source block)] := by
  cases hgenerate : conversion.generator.generate block.name block.body with
  | error failure =>
    unfold convertBlock settle
    simp only [hgenerate]
    exact ⟨_, rfl, (h.log _).conclude rfl⟩
  | ok made =>
    have hlog := h.log (made.warnings.map fun w => Journal.warning s!"{source}: {w}")
    -- The name is looked up among the claimed ones by the program, among the outcomes by the account.
    have hclaimed := hlog.claimed (conversion.generator.artifactName block.name)
    have hwrite := write_eq hready hlog hblock hgenerate
    unfold convertBlock settle
    simp only [hgenerate, Generator.outputFile_of_generate hgenerate]
    cases hfind : progress.outcomes.find?
        (·.outputPath = some (conversion.artifactPath block.name)) with
    | some owner =>
      have htaken : (progress.log _).claimed.get? _ = some owner.source :=
        hclaimed.trans (congrArg (Option.map _) hfind)
      simp only [htaken]
      exact ⟨_, rfl, (hlog.log _).conclude rfl⟩
    | none =>
      have hnew : (progress.log _).claimed.get? _ = none :=
        hclaimed.trans (congrArg (Option.map _) hfind)
      simp only [hnew]
      cases hrefused : conversion.refusal base (conversion.generator.artifactName block.name) with
      | some cause =>
        simp only [hrefused] at hwrite
        simp only [hwrite, outputPath_eq hready.suffix hblock hgenerate]
        exact ⟨_, rfl, (hlog.log _).conclude rfl⟩
      | none =>
        simp only [hrefused] at hwrite
        simp only [hwrite]
        exact ⟨_, rfl, hlog.succeed hready hblock hgenerate hrefused hfind rfl⟩

/-- The declarations of a file add their outcomes. -/
theorem foldlM_convertBlock_adds (hready : conversion.Ready base)
    (h : conversion.Accounted base progress) (hblocks : ∀ block ∈ blocks, block.HasWordName)
    (source : Path) : ∃ next, blocks.foldlM (conversion.convertBlock source) progress = .ok next ∧
      conversion.Adds base progress.outcomes next
        (conversion.account (conversion.refusal base) progress.outcomes
          (blocks.map (.declared source))) := by
  induction blocks generalizing progress with
  | nil => exact ⟨progress, rfl, .nil h⟩
  | cons block blocks ih =>
    rw [List.forall_mem_cons] at hblocks
    obtain ⟨next, hnext, hadds⟩ := convertBlock_adds hready h hblocks.1 source
    obtain ⟨last, hlast, hmore⟩ := ih hadds.accounted hblocks.2
    rw [hadds.outcomes] at hmore
    refine ⟨last, ?_, hmore.behind⟩
    rw [List.foldlM_cons, hnext]
    exact hlast

/-! ## A file -/

/-- A file adds the outcomes of what there is to report on it. -/
theorem convertFile_adds (hready : conversion.Ready base)
    (h : conversion.Accounted base progress) (source : Path) :
    conversion.Adds base progress.outcomes (conversion.convertFile progress source)
      (conversion.account (conversion.refusal base) progress.outcomes
        (conversion.itemsOf source (SourceFiles.load progress.store source))) := by
  have hlog := h.log [Journal.info s!"Parsing: {source}"]
  unfold convertFile itemsOf
  dsimp only
  have hstore : (progress.log [Journal.info s!"Parsing: {source}"]).store = progress.store := rfl
  rw [hstore]
  cases SourceFiles.load progress.store source with
  | error fault =>
    cases fault with
    | source fault => exact (hlog.log _).conclude rfl
    | _ => exact (hlog.log _).conclude rfl
  | ok text =>
    dsimp only
    cases hselect : StructBlock.select text conversion.everyStruct with
    | nil => exact hlog.conclude rfl
    | cons block blocks =>
      have hblocks : ∀ b ∈ block :: blocks, b.HasWordName := by
        rw [← hselect]
        exact fun b hb => StructBlock.hasWordName_of_mem_select hb
      obtain ⟨next, hnext, hadds⟩ := foldlM_convertBlock_adds hready hlog hblocks source
      dsimp only
      rw [hnext]
      exact hadds

/-- What there is to report on files behind earlier outcomes, each read when its turn comes. -/
def itemsFrom (conversion : Conversion) (base : FileStore) (earlier : List Outcome) :
    List Path → List Item
  | [] => []
  | source :: files =>
    let items := conversion.itemsOf source
      (SourceFiles.load (conversion.saved base earlier) source)
    items ++ itemsFrom conversion base
      (earlier ++ conversion.account (conversion.refusal base) earlier items) files

/-- Files add the outcomes of what there is to report on them. -/
theorem foldl_convertFile_adds (hready : conversion.Ready base)
    (h : conversion.Accounted base progress) (files : List Path) :
    conversion.Adds base progress.outcomes (files.foldl conversion.convertFile progress)
      (conversion.account (conversion.refusal base) progress.outcomes
        (conversion.itemsFrom base progress.outcomes files)) := by
  induction files generalizing progress with
  | nil => exact .nil h
  | cons source files ih =>
    have hadds := convertFile_adds hready h source
    have hmore := ih hadds.accounted
    rw [hadds.outcomes] at hmore
    rw [itemsFrom, account_append, ← h.store_eq]
    exact hmore.behind

/-! ## A run -/

/-- A prepared store has gained directories on the way to the output directory. -/
theorem madeToward_prepare (conversion : Conversion) (store : FileStore) :
    store.MadeToward (conversion.prepare store).store conversion.output := by
  unfold prepare
  split
  · exact .refl store _
  · obtain ⟨_, hmakes, -⟩ := SourceFiles.makes_prepare store conversion.output
    exact hmakes.made

theorem ready_prepare (hsuffix : conversion.generator.HasPlainSuffix)
    (hprepared : (conversion.prepare store).result = .ok ()) :
    conversion.Ready (conversion.prepare store).store := by
  refine ⟨hsuffix, fun hdry => ?_⟩
  unfold prepare at hprepared ⊢
  rw [if_neg (by simp [hdry])] at hprepared ⊢
  obtain ⟨result, hmakes, hresult⟩ := SourceFiles.makes_prepare store conversion.output
  exact hmakes.isDirectory (hresult hprepared)

/-- What a run that comes to its end lists, and what it reports. -/
structure Completes (conversion : Conversion) (store : FileStore) (files : List Path)
    (report : Report) : Prop where
  listed : SourceFiles.list store conversion.input "*" = .ok files
  prepared : (conversion.prepare store).result = .ok ()
  outcomes : report.outcomes =
    conversion.account (conversion.refusal (conversion.prepare store).store) []
      (conversion.itemsFrom (conversion.prepare store).store [] files)

variable {report : Report}

theorem accounted_start (conversion : Conversion) (base : FileStore)
    (records : List Journal.Record) : conversion.Accounted base ⟨base, records, [], []⟩ :=
  ⟨(saved_nil conversion base).symm, fun _ => rfl, fun _ h => by cases h⟩

/-- The end of the fold over the files of a run. -/
theorem adds_of_start (hready : conversion.Ready base) (records : List Journal.Record)
    (files : List Path) :
    conversion.Adds base [] (files.foldl conversion.convertFile ⟨base, records, [], []⟩)
      (conversion.account (conversion.refusal base) [] (conversion.itemsFrom base [] files)) :=
  foldl_convertFile_adds hready (conversion.accounted_start base records) files

/-- A run that comes to its end reports the account of what it read. -/
theorem run_eq_ok_iff (hsuffix : conversion.generator.HasPlainSuffix) :
    (conversion.run store).result = .ok report ↔
      ∃ files, conversion.Completes store files report := by
  unfold run
  constructor
  · intro h
    dsimp only at h
    split at h
    · cases h
    · rename_i files hfiles
      split at h
      · cases h
      · rename_i hprepared
        cases h
        exact ⟨files, hfiles, hprepared,
          (adds_of_start (ready_prepare hsuffix hprepared) _ files).outcomes⟩
  · rintro ⟨files, hfiles, hprepared, houtcomes⟩
    simp only [hfiles, hprepared]
    rw [(adds_of_start (ready_prepare hsuffix hprepared) _ files).outcomes, List.nil_append,
      ← houtcomes]

namespace Completes

theorem ready (h : conversion.Completes store files report)
    (hsuffix : conversion.generator.HasPlainSuffix) :
    conversion.Ready (conversion.prepare store).store :=
  ready_prepare hsuffix h.prepared

theorem fits (h : conversion.Completes store files report)
    (hsuffix : conversion.generator.HasPlainSuffix) :
    conversion.Fits (conversion.prepare store).store report.outcomes := by
  have hadds := adds_of_start (h.ready hsuffix) [] files
  have hfits := hadds.accounted.fits
  rwa [hadds.outcomes, List.nil_append, ← h.outcomes] at hfits

/-- The store after a run. -/
theorem store_run (h : conversion.Completes store files report)
    (hsuffix : conversion.generator.HasPlainSuffix) :
    (conversion.run store).store =
      conversion.saved (conversion.prepare store).store report.outcomes := by
  have hadds := adds_of_start (h.ready hsuffix)
    ([Journal.info s!"Reading from input dir: {conversion.input}"] ++
      (conversion.prepare store).records) files
  unfold run
  simp only [h.listed, h.prepared]
  rw [hadds.accounted.store_eq, hadds.outcomes, List.nil_append, ← h.outcomes]

theorem nodup_outputPaths (h : conversion.Completes store files report) :
    (Outcome.outputPaths report.outcomes).Nodup := by
  have hstart : (Outcome.outputPaths []).Nodup := List.nodup_nil
  rw [h.outcomes]
  exact Conversion.nodup_outputPaths hstart _

end Completes

/-! ## What is read -/

/-- A store that has kept the directories of another one and the files of the input directory. -/
structure KeepsInput (conversion : Conversion) (store base : FileStore) : Prop where
  keeps : store.KeepsDirectories base
  file : ∀ name octets,
    store.get? (conversion.input.location.child name) = some (.file octets) →
      base.get? (conversion.input.location.child name) = some (.file octets)

theorem keepsInput_prepare (conversion : Conversion) (store : FileStore) :
    conversion.KeepsInput store (conversion.prepare store).store := by
  have hmade := conversion.madeToward_prepare store
  refine ⟨hmade.keeps, fun name octets hget => ?_⟩
  rcases hmade (conversion.input.location.child name) with he | ⟨hnone, -⟩
  · rw [he, hget]
  · rw [hget] at hnone
    cases hnone

/-- Artifacts in another directory leave the input directory as it is. -/
theorem KeepsInput.saved (h : conversion.KeepsInput store base)
    (hne : conversion.output.location ≠ conversion.input.location)
    (hfits : conversion.Fits base outcomes) :
    conversion.KeepsInput store (conversion.saved base outcomes) := by
  refine ⟨fun l hl => hfits.keepsDirectories l (h.keeps l hl), fun name octets hget => ?_⟩
  rw [hfits.get?_saved_of_ne hne, h.file name octets hget]

/-- The files of the input directory are read as they were when they were listed. -/
theorem KeepsInput.load_eq (h : conversion.KeepsInput store base) (htree : store.IsTree)
    (hlisted : SourceFiles.list store conversion.input "*" = .ok files) (hsource : source ∈ files) :
    SourceFiles.load base source = SourceFiles.load store source := by
  obtain ⟨name, octets, rfl, hget⟩ := SourceFiles.exists_of_mem_list htree hlisted hsource
  have hfind := SourceFiles.find_of_list htree hlisted hget
  have hname := (htree.isName_of_get? hget).ne_parent
  have hgot : base.get? (conversion.input.child name).location = some (.file octets) := by
    rw [Path.location_child _ hname, h.file name octets hget]
  have hlater := FileStore.find_of_keeps h.keeps hgot hfind
  unfold SourceFiles.load
  rw [FileStore.read_of_find hfind, FileStore.read_of_find hlater]

/-- What there is to report on files that are read as they are in a store. -/
theorem itemsFrom_eq_flatMap (hready : conversion.Ready base)
    (h : conversion.Accounted base progress)
    (hload : ∀ source ∈ files, ∀ outcomes, conversion.Fits base outcomes →
      SourceFiles.load (conversion.saved base outcomes) source = SourceFiles.load store source) :
    conversion.itemsFrom base progress.outcomes files =
      files.flatMap fun source => conversion.itemsOf source (SourceFiles.load store source) := by
  -- What is read depends on the store, so the invariant is carried along with the files.
  induction files generalizing progress with
  | nil => rfl
  | cons source files ih =>
    rw [List.forall_mem_cons] at hload
    have hadds := convertFile_adds hready h source
    have hlater := ih hadds.accounted hload.2
    rw [hadds.outcomes, h.store_eq, hload.1 _ h.fits] at hlater
    rw [itemsFrom, List.flatMap_cons, hload.1 _ h.fits, hlater]

/-- What there is to report on the files of the input directory, where the output directory is
another one. -/
theorem itemsFrom_eq (htree : store.IsTree) (hready : conversion.Ready base)
    (hkept : conversion.KeepsInput store base)
    (hne : conversion.output.location ≠ conversion.input.location)
    (hlisted : SourceFiles.list store conversion.input "*" = .ok files) :
    conversion.itemsFrom base [] files =
      files.flatMap fun source => conversion.itemsOf source (SourceFiles.load store source) := by
  refine itemsFrom_eq_flatMap hready (conversion.accounted_start base []) ?_
  intro source hsource outcomes hfits
  exact (hkept.saved hne hfits).load_eq htree hlisted hsource

end StructSchema.Conversion
