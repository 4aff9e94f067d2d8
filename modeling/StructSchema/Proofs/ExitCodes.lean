import StructSchema.Proofs.AccountedRun
import StructSchema.Proofs.SettingsFaults

/-!
# Exit codes

A run of the command line lists the targets, or halts before it writes anything, or runs the
conversion that its options come to: `CommandLine.perform_cases`. Its code is 0 exactly when the
targets are listed or a conversion ends without a failure. Whatever halts a run is found before the
first directory is made, and a dry run never writes: `CommandLine.run_exits`.
-/

namespace StructSchema

namespace FileStore

/-- The stores have the same files; directories may differ. -/
def HasFilesOf (later store : FileStore) : Prop :=
  ∀ l octets, later.get? l = some (.file octets) ↔ store.get? l = some (.file octets)

theorem MadeToward.hasFilesOf {store later : FileStore} {path : Path}
    (h : store.MadeToward later path) : later.HasFilesOf store := by
  intro l octets
  rcases h l with he | ⟨hnone, hmade, -⟩
  · rw [he]
  · rw [hnone, hmade]
    exact iff_of_false nofun nofun

end FileStore

/-! ## Dry runs -/

namespace Conversion

variable {conversion : Conversion} {store : FileStore}

/-- The store behind steps that may have been broken off. -/
def storeAfter : Except (Progress × Fault) Progress → FileStore
  | .ok progress => progress.store
  | .error (progress, _) => progress.store

theorem storeAfter_convertBlock (hdry : conversion.dryRun = true) (source : Path)
    (progress : Progress) (block : StructBlock) :
    storeAfter (conversion.convertBlock source progress block) = progress.store := by
  have hwrite : ∀ store made, conversion.write store made = .ok store :=
    fun _ _ => if_pos hdry
  unfold convertBlock
  cases conversion.generator.generate block.name block.body with
  | error failure => rfl
  | ok made =>
    dsimp only
    rw [hwrite]
    split
    · rfl
    · rfl

theorem storeAfter_foldlM_convertBlock (hdry : conversion.dryRun = true) (source : Path)
    (blocks : List StructBlock) (progress : Progress) :
    storeAfter (blocks.foldlM (conversion.convertBlock source) progress) = progress.store := by
  induction blocks generalizing progress with
  | nil => rfl
  | cons block blocks ih =>
    have hblock := storeAfter_convertBlock hdry source progress block
    rw [List.foldlM_cons]
    cases hstep : conversion.convertBlock source progress block with
    | error stopped =>
      rw [hstep] at hblock
      exact hblock
    | ok later =>
      rw [hstep] at hblock
      exact (ih later).trans hblock

theorem store_convertFile (hdry : conversion.dryRun = true) (progress : Progress) (source : Path) :
    (conversion.convertFile progress source).store = progress.store := by
  unfold convertFile
  dsimp only
  split
  · rfl
  · rfl
  · rename_i text _
    split
    · rfl
    · have hblocks := storeAfter_foldlM_convertBlock hdry source
        (StructBlock.select text conversion.everyStruct)
        (progress.log [Journal.info s!"Parsing: {source}"])
      split
      · rename_i later hlater
        rw [hlater] at hblocks
        exact hblocks
      · rename_i later fault hlater
        rw [hlater] at hblocks
        exact hblocks

theorem store_foldl_convertFile (hdry : conversion.dryRun = true) (files : List Path)
    (progress : Progress) :
    (files.foldl conversion.convertFile progress).store = progress.store := by
  induction files generalizing progress with
  | nil => rfl
  | cons file files ih => rw [List.foldl_cons, ih, store_convertFile hdry]

/-- A dry run changes nothing. -/
theorem store_run_of_dryRun (hdry : conversion.dryRun = true) (store : FileStore) :
    (conversion.run store).store = store := by
  have hprepare : conversion.prepare store = ⟨store, [], .ok ()⟩ := if_pos hdry
  unfold run
  dsimp only
  rw [hprepare]
  split
  · rfl
  · exact store_foldl_convertFile hdry _ _

/-- A conversion fails where its input cannot be listed or its output directory not be prepared. -/
theorem run_error {fault : Fault} (h : (conversion.run store).result = .error fault) :
    SourceFiles.list store conversion.input "*" = .error fault ∨
      (conversion.prepare store).result = .error fault := by
  unfold run at h
  dsimp only at h
  split at h
  · rename_i hlist
    cases h
    exact .inl hlist
  · split at h
    · rename_i hprepare
      cases h
      exact .inr hprepare
    · cases h

/-- Where the input cannot be listed, nothing changes. -/
theorem run_of_unlisted {fault : Fault}
    (h : SourceFiles.list store conversion.input "*" = .error fault) :
    (conversion.run store).store = store ∧ (conversion.run store).result = .error fault := by
  unfold run
  rw [h]
  exact ⟨rfl, rfl⟩

theorem result_of_unprepared {files : List Path} {fault : Fault}
    (hlist : SourceFiles.list store conversion.input "*" = .ok files)
    (h : (conversion.prepare store).result = .error fault) :
    (conversion.run store).result = .error fault := by
  unfold run
  dsimp only
  rw [hlist, h]

/-- Where the output directory cannot be prepared, the conversion fails, and no file is made or
changed. -/
theorem run_of_unprepared {fault : Fault} (h : (conversion.prepare store).result = .error fault) :
    (conversion.run store).store.HasFilesOf store ∧
      ∀ report, (conversion.run store).result ≠ .ok report := by
  unfold run
  dsimp only
  rw [h]
  split
  · exact ⟨(FileStore.MadeToward.refl store conversion.output).hasFilesOf, nofun⟩
  · exact ⟨(conversion.madeToward_prepare store).hasFilesOf, nofun⟩

end Conversion

namespace CommandLine

/-! ## The course of a run -/

variable {store : FileStore} {options : Options} {input target : String} {settings : Settings}
  {generator : Generator} {conversion : Conversion} {fault : Fault}

/-- The conversion of an input directory under options and settings. -/
def conversionOf (options : Options) (input : String) (settings : Settings)
    (generator : Generator) : Conversion where
  generator := generator
  input := Path.ofString input
  output := Path.ofString ((nonEmpty options.output).getD settings.outputDir.display)
  everyStruct := settings.allStructs.isTruthy
  dryRun := options.dryRun

/-- The conversion that options come to. -/
inductive Plans (store : FileStore) (options : Options) : Conversion → Prop
  | plan {input target : String} {settings : Settings} {generator : Generator}
      (asks : options.AsksFor input target)
      (supported : Registry.standard.isSupported target = true)
      (hsettings : CommandLine.settings store options target = .ok settings)
      (hgenerator : Registry.standard.create store target (.own settings) = .ok generator) :
      Plans store options (conversionOf options input settings generator)

/-- What halts a run: no input directory is given, the target is not supported, the settings or the
options of the target are refused, or the input directory cannot be listed. -/
inductive Halts (store : FileStore) (options : Options) : Prop
  | inputMissing (listsNothing : options.listTargets = false)
      (h : nonEmpty options.input = none)
  | unsupported {input target : String} (asks : options.AsksFor input target)
      (h : Registry.standard.isSupported target = false)
  | settings {input target : String} {fault : Fault} (asks : options.AsksFor input target)
      (supported : Registry.standard.isSupported target = true)
      (h : CommandLine.settings store options target = .error fault)
  | generator {input target : String} {settings : Settings} {fault : Fault}
      (asks : options.AsksFor input target)
      (supported : Registry.standard.isSupported target = true)
      (hsettings : CommandLine.settings store options target = .ok settings)
      (h : Registry.standard.create store target (.own settings) = .error fault)
  | unlisted {conversion : Conversion} {fault : Fault} (plans : Plans store options conversion)
      (h : SourceFiles.list store conversion.input "*" = .error fault)

theorem Plans.dryRun (h : Plans store options conversion) :
    conversion.dryRun = options.dryRun := by
  cases h
  rfl

theorem endByFault_exit {records : List Journal.Record} {printed : List Block} {code : Nat}
    (h : (endByFault store records printed fault).ending = .exit code) : code = 1 := by
  unfold endByFault at h
  split at h
  · cases h
    rfl
  · cases h

@[simp] theorem store_endByFault (records : List Journal.Record) (printed : List Block) :
    (endByFault store records printed fault).store = store := by
  unfold endByFault
  split
  · rfl
  · rfl

/-- Settings of the declared types are taken as they are. -/
theorem validate_of_isTyped (h : settings.IsTyped) : settings.validate = .ok settings.doubts := by
  have hcheck : Settings.checkTypes settings.toEntries = .ok () := by
    refine (Settings.checkTypes_ok_iff _).2 fun name expected hm value hv => ?_
    obtain ⟨found, hfound, hadmits⟩ := h name expected hm
    rw [hv] at hfound
    rwa [Option.some.inj hfound]
  unfold Settings.validate
  rw [hcheck]
  rfl

theorem isTyped_of_settings (h : CommandLine.settings store options target = .ok settings) :
    settings.IsTyped := by
  unfold CommandLine.settings at h
  obtain ⟨primary, -, h⟩ := Outcome.bind_eq_ok_iff.1 h
  exact Settings.isTyped_of_load h

theorem convert_of_settings (supported : Registry.standard.isSupported target = true)
    (h : CommandLine.settings store options target = .ok settings) :
    convert store options input target = convertUnder store options input target settings := by
  unfold convert
  rw [if_pos supported, h]

/-- A run comes to the conversion of its options. -/
theorem Plans.perform (h : Plans store options conversion) :
    ∃ printed, perform store options =
      match (conversion.run store).result with
      | .error fault =>
        endByFault (conversion.run store).store (conversion.run store).records printed fault
      | .ok report =>
        ⟨(conversion.run store).store, (conversion.run store).records,
          printed ++ reportBlocks report options.showCode,
          .exit (if report.isOk then 0 else 1)⟩ := by
  cases h with
  | @plan input target settings generator asks supported hsettings hgenerator =>
    refine ⟨settings.doubts.map doubtLine, ?_⟩
    rw [asks.perform, convert_of_settings supported hsettings]
    unfold convertUnder
    rw [validate_of_isTyped (isTyped_of_settings hsettings)]
    dsimp only
    rw [hgenerator]
    rfl

theorem Plans.store_perform (h : Plans store options conversion) :
    (CommandLine.perform store options).store = (conversion.run store).store := by
  obtain ⟨printed, hperform⟩ := h.perform
  rw [hperform]
  split
  · exact store_endByFault _ _
  · rfl

/-- The targets can be listed. -/
theorem exists_listTargets (store : FileStore) :
    ∃ printed, listTargets store = ⟨store, [], printed, .exit 0⟩ := by
  obtain ⟨targets, htargets⟩ :
      ∃ targets, Registry.standard.describeAll = .ok targets := by
    have hnames : Registry.standard.names = [Nest.language] := List.mergeSort_singleton _
    unfold Registry.describeAll
    rw [hnames]
    exact ⟨_, rfl⟩
  refine ⟨targetBlocks targets, ?_⟩
  unfold listTargets
  rw [htargets]

/-- What halts a run leaves the store as it is, and if the run ends with a code it is 1. -/
theorem Halts.ends (h : Halts store options) :
    (perform store options).store = store ∧
      ∀ code, (perform store options).ending = .exit code → code = 1 := by
  cases h with
  | inputMissing listsNothing h =>
    unfold perform
    rw [listsNothing, h]
    refine ⟨rfl, fun code hcode => ?_⟩
    cases hcode
    rfl
  | unsupported asks h =>
    rw [asks.perform]
    unfold convert
    rw [h]
    refine ⟨rfl, fun code hcode => ?_⟩
    cases hcode
    rfl
  | settings asks supported h =>
    rw [asks.perform]
    unfold convert
    rw [if_pos supported, h]
    exact ⟨store_endByFault _ _, fun code => endByFault_exit⟩
  | generator asks supported hsettings h =>
    rw [asks.perform, convert_of_settings supported hsettings]
    unfold convertUnder
    rw [validate_of_isTyped (isTyped_of_settings hsettings)]
    dsimp only
    rw [h]
    exact ⟨store_endByFault _ _, fun code => endByFault_exit⟩
  | unlisted plans h =>
    obtain ⟨hstore, hresult⟩ := Conversion.run_of_unlisted h
    rw [plans.store_perform, hstore]
    obtain ⟨printed, hperform⟩ := plans.perform
    rw [hperform, hresult]
    exact ⟨rfl, fun code => endByFault_exit⟩

/-- A run lists the targets, halts, comes to a conversion, or has no target to convert for. -/
theorem perform_cases (store : FileStore) (options : Options) :
    (∃ printed, perform store options = ⟨store, [], printed, .exit 0⟩ ∧
        options.listTargets = true) ∨
      Halts store options ∨ (∃ conversion, Plans store options conversion) ∨
      perform store options = ⟨store, [], [], .fault targetCleared⟩ := by
  cases hlists : options.listTargets with
  | true =>
    obtain ⟨printed, hlist⟩ := exists_listTargets store
    refine .inl ⟨printed, ?_, rfl⟩
    unfold perform
    rw [if_pos hlists, hlist]
  | false =>
    refine .inr ?_
    cases hinput : nonEmpty options.input with
    | none => exact .inl (.inputMissing hlists hinput)
    | some input =>
      cases htarget : options.target with
      | none =>
        refine .inr (.inr ?_)
        unfold perform
        rw [hlists, hinput, htarget]
        rfl
      | some target =>
        have asks : options.AsksFor input target := ⟨hlists, hinput, htarget⟩
        cases hsupported : Registry.standard.isSupported target with
        | false => exact .inl (.unsupported asks hsupported)
        | true =>
          cases hsettings : CommandLine.settings store options target with
          | error fault => exact .inl (.settings asks hsupported hsettings)
          | ok settings =>
            cases hcreate : Registry.standard.create store target (.own settings) with
            | error fault => exact .inl (.generator asks hsupported hsettings hcreate)
            | ok generator => exact .inr (.inl ⟨_, .plan asks hsupported hsettings hcreate⟩)

theorem isOk_iff {report : Report} :
    report.isOk = true ↔ ∀ outcome ∈ report.outcomes, outcome.status ≠ .failed := by
  simp [Report.isOk, Report.withStatus]

theorem Plans.listsNothing (h : Plans store options conversion) : options.listTargets = false := by
  cases h with
  | plan asks => exact asks.listsNothing

theorem Halts.listsNothing (h : Halts store options) : options.listTargets = false := by
  cases h with
  | inputMissing listsNothing => exact listsNothing
  | unsupported asks => exact asks.listsNothing
  | settings asks => exact asks.listsNothing
  | generator asks => exact asks.listsNothing
  | unlisted plans => exact plans.listsNothing

/-- A conversion that ends with a report ends the run with the code of the report. -/
theorem Plans.ending_of_ok {report : Report} (h : Plans store options conversion)
    (hrun : (conversion.run store).result = .ok report) :
    (CommandLine.perform store options).ending = .exit (if report.isOk then 0 else 1) := by
  obtain ⟨printed, hperform⟩ := h.perform
  rw [hperform, hrun]

/-- A conversion that fails ends the run with code 1, if with a code. -/
theorem Plans.exit_of_error {code : Nat} (h : Plans store options conversion)
    (hrun : (conversion.run store).result = .error fault)
    (hexit : (CommandLine.perform store options).ending = .exit code) : code = 1 := by
  obtain ⟨printed, hperform⟩ := h.perform
  rw [hperform, hrun] at hexit
  exact endByFault_exit hexit

/-! ## Codes -/

/-- What makes a run end with code 0. -/
def Succeeds (store : FileStore) (options : Options) : Prop :=
  options.listTargets = true ∨ ∃ conversion report, Plans store options conversion ∧
    (conversion.run store).result = .ok report ∧
    ∀ outcome ∈ report.outcomes, outcome.status ≠ .failed

/-- What makes a run end with code 1: it halts, or the output directory of its conversion cannot be
prepared, or the conversion has a failed outcome. -/
def Fails (store : FileStore) (options : Options) : Prop :=
  Halts store options ∨ ∃ conversion, Plans store options conversion ∧
    ((∃ fault, (conversion.prepare store).result = .error fault) ∨
      ∃ report, (conversion.run store).result = .ok report ∧
        ∃ outcome ∈ report.outcomes, outcome.status = .failed)

theorem Succeeds.ending (h : Succeeds store options) :
    (perform store options).ending = .exit 0 := by
  rcases h with hlists | ⟨conversion, report, plans, hrun, hnone⟩
  · obtain ⟨printed, hlist⟩ := exists_listTargets store
    unfold perform
    rw [if_pos hlists, hlist]
  · rw [plans.ending_of_ok hrun, if_pos (isOk_iff.2 hnone)]

theorem Fails.exit {code : Nat} (h : Fails store options)
    (hexit : (perform store options).ending = .exit code) : code = 1 := by
  rcases h with halts | ⟨conversion, plans, ⟨fault, hprepare⟩ | ⟨report, hrun, hfailed⟩⟩
  · exact halts.ends.2 code hexit
  · cases hrun : (conversion.run store).result with
    | error fault => exact plans.exit_of_error hrun hexit
    | ok report => exact absurd hrun ((Conversion.run_of_unprepared hprepare).2 report)
  · have hok : ¬ report.isOk = true := by
      rw [isOk_iff]
      obtain ⟨outcome, hmem, hstatus⟩ := hfailed
      exact fun hall => hall outcome hmem hstatus
    rw [plans.ending_of_ok hrun, if_neg hok] at hexit
    cases hexit
    rfl

/-- A run that ends with a code succeeds or fails. -/
theorem succeeds_or_fails {code : Nat} (hexit : (perform store options).ending = .exit code) :
    Succeeds store options ∨ Fails store options := by
  rcases perform_cases store options with
    ⟨_, -, hlists⟩ | halts | ⟨conversion, plans⟩ | hcleared
  · exact .inl (.inl hlists)
  · exact .inr (.inl halts)
  · cases hrun : (conversion.run store).result with
    | error fault =>
      rcases Conversion.run_error hrun with hlist | hprepare
      · exact .inr (.inl (.unlisted plans hlist))
      · exact .inr (.inr ⟨conversion, plans, .inl ⟨fault, hprepare⟩⟩)
    | ok report =>
      by_cases hall : ∀ outcome ∈ report.outcomes, outcome.status ≠ .failed
      · exact .inl (.inr ⟨conversion, report, plans, hrun, hall⟩)
      · push Not at hall
        exact .inr (.inr ⟨conversion, plans, .inr ⟨report, hrun, hall⟩⟩)
  · rw [hcleared] at hexit
    cases hexit

/-- A dry run changes nothing, whatever it comes to. -/
theorem store_perform_of_dryRun (hdry : options.dryRun = true) (store : FileStore) :
    (perform store options).store = store := by
  rcases perform_cases store options with
    ⟨_, hlist, -⟩ | halts | ⟨conversion, plans⟩ | hcleared
  · rw [hlist]
  · exact halts.ends.1
  · rw [plans.store_perform]
    exact Conversion.store_run_of_dryRun (plans.dryRun.trans hdry) store
  · rw [hcleared]

theorem run_of_options {arguments : List String} (h : Options.ofArguments arguments = .ok options) :
    run store arguments = perform store options := by
  unfold run
  rw [h]

/-- **Exit codes.** If a run ends with a code, it is 0 exactly when the targets are listed or a
conversion ends without a failed outcome, and else 1. What halts a run leaves the store as it is,
an output directory that cannot be prepared leaves the files as they are, and a dry run leaves
everything as it is. -/
theorem run_exits {arguments : List String} (h : Options.ofArguments arguments = .ok options)
    (store : FileStore) :
    (∀ code, (run store arguments).ending = .exit code →
      (code = 0 ↔ Succeeds store options) ∧ (code = 1 ↔ Fails store options) ∧
        (code = 0 ∨ code = 1)) ∧
    (Halts store options → (run store arguments).store = store) ∧
    (∀ conversion fault, Plans store options conversion →
      (conversion.prepare store).result = .error fault →
        (run store arguments).store.HasFilesOf store) ∧
    (options.dryRun = true → (run store arguments).store = store) := by
  rw [run_of_options h]
  refine ⟨fun code hexit => ?_, fun halts => halts.ends.1,
    fun conversion fault plans hprepare => ?_,
    fun hdry => store_perform_of_dryRun hdry store⟩
  · have hzero : Succeeds store options → code = 0 := by
      intro hsucceeds
      rw [hsucceeds.ending] at hexit
      cases hexit
      rfl
    have hone : Fails store options → code = 1 := fun hfails => hfails.exit hexit
    rcases succeeds_or_fails hexit with hsucceeds | hfails
    · have hcode := hzero hsucceeds
      refine ⟨iff_of_true hcode hsucceeds, ⟨fun hcode' => ?_, hone⟩, .inl hcode⟩
      exact absurd (hcode.symm.trans hcode') (by decide)
    · have hcode := hone hfails
      refine ⟨⟨fun hcode' => ?_, hzero⟩, iff_of_true hcode hfails, .inr hcode⟩
      exact absurd (hcode.symm.trans hcode') (by decide)
  · rw [plans.store_perform]
    exact (Conversion.run_of_unprepared hprepare).1

/-! ## A file in the place of the output directory -/

/-- An empty directory beside a file. -/
def besideFile : FileStore :=
  ⟨[(⟨.above 0, ["in"]⟩, .directory), (⟨.above 0, ["out"]⟩, .file [])]⟩

/-- Options that ask for the directory to be converted into the file. -/
def ontoFile : Options := { input := some "in", output := some "out" }

/-- The settings that these options come to. -/
def ontoFileSettings : Settings where
  outputDir := .str "out"
  targetOptions := .object [("schema_id", .bool true), ("timestamps", .bool true),
    ("virtuals", .bool true), ("version_key", .bool false), ("type_map", .object [])]

theorem settings_ontoFile :
    CommandLine.settings besideFile ontoFile "nestjs" = .ok ontoFileSettings := by cbv

theorem prepare_besideFile : SourceFiles.list besideFile ⟨"", ["in"]⟩ "*" = .ok [] ∧
    (SourceFiles.prepare besideFile ⟨"", ["out"]⟩).result =
      .error (.output ⟨"", ["out"]⟩ (.refused .occupied ⟨"", ["out"]⟩)) := by
  have hpresent : besideFile.isPresent ⟨"", ["out"]⟩ = .ok true := by cbv
  have hmake : besideFile.makeDirectories ⟨"", ["out"]⟩ =
      (besideFile, .error (.refused .occupied ⟨"", ["out"]⟩)) := by cbv
  refine ⟨by cbv, ?_⟩
  unfold SourceFiles.prepare
  rw [hpresent, hmake]
  rfl

theorem exists_plans_ontoFile : ∃ generator,
    Plans besideFile ontoFile (conversionOf ontoFile "in" ontoFileSettings generator) := by
  have hresolve : Registry.standard.resolve "nestjs" = .ok "nestjs" := by cbv
  obtain ⟨generator, hgenerator⟩ :
      ∃ generator, Nest.generator ontoFileSettings = .ok generator := ⟨_, rfl⟩
  have hcreate : Registry.standard.create besideFile "nestjs" (.own ontoFileSettings) =
      .ok generator := by
    unfold Registry.create
    rw [hresolve]
    exact hgenerator
  have hsupported := (Registry.isSupported_iff _ _).2 ⟨_, hresolve⟩
  exact ⟨generator, .plan ⟨rfl, rfl, rfl⟩ hsupported settings_ontoFile hcreate⟩

/-- The run cannot make its output directory: it ends with code 1 and keeps the file. -/
theorem run_exits_ontoFile :
    (run besideFile ["in", "--output", "out"]).ending = .exit 1 ∧ Fails besideFile ontoFile ∧
      (run besideFile ["in", "--output", "out"]).store.HasFilesOf besideFile := by
  have hread : Options.ofArguments ["in", "--output", "out"] = .ok ontoFile := by cbv
  obtain ⟨generator, plans⟩ := exists_plans_ontoFile
  obtain ⟨hlist, hprepare⟩ := prepare_besideFile
  have hfails : (Conversion.run (conversionOf ontoFile "in" ontoFileSettings generator)
      besideFile).result = .error (.output ⟨"", ["out"]⟩ (.refused .occupied ⟨"", ["out"]⟩)) :=
    Conversion.result_of_unprepared hlist hprepare
  have hexit : (run besideFile ["in", "--output", "out"]).ending = .exit 1 := by
    obtain ⟨printed, hperform⟩ := plans.perform
    rw [run_of_options hread, hperform, hfails]
    rfl
  obtain ⟨hcode, -, hkept, -⟩ := run_exits hread besideFile
  exact ⟨hexit, (hcode 1 hexit).2.1.1 rfl, hkept _ _ plans hprepare⟩

end CommandLine

end StructSchema
