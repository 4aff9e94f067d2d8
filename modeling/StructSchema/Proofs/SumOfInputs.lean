import StructSchema.Proofs.ArtifactFrame
import StructSchema.Proofs.FewerFiles

/-!
# A run is the sum of its files

Where no two files declare names that differ by case alone, no file has a part in what comes of
another one: `Conversion.account_flatMap` cuts the account of files into the accounts of each file
for itself. A store that lacks files has the same directories and prepares the same ones, so a run
over it reports the same of the files that it has, `Conversion.Completes.of_lacks`. So a run reports
of each file what a run reports that finds no other file: `Conversion.sum_of_inputs`.
-/

namespace StructSchema.Conversion

variable {conversion : Conversion} {refused : String → Option FileStore.Cause}
  {store fewer base : FileStore} {files : List Path} {report : Report}
  {earlier more : List Outcome} {outcome : Outcome} {items : List Item} {source path : Path}
  {name : String}

/-! ## Items that have nothing to do with each other -/

/-- Items whose declarations have no name that earlier outcomes have taken. -/
def Untaken (conversion : Conversion) (earlier : List Outcome) (items : List Item) : Prop :=
  ∀ source block, .declared source block ∈ items →
    ∀ owner ∈ earlier, owner.outputPath ≠ some (conversion.artifactPath block.name)

/-- Earlier outcomes that have taken no name of an item make no difference to it. -/
theorem account_append_earlier (refused : String → Option FileStore.Cause)
    (h : conversion.Untaken earlier items) (more : List Outcome) :
    conversion.account refused (earlier ++ more) items =
      conversion.account refused more items := by
  induction items generalizing more with
  | nil => rfl
  | cons item items ih =>
    have hsettle : conversion.settle refused (earlier ++ more) item =
        conversion.settle refused more item := by
      cases item with
      | unreadable source message => rfl
      | bare source => rfl
      | declared source block =>
        have hnone : earlier.find?
            (·.outputPath = some (conversion.artifactPath block.name)) = none := by
          rw [List.find?_eq_none]
          exact fun owner howner =>
            by simpa using h source block List.mem_cons_self owner howner
        unfold settle
        simp only [List.find?_append, hnone, Option.none_or]
    have hrest := ih (fun source block hblock => h source block (List.mem_cons_of_mem _ hblock))
      (more ++ [conversion.settle refused more item])
    unfold account
    rw [hsettle]
    dsimp only
    rw [List.append_assoc, hrest]

/-- An output path is that of the artifact of a declaration. -/
theorem exists_of_outputPath (h : outcome ∈ conversion.account refused earlier items)
    (hpath : outcome.outputPath = some path) : ∃ source block, .declared source block ∈ items ∧
      path = conversion.artifactPath block.name := by
  obtain ⟨item, hitem, before, rfl⟩ := exists_of_mem_account h
  cases item with
  | unreadable source message => cases hpath
  | bare source => cases hpath
  | declared source block =>
    refine ⟨source, block, hitem, ?_⟩
    have hend := conversion.ending_settle refused before source block
    generalize conversion.settle refused before (.declared source block) = outcome at hend hpath
    cases hend with
    | failed _ => cases hpath
    | collided _ _ _ => cases hpath
    | unwritten _ _ _ => cases hpath
    | written _ _ _ => exact (Option.some.inj hpath).symm

/-- Items of two kinds in which no two declarations come to one file name. -/
def Apart (conversion : Conversion) (items others : List Item) : Prop :=
  ∀ source block, .declared source block ∈ items → ∀ other found, .declared other found ∈ others →
    conversion.generator.artifactName block.name ≠ conversion.generator.artifactName found.name

theorem Apart.untaken {others : List Item} (h : conversion.Apart items others) :
    conversion.Untaken (conversion.account refused earlier items) others := by
  intro other found hfound owner howner hpath
  obtain ⟨source, block, hblock, he⟩ := exists_of_outputPath howner hpath
  exact h source block hblock other found hfound (artifactPath_inj.1 he).symm

/-- The account of items of several kinds is the account of each kind for itself. -/
theorem account_flatMap {names : List String} {itemsIn : String → List Item}
    (hnames : names.Pairwise fun a b => conversion.Apart (itemsIn a) (itemsIn b)) :
    conversion.account refused [] (names.flatMap itemsIn) =
      names.flatMap fun name => conversion.account refused [] (itemsIn name) := by
  -- Behind outcomes that have taken none of the names the account is the same.
  suffices hbehind : ∀ earlier, (∀ name ∈ names, conversion.Untaken earlier (itemsIn name)) →
      conversion.account refused earlier (names.flatMap itemsIn) =
        names.flatMap fun name => conversion.account refused [] (itemsIn name) from
    hbehind [] fun name _ source block _ owner howner => by cases howner
  induction names with
  | nil => exact fun _ _ => rfl
  | cons name names ih =>
    intro earlier huntaken
    rw [List.pairwise_cons] at hnames
    rw [List.forall_mem_cons] at huntaken
    have hfirst := account_append_earlier refused huntaken.1 []
    rw [List.append_nil] at hfirst
    rw [List.flatMap_cons, List.flatMap_cons, account_append, hfirst]
    refine congrArg _ (ih hnames.2 _ fun other hother => ?_)
    intro source block hblock owner howner
    rcases List.mem_append.1 howner with howner | howner
    · exact huntaken.2 other hother source block hblock owner howner
    · exact (hnames.1 other hother).untaken source block hblock owner howner

/-! ## The files of a run -/

/-- The file that an item is about. -/
def Item.file : Item → Path
  | .unreadable source _ => source
  | .bare source => source
  | .declared source _ => source

theorem source_settle (conversion : Conversion) (refused : String → Option FileStore.Cause)
    (earlier : List Outcome) (item : Item) :
    (conversion.settle refused earlier item).source = item.file := by
  cases item with
  | unreadable source message => rfl
  | bare source => rfl
  | declared source block => exact (blockOutcome_settle ..).source_eq

theorem file_of_mem_itemsOf {item : Item} {loaded : Except Fault String}
    (h : item ∈ conversion.itemsOf source loaded) : item.file = source := by
  unfold itemsOf at h
  split at h
  · rw [List.mem_singleton.1 h]
    rfl
  · rw [List.mem_singleton.1 h]
    rfl
  · split at h
    · rw [List.mem_singleton.1 h]
      rfl
    · obtain ⟨block, -, rfl⟩ := List.mem_map.1 h
      rfl

/-- What there is to report on a file of the input directory. -/
def itemsIn (conversion : Conversion) (store : FileStore) (name : String) : List Item :=
  conversion.itemsOf (conversion.input.child name)
    (SourceFiles.load store (conversion.input.child name))

/-- The account of a file of the input directory for itself. -/
def accountOf (conversion : Conversion) (store : FileStore) (name : String) : List Outcome :=
  conversion.account (conversion.refusal (conversion.prepare store).store) []
    (conversion.itemsIn store name)

theorem source_of_mem_accountOf (h : outcome ∈ conversion.accountOf store name) :
    outcome.source = conversion.input.child name := by
  obtain ⟨item, hitem, before, rfl⟩ := exists_of_mem_account h
  rw [source_settle, file_of_mem_itemsOf hitem]

/-- The accounts of files are told apart by their sources. -/
theorem filter_flatMap_accountOf {names : List String} (hnodup : names.Nodup)
    (hname : name ∈ names) :
    (names.flatMap (conversion.accountOf store)).filter
        (·.source = conversion.input.child name) = conversion.accountOf store name := by
  have hother : ∀ others : List String, name ∉ others →
      (others.flatMap (conversion.accountOf store)).filter
        (·.source = conversion.input.child name) = [] := by
    intro others hnot
    rw [List.filter_eq_nil_iff]
    intro outcome houtcome
    obtain ⟨other, hmem, houtcome⟩ := List.mem_flatMap.1 houtcome
    rw [source_of_mem_accountOf houtcome, decide_eq_true_iff, Path.child_inj]
    rintro rfl
    exact hnot hmem
  have hown : (conversion.accountOf store name).filter
      (·.source = conversion.input.child name) = conversion.accountOf store name := by
    rw [List.filter_eq_self]
    exact fun outcome houtcome => by simpa using source_of_mem_accountOf houtcome
  obtain ⟨before, after, rfl⟩ := List.append_of_mem hname
  rw [List.nodup_append, List.nodup_cons] at hnodup
  have hbefore : name ∉ before := fun hmem => hnodup.2.2 name hmem name List.mem_cons_self rfl
  rw [List.flatMap_append, List.flatMap_cons, List.filter_append, List.filter_append,
    hother before hbefore, hown, hother after hnodup.2.1.1, List.nil_append, List.append_nil]

/-- The declarations that are extracted from a file of the input directory. -/
def declaredIn (conversion : Conversion) (store : FileStore) (name : String) : List StructBlock :=
  match SourceFiles.load store (conversion.input.child name) with
  | .ok text => StructBlock.select text conversion.everyStruct
  | .error _ => []

theorem declaredIn_of_ok (conversion : Conversion) {text : String}
    (h : SourceFiles.load store (conversion.input.child name) = .ok text) :
    conversion.declaredIn store name = StructBlock.select text conversion.everyStruct := by
  unfold declaredIn
  rw [h]

theorem declaredIn_of_error (conversion : Conversion) {fault : Fault}
    (h : SourceFiles.load store (conversion.input.child name) = .error fault) :
    conversion.declaredIn store name = [] := by
  unfold declaredIn
  rw [h]

/-- No two files of the input directory declare names that differ by case alone. -/
def NamesApart (conversion : Conversion) (store : FileStore) : Prop :=
  (store.fileNames conversion.input.location).Pairwise fun a b =>
    ∀ block ∈ conversion.declaredIn store a, ∀ found ∈ conversion.declaredIn store b,
      Text.lower block.name ≠ Text.lower found.name

theorem mem_declaredIn {block : StructBlock}
    (h : .declared source block ∈ conversion.itemsIn store name) :
    block ∈ conversion.declaredIn store name := by
  unfold itemsIn itemsOf at h
  unfold declaredIn
  split at h
  · cases List.mem_singleton.1 h
  · cases List.mem_singleton.1 h
  · rename_i text hload
    rw [hload]
    split at h
    · cases List.mem_singleton.1 h
    · obtain ⟨found, hfound, he⟩ := List.mem_map.1 h
      cases he
      exact hfound

theorem NamesApart.pairwise (h : conversion.NamesApart store) :
    (store.fileNames conversion.input.location).Pairwise fun a b =>
      conversion.Apart (conversion.itemsIn store a) (conversion.itemsIn store b) := by
  refine h.imp fun {a b} hab source block hblock other found hfound he => ?_
  refine hab block (mem_declaredIn hblock) found (mem_declaredIn hfound) ?_
  have htexts := congrArg String.toList he
  unfold Generator.artifactName at htexts
  rw [String.toList_append, String.toList_append] at htexts
  exact String.toList_inj.1 (List.append_cancel_right htexts)

namespace Completes

/-- A run reports the account of its files. -/
theorem outcomes_eq (h : conversion.Completes store files report) (htree : store.IsTree)
    (hsuffix : conversion.generator.HasPlainSuffix)
    (hne : conversion.output.location ≠ conversion.input.location) :
    report.outcomes = conversion.account (conversion.refusal (conversion.prepare store).store) []
      ((store.fileNames conversion.input.location).flatMap (conversion.itemsIn store)) := by
  obtain ⟨-, -, hfiles⟩ := (SourceFiles.list_eq_ok_iff htree).1 h.listed
  rw [h.outcomes, itemsFrom_eq htree (h.ready hsuffix) (conversion.keepsInput_prepare store) hne
    h.listed, hfiles, List.flatMap_map]
  rfl

/-- Where names are apart it is the accounts of its files, one after the other. -/
theorem outcomes_eq_flatMap (h : conversion.Completes store files report) (htree : store.IsTree)
    (hsuffix : conversion.generator.HasPlainSuffix)
    (hne : conversion.output.location ≠ conversion.input.location)
    (hapart : conversion.NamesApart store) : report.outcomes =
      (store.fileNames conversion.input.location).flatMap (conversion.accountOf store) := by
  rw [h.outcomes_eq htree hsuffix hne]
  exact account_flatMap hapart.pairwise

theorem filter_outcomes (h : conversion.Completes store files report) (htree : store.IsTree)
    (hsuffix : conversion.generator.HasPlainSuffix)
    (hne : conversion.output.location ≠ conversion.input.location)
    (hapart : conversion.NamesApart store)
    (hname : name ∈ store.fileNames conversion.input.location) :
    report.outcomes.filter (·.source = conversion.input.child name) =
      conversion.accountOf store name := by
  have hnodup : (store.fileNames conversion.input.location).Nodup :=
    (htree.listsFiles _).sorted.imp ne_of_lt
  rw [h.outcomes_eq_flatMap htree hsuffix hne hapart]
  exact filter_flatMap_accountOf hnodup hname

end Completes

/-! ## Runs over fewer files -/

theorem refusal_of_lacks (h : store.Lacks fewer) :
    conversion.refusal fewer = conversion.refusal store := by
  funext name
  unfold refusal FileStore.obstacle?
  simp only [h.directory_iff]

theorem prepare_of_lacks (h : store.Lacks fewer)
    (hprepared : (conversion.prepare store).result = .ok ()) :
    (conversion.prepare fewer).result = .ok () ∧
      (conversion.prepare store).store.Lacks (conversion.prepare fewer).store := by
  unfold prepare at hprepared ⊢
  split at hprepared
  · rename_i hdry
    rw [if_pos hdry, if_pos hdry]
    exact ⟨rfl, h⟩
  · rename_i hdry
    rw [if_neg hdry, if_neg hdry]
    exact SourceFiles.prepare_of_lacks h hprepared

namespace Completes

/-- A run comes to its end where files are lacking, too. -/
theorem of_lacks (h : conversion.Completes store files report) (htree : store.IsTree)
    (hfewer : fewer.IsTree) (hlacks : store.Lacks fewer) : ∃ files report,
      conversion.Completes fewer files report :=
  ⟨_, ⟨_⟩, SourceFiles.list_of_lacks hlacks htree hfewer h.listed,
    (prepare_of_lacks hlacks h.prepared).1, rfl⟩

/-- A file that is not lacking has the same account. -/
theorem accountOf_of_lacks (h : conversion.Completes store files report) (htree : store.IsTree)
    (hfewer : fewer.IsTree) (hlacks : store.Lacks fewer)
    (hname : name ∈ fewer.fileNames conversion.input.location) :
    conversion.accountOf fewer name = conversion.accountOf store name := by
  obtain ⟨octets, hget⟩ := ((hfewer.listsFiles _).mem_iff name).1 hname
  have hstore : store.get? (conversion.input.location.child name) = some (.file octets) := by
    rcases hlacks (conversion.input.location.child name) with he | ⟨hnone, -⟩
    · rw [← he, hget]
    · rw [hnone] at hget
      cases hget
  have hfind := SourceFiles.find_of_list htree h.listed hstore
  have hfindFewer := SourceFiles.find_of_list hfewer
    (SourceFiles.list_of_lacks hlacks htree hfewer h.listed) hget
  have hload : SourceFiles.load fewer (conversion.input.child name) =
      SourceFiles.load store (conversion.input.child name) := by
    rw [load_of_read (FileStore.read_of_find hfind),
      load_of_read (FileStore.read_of_find hfindFewer)]
  unfold accountOf itemsIn
  rw [hload, refusal_of_lacks (prepare_of_lacks hlacks h.prepared).2]

/-- A run over a store with one file of the input directory alone reports the account of it. -/
theorem onlyFile (h : conversion.Completes store files report) (htree : store.IsTree)
    (hsuffix : conversion.generator.HasPlainSuffix)
    (hne : conversion.output.location ≠ conversion.input.location)
    (hname : name ∈ store.fileNames conversion.input.location) :
    ∃ files, conversion.Completes (store.onlyFile conversion.input.location name) files
      ⟨conversion.accountOf store name⟩ := by
  have hfewer := htree.onlyFile conversion.input.location name
  have hlacks := htree.lacks_onlyFile conversion.input.location name
  have hsingle := htree.fileNames_onlyFile hname
  obtain ⟨files, ⟨outcomes⟩, halone⟩ := h.of_lacks htree hfewer hlacks
  have hapart : conversion.NamesApart (store.onlyFile conversion.input.location name) := by
    unfold NamesApart
    rw [hsingle]
    exact List.pairwise_singleton _ _
  have houtcomes := halone.outcomes_eq_flatMap hfewer hsuffix hne hapart
  rw [hsingle, List.flatMap_singleton, h.accountOf_of_lacks htree hfewer hlacks
    (by rw [hsingle]; exact List.mem_singleton_self name)] at houtcomes
  change outcomes = _ at houtcomes
  subst houtcomes
  exact ⟨files, halone⟩

end Completes

/-! ## The sum -/

/-- A run that writes leaves an artifact: a success has the path, and the store holds the octets
there after the run. -/
def Produces (conversion : Conversion) (store : FileStore) (path : Path) (octets : List UInt8) :
    Prop :=
  conversion.dryRun = false ∧ ∃ report, (conversion.run store).result = .ok report ∧
    (∃ outcome ∈ report.outcomes, outcome.status = .success ∧ outcome.outputPath = some path) ∧
      (conversion.run store).store.read path = .ok octets

/-- The artifacts that a run leaves are those of its successes. -/
theorem Completes.produces_iff (h : conversion.Completes store files report)
    (hsuffix : conversion.generator.HasPlainSuffix) {octets : List UInt8} :
    conversion.Produces store path octets ↔ conversion.dryRun = false ∧
      ∃ outcome ∈ report.outcomes, outcome.status = .success ∧ outcome.outputPath = some path ∧
        ∃ code, outcome.code = some code ∧ octets = octetsOf code := by
  have hrun := (run_eq_ok_iff hsuffix).2 ⟨files, h⟩
  unfold Produces
  refine and_congr_right fun hdry => ?_
  have hwritten := (h.artifactFrame hsuffix hdry).written
  constructor
  · rintro ⟨_, hother, ⟨outcome, houtcome, hstatus, hpath⟩, hread⟩
    obtain rfl := Except.ok.inj (hrun.symm.trans hother)
    obtain ⟨written, code, hwrote, hcode, hheld⟩ := hwritten outcome houtcome hstatus
    obtain rfl := Option.some.inj (hpath.symm.trans hwrote)
    exact ⟨outcome, houtcome, hstatus, hpath, code, hcode,
      Except.ok.inj (hread.symm.trans hheld)⟩
  · rintro ⟨outcome, houtcome, hstatus, hpath, code, hcode, rfl⟩
    obtain ⟨written, found, hwrote, hfound, hheld⟩ := hwritten outcome houtcome hstatus
    obtain rfl := Option.some.inj (hpath.symm.trans hwrote)
    obtain rfl := Option.some.inj (hcode.symm.trans hfound)
    exact ⟨report, hrun, ⟨outcome, houtcome, hstatus, hpath⟩, hheld⟩

/-- Stores that hold the same but for other files give a file the same account. -/
theorem Completes.accountOf_of_sameBut {other : FileStore} {later : Report} {others : List Path}
    (h : conversion.Completes store files report) (htree : store.IsTree)
    (hlater : conversion.Completes other others later) (hother : other.IsTree)
    (hsame : store.SameBut other conversion.input.location name)
    (hname : name ∈ store.fileNames conversion.input.location) :
    name ∈ other.fileNames conversion.input.location ∧
      conversion.accountOf other name = conversion.accountOf store name := by
  obtain ⟨octets, hget⟩ := ((htree.listsFiles _).mem_iff name).1 hname
  have hgot : other.get? (conversion.input.location.child name) = some (.file octets) := by
    rcases hsame (conversion.input.location.child name) with he | ⟨changed, hne, hl, -⟩
    · rw [he, hget]
    · exact absurd (Location.child_inj.1 hl).2.symm hne
  have hmem : name ∈ other.fileNames conversion.input.location :=
    ((hother.listsFiles _).mem_iff name).2 ⟨octets, hgot⟩
  -- Both files have the account that they have without the others, where the stores are alike.
  have halone := htree.onlyFile conversion.input.location name
  have haloneOther := hother.onlyFile conversion.input.location name
  have hlacks := htree.lacks_onlyFile conversion.input.location name
  have hlacksOther := hother.lacks_onlyFile conversion.input.location name
  have halike : (store.onlyFile conversion.input.location name).Lacks
      (other.onlyFile conversion.input.location name) :=
    fun l => .inl (hsame.get?_onlyFile htree hother l)
  have hsingle : name ∈ (store.onlyFile conversion.input.location name).fileNames
      conversion.input.location := by
    rw [htree.fileNames_onlyFile hname]
    exact List.mem_singleton_self name
  have hsingleOther : name ∈ (other.onlyFile conversion.input.location name).fileNames
      conversion.input.location := by
    rw [hother.fileNames_onlyFile hmem]
    exact List.mem_singleton_self name
  obtain ⟨_, _, hcompletes⟩ := h.of_lacks htree halone hlacks
  refine ⟨hmem, ?_⟩
  calc conversion.accountOf other name
      = conversion.accountOf (other.onlyFile conversion.input.location name) name :=
        (hlater.accountOf_of_lacks hother haloneOther hlacksOther hsingleOther).symm
    _ = conversion.accountOf (store.onlyFile conversion.input.location name) name :=
        hcompletes.accountOf_of_lacks halone haloneOther halike hsingleOther
    _ = conversion.accountOf store name := h.accountOf_of_lacks htree halone hlacks hsingle

/-- **A run is the sum of its files.** If no two files of the input directory declare names that
differ by case alone, a run that comes to its end reports of each file, in the order of their names,
what the run reports that finds this file alone, and leaves the artifacts that these runs leave.
So whatever is changed in the other files, or added to them or removed, the outcomes of a file stay
the same. -/
theorem sum_of_inputs (htree : store.IsTree) (hsuffix : conversion.generator.HasPlainSuffix)
    (hne : conversion.output.location ≠ conversion.input.location)
    (hapart : conversion.NamesApart store) (hrun : (conversion.run store).result = .ok report) :
    report.outcomes = (store.fileNames conversion.input.location).flatMap (fun name =>
        report.outcomes.filter (·.source = conversion.input.child name)) ∧
    (∀ name ∈ store.fileNames conversion.input.location,
      (conversion.run (store.onlyFile conversion.input.location name)).result =
        .ok ⟨report.outcomes.filter (·.source = conversion.input.child name)⟩) ∧
    (∀ path octets, conversion.Produces store path octets ↔
      ∃ name ∈ store.fileNames conversion.input.location,
        conversion.Produces (store.onlyFile conversion.input.location name) path octets) ∧
    ∀ name ∈ store.fileNames conversion.input.location, ∀ other later, other.IsTree →
      conversion.NamesApart other → (conversion.run other).result = .ok later →
        store.SameBut other conversion.input.location name →
          later.outcomes.filter (·.source = conversion.input.child name) =
            report.outcomes.filter (·.source = conversion.input.child name) := by
  obtain ⟨files, h⟩ := (run_eq_ok_iff hsuffix).1 hrun
  have houtcomes := h.outcomes_eq_flatMap htree hsuffix hne hapart
  have hfilter : ∀ name ∈ store.fileNames conversion.input.location,
      report.outcomes.filter (·.source = conversion.input.child name) =
        conversion.accountOf store name :=
    fun name hname => h.filter_outcomes htree hsuffix hne hapart hname
  refine ⟨?_, fun name hname => ?_, fun path octets => ?_,
    fun name hname other later hother hapartOther hrunOther hsame => ?_⟩
  · exact houtcomes.trans (List.flatMap_congr fun name hname => (hfilter name hname).symm)
  · rw [hfilter name hname]
    exact (run_eq_ok_iff hsuffix).2 (h.onlyFile htree hsuffix hne hname)
  · rw [h.produces_iff hsuffix]
    constructor
    · rintro ⟨hdry, outcome, houtcome, hproduced⟩
      rw [houtcomes, List.mem_flatMap] at houtcome
      obtain ⟨name, hname, houtcome⟩ := houtcome
      obtain ⟨_, halone⟩ := h.onlyFile htree hsuffix hne hname
      exact ⟨name, hname, (halone.produces_iff hsuffix).2 ⟨hdry, outcome, houtcome, hproduced⟩⟩
    · rintro ⟨name, hname, hproduces⟩
      obtain ⟨_, halone⟩ := h.onlyFile htree hsuffix hne hname
      obtain ⟨hdry, outcome, houtcome, hproduced⟩ := (halone.produces_iff hsuffix).1 hproduces
      refine ⟨hdry, outcome, ?_, hproduced⟩
      rw [houtcomes, List.mem_flatMap]
      exact ⟨name, hname, houtcome⟩
  · obtain ⟨others, hlater⟩ := (run_eq_ok_iff hsuffix).1 hrunOther
    obtain ⟨hmem, haccount⟩ := h.accountOf_of_sameBut htree hlater hother hsame hname
    rw [hfilter name hname, hlater.filter_outcomes hother hsuffix hne hapartOther hmem, haccount]

/-- A directory with a file that declares two names that differ by case alone, and a file that holds
the octets given. -/
def brokenBeside (octets : List UInt8) : FileStore := ⟨[
  (⟨.above 0, ["in"]⟩, .directory),
  (⟨.above 0, ["in", "a"]⟩, .file octets),
  (⟨.above 0, ["in", "b"]⟩, .file (octetsOf "type User struct \x7b\x7dtype user struct \x7b\x7d"))]⟩

/-- The conversion of every declaration of the directory. -/
def everyInbox (generator : Generator) : Conversion :=
  { between generator ⟨"", ["in"]⟩ ⟨"", ["out"]⟩ with everyStruct := true }

theorem fileNames_brokenBeside (octets : List UInt8) :
    (brokenBeside octets).fileNames (Path.location ⟨"", ["in"]⟩) = ["a", "b"] := by
  cbv

theorem namesApart_brokenBeside (generator : Generator) (octets : List UInt8)
    (h : ∀ block ∈ (everyInbox generator).declaredIn (brokenBeside octets) "a",
      block.name = "Admin") :
    (everyInbox generator).NamesApart (brokenBeside octets) := by
  have hload : SourceFiles.load (brokenBeside octets) (Path.child ⟨"", ["in"]⟩ "b") =
      .ok "type User struct \x7b\x7dtype user struct \x7b\x7d" := by cbv
  have hselect : StructBlock.select "type User struct \x7b\x7dtype user struct \x7b\x7d" true =
      [⟨"User", ""⟩, ⟨"user", ""⟩] := by decide +kernel
  have hdeclared : (everyInbox generator).declaredIn (brokenBeside octets) "b" =
      [⟨"User", ""⟩, ⟨"user", ""⟩] := by
    rw [declaredIn_of_ok (everyInbox generator) hload]
    exact hselect
  have hnames : ∀ found ∈ [(⟨"User", ""⟩ : StructBlock), ⟨"user", ""⟩],
      Text.lower "Admin" ≠ Text.lower found.name := by decide +kernel
  change ((brokenBeside octets).fileNames (Path.location ⟨"", ["in"]⟩)).Pairwise _
  rw [fileNames_brokenBeside, List.pairwise_pair, hdeclared]
  intro block hblock
  rw [h block hblock]
  exact hnames

theorem sameBut_brokenBeside (octets changed : List UInt8) :
    (brokenBeside octets).SameBut (brokenBeside changed) (Path.location ⟨"", ["in"]⟩) "b" := by
  intro l
  by_cases hl : l = ⟨.above 0, ["in", "a"]⟩
  · subst hl
    exact .inr ⟨"a", by decide, rfl, nofun, nofun⟩
  · have hbeq : (l == (⟨.above 0, ["in", "a"]⟩ : Location)) = false := beq_eq_false_iff_ne.2 hl
    refine .inl ?_
    unfold FileStore.get? brokenBeside
    simp only [List.lookup_cons, hbeq]

theorem exists_run_brokenBeside {generator : Generator} (hsuffix : generator.HasPlainSuffix)
    (octets : List UInt8) :
    ∃ report, ((everyInbox generator).run (brokenBeside octets)).result = .ok report := by
  have hlist : SourceFiles.list (brokenBeside octets) ⟨"", ["in"]⟩ "*" =
      .ok (["a", "b"].map (Path.child ⟨"", ["in"]⟩)) := by cbv
  have hprepared : (SourceFiles.prepare (brokenBeside octets) ⟨"", ["out"]⟩).result = .ok () := by
    cbv
  exact ⟨⟨_⟩, (run_eq_ok_iff hsuffix).2 ⟨_, hlist, hprepared, rfl⟩⟩

/-- Two names that collide inside one file, next to a file that is no text at first and declares a
third name later. -/
theorem sum_of_inputs_brokenBeside : ∃ generator report later, Nest.generator {} = .ok generator ∧
    ((everyInbox generator).run (brokenBeside [0xff])).result = .ok report ∧
    ((everyInbox generator).run
      (brokenBeside (octetsOf "type Admin struct \x7b\x7d"))).result = .ok later ∧
    ((everyInbox generator).run
      ((brokenBeside [0xff]).onlyFile (Path.location ⟨"", ["in"]⟩) "b")).result =
        .ok ⟨report.outcomes.filter (·.source = Path.child ⟨"", ["in"]⟩ "b")⟩ ∧
    later.outcomes.filter (·.source = Path.child ⟨"", ["in"]⟩ "b") =
      report.outcomes.filter (·.source = Path.child ⟨"", ["in"]⟩ "b") := by
  obtain ⟨generator, hg, hsuffix⟩ :
      ∃ generator, Nest.generator {} = .ok generator ∧ generator.HasPlainSuffix :=
    ⟨_, rfl, ⟨by decide, by decide⟩⟩
  obtain ⟨report, hrun⟩ := exists_run_brokenBeside hsuffix [0xff]
  obtain ⟨later, hlater⟩ :=
    exists_run_brokenBeside hsuffix (octetsOf "type Admin struct \x7b\x7d")
  have hbroken : SourceFiles.load (brokenBeside [0xff]) (Path.child ⟨"", ["in"]⟩ "a") =
      .error (.source (.notText ⟨"", ["in", "a"]⟩)) := by cbv
  have hwhole : SourceFiles.load (brokenBeside (octetsOf "type Admin struct \x7b\x7d"))
      (Path.child ⟨"", ["in"]⟩ "a") = .ok "type Admin struct \x7b\x7d" := by cbv
  have hselect : StructBlock.select "type Admin struct \x7b\x7d" true = [⟨"Admin", ""⟩] := by
    decide +kernel
  have hapart := namesApart_brokenBeside generator [0xff] fun block hblock => by
    rw [declaredIn_of_error (everyInbox generator) hbroken] at hblock
    cases hblock
  have hapartLater := namesApart_brokenBeside generator (octetsOf "type Admin struct \x7b\x7d")
    fun block hblock => by
      rw [declaredIn_of_ok (everyInbox generator) hwhole] at hblock
      have hmem : block ∈ StructBlock.select "type Admin struct \x7b\x7d" true := hblock
      rw [hselect] at hmem
      rw [List.mem_singleton.1 hmem]
  have hname : "b" ∈ (brokenBeside [0xff]).fileNames (Path.location ⟨"", ["in"]⟩) := by
    rw [fileNames_brokenBeside]
    decide
  have hne : Path.location ⟨"", ["out"]⟩ ≠ Path.location ⟨"", ["in"]⟩ := by decide
  obtain ⟨-, halone, -, hother⟩ := sum_of_inputs (by decide) hsuffix hne hapart hrun
  exact ⟨generator, report, later, hg, hrun, hlater, halone "b" hname,
    hother "b" hname _ _ (by decide +kernel) hapartLater hlater (sameBut_brokenBeside _ _)⟩

end StructSchema.Conversion
