import StructSchema.Proofs.DirectoryListing

/-!
# Stores with fewer files

A store that lacks some files of another one has all of its directories, so what could be followed,
listed and made there can be followed, listed and made here: `FileStore.Lacks.makeAbove`,
`SourceFiles.prepare_of_lacks`. Where the other store comes upon a file in the middle of a path,
this one may miss it, but either way the path leads nowhere: `FileStore.Lacks.walk`. The store with
one file of a directory alone is `FileStore.onlyFile`.
-/

namespace StructSchema

namespace FileStore

variable {store fewer later : FileStore} {here l : Location} {segments : List String}
  {path : Path} {name other : String} {entry : Entry} {octets : List UInt8}

/-! ## What is lacking -/

/-- `fewer` is `store` without some of its files. -/
def Lacks (store fewer : FileStore) : Prop :=
  ∀ l, fewer.get? l = store.get? l ∨
    fewer.get? l = none ∧ ∃ octets, store.get? l = some (.file octets)

namespace Lacks

variable (h : store.Lacks fewer)

include h

theorem directory_iff (l : Location) :
    fewer.get? l = some .directory ↔ store.get? l = some .directory := by
  rcases h l with he | ⟨hnone, octets, hfile⟩
  · rw [he]
  · rw [hnone, hfile]
    exact iff_of_false nofun nofun

theorem keepsDirectories : store.KeepsDirectories fewer :=
  fun l hl => (h.directory_iff l).2 hl

theorem eq_none (hnone : store.get? l = none) : fewer.get? l = none := by
  rcases h l with he | ⟨hgone, -⟩
  · rw [he, hnone]
  · exact hgone

/-- Segments lead to the same, unless they come upon a file that is lacking. -/
theorem walk (here : Location) (segments : List String) :
    fewer.walk here segments = store.walk here segments ∨
      store.walk here segments = .error .notDirectory ∧
        fewer.walk here segments = .error .missing := by
  induction segments generalizing here with
  | nil => exact .inl rfl
  | cons segment segments ih =>
    rcases h here with he | ⟨hnone, octets, hfile⟩
    · cases hhere : store.get? here with
      | none =>
        rw [hhere] at he
        refine .inl ?_
        rw [FileStore.walk, FileStore.walk, he, hhere]
      | some entry =>
        cases entry with
        | file octets =>
          rw [hhere] at he
          refine .inl ?_
          rw [FileStore.walk, FileStore.walk, he, hhere]
        | directory =>
          rw [hhere] at he
          rw [walk_cons he, walk_cons hhere]
          split_ifs
          · exact ih _
          · exact .inl rfl
          · exact ih _
    · refine .inr ?_
      rw [FileStore.walk, FileStore.walk, hnone, hfile]
      exact ⟨rfl, rfl⟩

theorem locate (path : Path) :
    fewer.locate path = store.locate path ∨
      store.locate path = .error (.refused .notDirectory path) ∧
        fewer.locate path = .error (.refused .missing path) := by
  unfold FileStore.locate
  dsimp only
  split_ifs
  · exact .inl rfl
  · exact .inl rfl
  · rcases h.walk (start path) path.segments with he | ⟨hstore, hfewer⟩
    · rw [he]
      exact .inl rfl
    · rw [hstore, hfewer]
      exact .inr ⟨rfl, rfl⟩

/-- Where it is known what a path leads to, this is known here too. -/
theorem exists_isPresent {present : Bool} (hpresent : store.isPresent path = .ok present) :
    ∃ found, fewer.isPresent path = .ok found := by
  have hmissing : ∀ {s : FileStore}, s.find path = .error (.refused .missing path) →
      s.isPresent path = .ok false := by
    intro s hs
    unfold isPresent status
    rw [hs]
    rfl
  rcases h.locate path with he | ⟨-, hfewer⟩
  · cases hlocate : store.locate path with
    | error fault =>
      refine ⟨present, ?_⟩
      rw [← hpresent]
      unfold isPresent status find
      rw [he, hlocate]
      rfl
    | ok l =>
      cases hget : fewer.get? l with
      | none =>
        refine ⟨false, hmissing ?_⟩
        unfold find
        rw [he, hlocate]
        simp [bind, Except.bind, hget]
      | some entry =>
        have hfind := find_eq_ok_iff.2 ⟨he.trans hlocate, hget⟩
        refine ⟨true, ?_⟩
        unfold isPresent status
        rw [hfind]
        rfl
  · refine ⟨false, hmissing ?_⟩
    unfold find
    rw [hfewer]
    rfl

/-! ## Making directories -/

theorem makeDirectory (hmake : store.makeDirectory path = .ok later) :
    ∃ made, fewer.makeDirectory path = .ok made ∧ later.Lacks made := by
  obtain ⟨hlocate, hnone, rfl⟩ := makeDirectory_eq_ok_iff.1 hmake
  have hgone := h.eq_none hnone
  have hfewer : fewer.locate path = .ok path.location := by
    obtain ⟨hnull, hsize, hwalk⟩ := locate_eq_ok_iff.1 hlocate
    exact locate_eq_ok_iff.2 ⟨hnull, hsize, walk_of_keeps h.keepsDirectories hwalk⟩
  refine ⟨_, makeDirectory_eq_ok_iff.2 ⟨hfewer, hgone, rfl⟩, fun l => ?_⟩
  rw [get?_set _ _ _ _ (names_ne_nil_of_get? hnone), get?_set _ _ _ _ (names_ne_nil_of_get? hgone)]
  split_ifs
  · exact .inl rfl
  · exact h l

theorem makeDirectory_of_missing {missed : Path}
    (hmake : store.makeDirectory path = .error (.refused .missing missed)) :
    fewer.makeDirectory path = .error (.refused .missing missed) := by
  have hlocate : store.locate path = .error (.refused .missing missed) := by
    unfold FileStore.makeDirectory at hmake
    cases hl : store.locate path with
    | error fault =>
      rw [hl] at hmake
      rw [Except.error.inj (hmake : (Except.error fault : Except Fault FileStore) = _)]
    | ok l =>
      simp only [hl, bind, Except.bind] at hmake
      split at hmake
      · cases hmake
      · cases hmake
  have hfewer : fewer.locate path = .error (.refused .missing missed) := by
    rcases h.locate path with he | ⟨hstore, -⟩
    · rw [he, hlocate]
    · rw [hlocate] at hstore
      cases hstore
  unfold FileStore.makeDirectory
  rw [hfewer]
  rfl

/-- A directory that is welcome where it is cannot be made here either, and is welcome. -/
theorem makeDirectory_of_accept {fault : Fault}
    (haccept : store.acceptDirectory path fault = .ok ()) :
    fewer.makeDirectory path = .error (.refused .occupied path) ∧
      fewer.acceptDirectory path (.refused .occupied path) = .ok () :=
  makeDirectory_of_isDirectory
    (isDirectory_of_keeps h.keepsDirectories (isDirectory_of_acceptDirectory haccept))

omit h in
/-- What can be made with those above it can be made here. -/
theorem makeAbove (h : store.Lacks fewer) {root : String} {reversed : List String}
    (hmake : store.makeAbove root reversed = (later, .ok ())) :
    ∃ made, fewer.makeAbove root reversed = (made, .ok ()) ∧ later.Lacks made := by
  induction reversed generalizing store fewer later with
  | nil =>
    rw [FileStore.makeAbove] at hmake ⊢
    split at hmake
    · rename_i last hlast
      obtain ⟨made, hmade, hlacks⟩ := h.makeDirectory hlast
      obtain ⟨rfl, -⟩ := Prod.mk.inj hmake
      exact ⟨made, by rw [hmade], hlacks⟩
    · obtain ⟨rfl, haccept⟩ := Prod.mk.inj hmake
      obtain ⟨hoccupied, hwelcome⟩ := h.makeDirectory_of_accept haccept
      exact ⟨fewer, by simp only [hoccupied, hwelcome], h⟩
  | cons segment above ih =>
    rw [FileStore.makeAbove] at hmake ⊢
    split at hmake
    · rename_i last hlast
      obtain ⟨made, hmade, hlacks⟩ := h.makeDirectory hlast
      obtain ⟨rfl, -⟩ := Prod.mk.inj hmake
      exact ⟨made, by rw [hmade], hlacks⟩
    · rename_i missed hmissing
      split at hmake
      · rename_i fault hfault
        cases (Prod.mk.inj hmake).2
      · rename_i between hbetween
        obtain ⟨made, hmade, hlacks⟩ := ih h hbetween
        rw [h.makeDirectory_of_missing hmissing]
        dsimp only
        rw [hmade]
        dsimp only
        split at hmake
        · rename_i last hlast
          obtain ⟨last', hlast', hlacks'⟩ := hlacks.makeDirectory hlast
          obtain ⟨rfl, -⟩ := Prod.mk.inj hmake
          exact ⟨last', by rw [hlast'], hlacks'⟩
        · obtain ⟨rfl, haccept⟩ := Prod.mk.inj hmake
          obtain ⟨hoccupied, hwelcome⟩ := hlacks.makeDirectory_of_accept haccept
          exact ⟨made, by simp only [hoccupied, hwelcome], hlacks⟩
    · obtain ⟨rfl, haccept⟩ := Prod.mk.inj hmake
      obtain ⟨hoccupied, hwelcome⟩ := h.makeDirectory_of_accept haccept
      exact ⟨fewer, by simp only [hoccupied, hwelcome], h⟩

end Lacks

/-! ## One file of a directory -/

/-- The store without the files directly inside a location, but for one. -/
def onlyFile (store : FileStore) (location : Location) (name : String) : FileStore :=
  ⟨store.entries.filter fun entry =>
    entry.2 == .directory || (nameIn? location entry.1).all (· == name)⟩

variable {location : Location}

theorem IsTree.onlyFile (htree : store.IsTree) (location : Location) (name : String) :
    (store.onlyFile location name).IsTree where
  nodup := htree.nodup.sublist (List.filter_sublist.map _)
  isName := fun entry hentry => htree.isName entry (List.mem_of_mem_filter hentry)

theorem IsTree.get?_onlyFile (htree : store.IsTree) :
    (store.onlyFile location name).get? l = some entry ↔
      store.get? l = some entry ∧
        (entry = .directory ∨ ∀ other, l = location.child other → other = name) := by
  by_cases hl : l.names = []
  · unfold get?
    rw [if_pos hl, if_pos hl]
    constructor
    · intro h
      exact ⟨h, .inl (Option.some.inj h).symm⟩
    · exact fun h => h.1
  · rw [← (htree.onlyFile location name).mem_iff_get? hl, ← htree.mem_iff_get? hl]
    unfold FileStore.onlyFile
    simp only [List.mem_filter, Bool.or_eq_true, beq_iff_eq, Option.all_eq_true,
      nameIn?_eq_some_iff]

theorem IsTree.lacks_onlyFile (htree : store.IsTree) (location : Location) (name : String) :
    store.Lacks (store.onlyFile location name) := by
  intro l
  cases hget : (store.onlyFile location name).get? l with
  | some entry => exact .inl (htree.get?_onlyFile.1 hget).1.symm
  | none =>
    cases hstore : store.get? l with
    | none => exact .inl rfl
    | some entry =>
      cases entry with
      | file octets => exact .inr ⟨rfl, octets, rfl⟩
      | directory =>
        rw [htree.get?_onlyFile.2 ⟨hstore, .inl rfl⟩] at hget
        cases hget

theorem IsTree.get?_child_onlyFile (htree : store.IsTree) :
    (store.onlyFile location name).get? (location.child other) = some (.file octets) ↔
      other = name ∧ store.get? (location.child other) = some (.file octets) := by
  rw [htree.get?_onlyFile, and_comm]
  refine and_congr_left fun _ => ?_
  simp [Location.child_inj]

theorem IsTree.fileNames_onlyFile (htree : store.IsTree)
    (hname : name ∈ store.fileNames location) :
    (store.onlyFile location name).fileNames location = [name] := by
  obtain ⟨octets, hget⟩ := ((htree.listsFiles location).mem_iff name).1 hname
  have hsingle : (store.onlyFile location name).ListsFiles location [name] := by
    refine ⟨List.pairwise_singleton _ _, fun other => ?_⟩
    simp only [htree.get?_child_onlyFile, List.mem_singleton]
    constructor
    · rintro rfl
      exact ⟨octets, rfl, hget⟩
    · rintro ⟨_, he, -⟩
      exact he
  exact hsingle.unique ((htree.onlyFile location name).listsFiles location) fun _ _ => .rfl

/-- Stores that hold the same but for files directly inside a location other than one. -/
def SameBut (store other : FileStore) (location : Location) (name : String) : Prop :=
  ∀ l, other.get? l = store.get? l ∨ ∃ changed, changed ≠ name ∧ l = location.child changed ∧
    store.get? l ≠ some .directory ∧ other.get? l ≠ some .directory

/-- Without the other files such stores hold the same. -/
theorem SameBut.get?_onlyFile {other : FileStore} (h : store.SameBut other location name)
    (htree : store.IsTree) (hother : other.IsTree) (l : Location) :
    (other.onlyFile location name).get? l = (store.onlyFile location name).get? l := by
  refine Option.ext fun entry => ?_
  rw [hother.get?_onlyFile, htree.get?_onlyFile]
  rcases h l with he | ⟨changed, hne, hl, hstore, hlater⟩
  · rw [he]
  · have hnot : ∀ {s : FileStore}, s.get? l ≠ some .directory → ¬ (s.get? l = some entry ∧
        (entry = .directory ∨ ∀ n, l = location.child n → n = name)) := by
      rintro s hs ⟨hget, rfl | hall⟩
      · exact hs hget
      · exact hne (hall changed hl)
    exact iff_of_false (hnot hlater) (hnot hstore)

end FileStore

namespace SourceFiles

variable {store fewer : FileStore} {directory : Path} {files : List Path}

/-- A directory that can be prepared can be prepared where files are lacking. -/
theorem prepare_of_lacks (h : store.Lacks fewer)
    (hprepared : (prepare store directory).result = .ok ()) :
    (prepare fewer directory).result = .ok () ∧
      (prepare store directory).store.Lacks (prepare fewer directory).store := by
  unfold prepare at hprepared ⊢
  cases hpresent : store.isPresent directory with
  | error fault =>
    rw [hpresent] at hprepared
    cases hprepared
  | ok present =>
    rw [hpresent] at hprepared
    have hmake : store.makeDirectories directory =
        ((store.makeDirectories directory).1, .ok ()) :=
      Prod.ext rfl (Outcome.mapError_eq_ok_iff.1 hprepared)
    obtain ⟨made, hmade, hlacks⟩ := h.makeAbove hmake
    obtain ⟨found, hfound⟩ := h.exists_isPresent hpresent
    have hfewer : fewer.makeDirectories directory = (made, .ok ()) := hmade
    rw [hfound]
    simp only [hfewer]
    exact ⟨rfl, hlacks⟩

/-- A directory that can be listed can be listed where files are lacking. -/
theorem list_of_lacks (h : store.Lacks fewer) (htree : store.IsTree) (hfewer : fewer.IsTree)
    (hlisted : list store directory "*" = .ok files) :
    list fewer directory "*" =
      .ok ((fewer.fileNames directory.location).map directory.child) := by
  obtain ⟨hdir, hshort, -⟩ := (list_eq_ok_iff htree).1 hlisted
  refine (list_eq_ok_iff hfewer).2
    ⟨FileStore.isDirectory_of_keeps h.keepsDirectories hdir, fun name hname => ?_, rfl⟩
  refine hshort name ?_
  rcases h (directory.location.child name) with he | ⟨hnone, -⟩
  · rwa [he] at hname
  · rw [hnone] at hname
    cases hname

end SourceFiles

end StructSchema
