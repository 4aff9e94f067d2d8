import Mathlib
import StructSchema.Proofs.MadeDirectories

/-!
# The files of a directory

`SourceFiles.list_eq_ok_iff` says when the files of a directory can be listed, and in which order:
no path of an entry is too long, and the files are listed by name. Stores that hold the same files
in a directory list the same, for `FileStore.ListsFiles` leaves no choice.
-/

namespace StructSchema

/-! ## The pattern of all names -/

namespace Glob

theorem headD_orLater (fits : List Bool) :
    (suffixesMatching.orLater fits).headD false = fits.any id := by
  induction fits with
  | nil => rfl
  | cons holds rest ih =>
    rw [suffixesMatching.orLater, List.any_cons, ← ih]
    rfl

/-- A run of any characters is the form of every name. -/
theorem isMatch_anyRun (name : List Char) : isMatch [.anyRun] name = true := by
  unfold isMatch suffixesMatching
  simp only [if_true]
  rw [headD_orLater]
  simp [suffixesMatching]

/-- The pattern of one run of any characters. -/
def everyName : Pattern := ⟨[.matching [.anyRun]], false⟩

theorem ofString_star : Pattern.ofString "*" = .ok everyName := by
  cbv

end Glob

namespace FileStore

variable {store later : FileStore} {location l : Location} {path : Path} {entry : Entry}
  {name : String} {names : List String}

/-! ## The entries of a directory -/

theorem IsTree.mem_iff_get? (htree : store.IsTree) (hne : l.names ≠ []) :
    (l, entry) ∈ store.entries ↔ store.get? l = some entry := by
  unfold get?
  rw [if_neg hne, List.lookup_eq_some_iff]
  constructor
  · intro h
    obtain ⟨before, after, hsplit⟩ := List.append_of_mem h
    refine ⟨before, after, hsplit, fun other hother => ?_⟩
    have hnodup := htree.nodup
    rw [hsplit, List.map_append, List.nodup_append] at hnodup
    have := hnodup.2.2 other.1 (List.mem_map_of_mem hother) l (by simp)
    simpa using this.symm
  · rintro ⟨before, after, hsplit, -⟩
    rw [hsplit]
    simp

theorem namesTo?_eq_singleton_iff : location.namesTo? l = some [name] ↔ l = location.child name :=
  Location.namesTo?_eq_some_iff

/-- The name of an entry directly inside a location. -/
def nameIn? (location l : Location) : Option String :=
  match location.namesTo? l with
  | some [name] => some name
  | _ => none

theorem nameIn?_eq_some_iff : nameIn? location l = some name ↔ l = location.child name := by
  rw [← namesTo?_eq_singleton_iff]
  unfold nameIn?
  split
  · rename_i found h
    simp [h]
  · rename_i h
    simp only [reduceCtorEq, false_iff]
    exact fun he => h name he

theorem children_eq (store : FileStore) (location : Location) :
    store.children location = store.entries.filterMap fun entry =>
      (nameIn? location entry.1).map fun name => (name, entry.2) := by
  unfold children nameIn?
  refine List.filterMap_congr fun entry _ => ?_
  obtain ⟨l, e⟩ := entry
  dsimp only
  rcases location.namesTo? l with _ | _ | ⟨name, _ | ⟨next, names⟩⟩
  · rfl
  · rfl
  · rfl
  · rfl

theorem IsTree.mem_children_iff (htree : store.IsTree) :
    (name, entry) ∈ store.children location ↔ store.get? (location.child name) = some entry := by
  rw [← htree.mem_iff_get? (Location.names_child_ne_nil location name), children_eq,
    List.mem_filterMap]
  constructor
  · rintro ⟨⟨l, e⟩, hmem, h⟩
    obtain ⟨found, hfound, he⟩ := Option.map_eq_some_iff.1 h
    cases he
    rwa [← nameIn?_eq_some_iff.1 hfound]
  · intro h
    exact ⟨_, h, by rw [nameIn?_eq_some_iff.2 rfl]; rfl⟩

theorem IsTree.nodup_children (htree : store.IsTree) (location : Location) :
    ((store.children location).map (·.1)).Nodup := by
  have hnames : (store.children location).map (·.1) =
      (store.entries.map (·.1)).filterMap (nameIn? location) := by
    rw [children_eq, List.map_filterMap, List.filterMap_map]
    refine List.filterMap_congr fun entry _ => ?_
    simp only [Option.map_map, Function.comp_apply]
    exact Option.map_id'
  rw [hnames]
  refine htree.nodup.filterMap fun a a' b ha hb => ?_
  rw [nameIn?_eq_some_iff.1 ha, nameIn?_eq_some_iff.1 hb]

theorem IsTree.isName_of_get? (htree : store.IsTree)
    (h : store.get? (location.child name) = some entry) : IsName name := by
  rw [← htree.mem_iff_get? (Location.names_child_ne_nil location name)] at h
  exact htree.isName _ h name (by simp [Location.child])

/-- Whether a name in a directory leads to a file. -/
theorem isFile_child (hdir : store.isDirectory path = .ok true) (hname : IsName name)
    (hget : store.get? (path.location.child name) = some entry) :
    store.isFile (path.child name) =
      if maxPath < Text.Utf8.size (path.child name).toString then
        .error (.refused .nameTooLong (path.child name))
      else .ok (entry != .directory) := by
  have hlocate := locate_child hdir hname.ne_parent hname.null_not_mem
  unfold isFile
  by_cases hlong : maxPath < Text.Utf8.size (path.child name).toString
  · rw [if_pos (.inl hlong)] at hlocate
    rw [if_pos hlong]
    unfold status find
    rw [hlocate]
    rfl
  · rw [if_neg (not_or.2 ⟨hlong, Nat.not_lt.2 hname.size_le⟩)] at hlocate
    have hfind : store.find (path.child name) = .ok ((path.child name).location, entry) := by
      rw [Path.location_child path hname.ne_parent]
      exact find_eq_ok_iff.2 ⟨hlocate, hget⟩
    rw [if_neg hlong, status_eq_some_iff.2 hfind]
    cases entry with
    | file octets => rfl
    | directory => rfl

/-- `names` are the files directly inside a location, in order. -/
structure ListsFiles (store : FileStore) (location : Location) (names : List String) : Prop where
  sorted : names.Pairwise (· < ·)
  mem_iff : ∀ name, name ∈ names ↔
    ∃ octets, store.get? (location.child name) = some (.file octets)

theorem ListsFiles.unique {others : List String} (h : store.ListsFiles location names)
    (hothers : later.ListsFiles location others)
    (hsame : ∀ name octets, store.get? (location.child name) = some (.file octets) ↔
      later.get? (location.child name) = some (.file octets)) : others = names := by
  refine hothers.sorted.eq_of_mem_iff h.sorted fun name => ?_
  rw [hothers.mem_iff, h.mem_iff]
  simp only [hsame]

/-- The names of the files directly inside a location, in order. -/
def fileNames (store : FileStore) (location : Location) : List String :=
  (((store.children location).filter (·.2 != .directory)).map (·.1)).mergeSort (· ≤ ·)

theorem IsTree.listsFiles (htree : store.IsTree) (location : Location) :
    store.ListsFiles location (store.fileNames location) where
  sorted := by
    have hnodup : (store.fileNames location).Nodup := by
      refine (List.mergeSort_perm _ _).nodup_iff.2 ?_
      exact (htree.nodup_children location).sublist (List.filter_sublist.map _)
    have hsorted : (store.fileNames location).Pairwise (· ≤ ·) := by
      have h := @List.pairwise_mergeSort String (fun a b => decide (a ≤ b))
        (fun a b c hab hbc => by
          simpa using le_trans (of_decide_eq_true hab) (of_decide_eq_true hbc))
        (fun a b => by simpa using le_total a b)
        (((store.children location).filter (·.2 != .directory)).map (·.1))
      exact h.imp fun hab => of_decide_eq_true hab
    exact hsorted.imp₂ (fun a b hab hne => lt_of_le_of_ne hab hne) hnodup
  mem_iff := by
    intro name
    unfold fileNames
    rw [List.mem_mergeSort, List.mem_map]
    constructor
    · rintro ⟨⟨_, entry⟩, hmem, rfl⟩
      obtain ⟨hmem, hfile⟩ := List.mem_filter.1 hmem
      rw [htree.mem_children_iff] at hmem
      cases entry with
      | file octets => exact ⟨octets, hmem⟩
      | directory => cases hfile
    · rintro ⟨octets, h⟩
      exact ⟨_, List.mem_filter.2 ⟨htree.mem_children_iff.2 h, rfl⟩, rfl⟩

end FileStore

namespace SourceFiles

variable {store : FileStore} {directory : Path} {files : List Path}

/-- All paths of entries of a directory. -/
theorem select_everyName (hdir : store.isDirectory directory = .ok true) :
    Glob.select store Glob.everyName directory =
      .ok ((store.children directory.location).map fun child => directory.child child.1) := by
  obtain ⟨hlocate, -⟩ :=
    FileStore.find_eq_ok_iff.1 (FileStore.isDirectory_eq_true_iff.1 hdir)
  unfold Glob.select
  rw [hdir]
  show Glob.selectFrom store false [.matching [.anyRun]] directory = _
  have hall : (store.children directory.location).filter (fun child =>
      (!(false || !([] : List Glob.Selector).isEmpty) || child.2 == .directory) &&
        Glob.isMatch [.anyRun] child.1.toList) = store.children directory.location := by
    refine List.filter_eq_self.2 fun child _ => ?_
    rw [Glob.isMatch_anyRun]
    rfl
  have hmap : (store.children directory.location).mapM (fun child =>
      Glob.selectFrom store false [] (directory.child child.1)) =
      .ok ((store.children directory.location).map fun child => [directory.child child.1]) :=
    List.mapM_pure (m := Except FileStore.Fault)
  rw [Glob.selectFrom, hlocate]
  show (((store.children directory.location).filter _).mapM _ :
    Except FileStore.Fault (List (List Path))) >>= _ = _
  rw [hall, hmap]
  show Except.ok (List.flatten _) = _
  rw [← List.flatMap_def, ← List.map_eq_flatMap]

/-- Files are in the order of their names. -/
theorem inOrder_concat (segments : List String) (a b : String) :
    Path.inOrder (segments ++ [a]) (segments ++ [b]) = decide (a ≤ b) := by
  induction segments with
  | nil =>
    by_cases h : a = b
    · simp [Path.inOrder, h]
    · simp [Path.inOrder, h]
  | cons segment segments ih =>
    rw [List.cons_append, List.cons_append, Path.inOrder, if_pos rfl, ih]

theorem list_eq_of_isDirectory (hdir : store.isDirectory directory = .ok true) :
    list store directory "*" =
      ((filesAmong store ((store.children directory.location).map fun child =>
          directory.child child.1)).mapError fun fault =>
            Fault.source (.directoryUnreadable directory fault)).map fun files =>
        files.mergeSort fun a b => Path.inOrder a.segments b.segments := by
  unfold list
  rw [hdir, Glob.ofString_star]
  show ((Glob.select store Glob.everyName directory >>= filesAmong store).mapError _ >>= _) = _
  rw [select_everyName hdir]
  show ((filesAmong store _).mapError _ >>= _) = _
  cases filesAmong store _ with
  | error fault => rfl
  | ok files => rfl

theorem isDirectory_of_list {pattern : String} (h : list store directory pattern = .ok files) :
    store.isDirectory directory = .ok true := by
  unfold list at h
  obtain ⟨found, hfound, h⟩ := Outcome.bind_eq_ok_iff.1 h
  rw [Outcome.mapError_eq_ok_iff] at hfound
  cases found with
  | true => exact hfound
  | false => cases h

/-- The files among the entries of a directory, if no path is too long. -/
theorem filesAmong_children_eq_ok_iff (htree : store.IsTree)
    (hdir : store.isDirectory directory = .ok true) :
    filesAmong store ((store.children directory.location).map fun child =>
        directory.child child.1) = .ok files ↔
      (∀ name, (store.get? (directory.location.child name)).isSome →
        Text.Utf8.size (directory.child name).toString ≤ FileStore.maxPath) ∧
      files = ((store.children directory.location).filter (·.2 != .directory)).map fun child =>
        directory.child child.1 := by
  have hisFile : ∀ child ∈ store.children directory.location,
      store.isFile (directory.child child.1) =
        if FileStore.maxPath < Text.Utf8.size (directory.child child.1).toString then
          .error (.refused .nameTooLong (directory.child child.1))
        else .ok (child.2 != .directory) := by
    intro child hchild
    have hget := htree.mem_children_iff.1 hchild
    exact FileStore.isFile_child hdir (htree.isName_of_get? hget) hget
  have hshort : (∀ x ∈ (store.children directory.location).map fun child =>
        directory.child child.1, ∃ b, store.isFile x = .ok b) ↔
      ∀ name, (store.get? (directory.location.child name)).isSome →
        Text.Utf8.size (directory.child name).toString ≤ FileStore.maxPath := by
    rw [List.forall_mem_map]
    constructor
    · intro hall name hname
      obtain ⟨entry, hentry⟩ := Option.isSome_iff_exists.1 hname
      have hchild := htree.mem_children_iff.2 hentry
      obtain ⟨b, hb⟩ := hall _ hchild
      rw [hisFile _ hchild] at hb
      by_contra hlong
      rw [if_pos (Nat.not_le.1 hlong)] at hb
      cases hb
    · intro hall child hchild
      have hget := htree.mem_children_iff.1 hchild
      have hsize := hall child.1 (by rw [hget]; rfl)
      exact ⟨_, (hisFile child hchild).trans (if_neg (Nat.not_lt.2 hsize))⟩
  unfold filesAmong
  rw [Outcome.filterM_eq_ok_iff, hshort]
  refine and_congr_right fun hall => ?_
  rw [List.filter_map]
  have hsame : (store.children directory.location).filter
        ((fun x => Outcome.holds (store.isFile x)) ∘ fun child => directory.child child.1) =
      (store.children directory.location).filter (·.2 != .directory) := by
    refine List.filter_congr fun child hchild => ?_
    have hget := htree.mem_children_iff.1 hchild
    have hsize := hall child.1 (by rw [hget]; rfl)
    show Outcome.holds (store.isFile (directory.child child.1)) = _
    rw [hisFile child hchild, if_neg (Nat.not_lt.2 hsize)]
    rfl
  rw [hsame]

/-- When the files of a directory can be listed, and in which order. -/
theorem list_eq_ok_iff (htree : store.IsTree) : list store directory "*" = .ok files ↔
    store.isDirectory directory = .ok true ∧
      (∀ name, (store.get? (directory.location.child name)).isSome →
        Text.Utf8.size (directory.child name).toString ≤ FileStore.maxPath) ∧
      files = (store.fileNames directory.location).map directory.child := by
  have hsort : ∀ names : List String,
      (names.map directory.child).mergeSort (fun a b => Path.inOrder a.segments b.segments) =
        (names.mergeSort (· ≤ ·)).map directory.child := by
    intro names
    refine (List.map_mergeSort fun a _ b _ => ?_).symm
    exact (inOrder_concat directory.segments a b).symm
  by_cases hdir : store.isDirectory directory = .ok true
  · rw [list_eq_of_isDirectory hdir, Outcome.map_eq_ok_iff]
    simp only [Outcome.mapError_eq_ok_iff, filesAmong_children_eq_ok_iff htree hdir, hdir, true_and]
    constructor
    · rintro ⟨_, ⟨hall, rfl⟩, rfl⟩
      refine ⟨hall, ?_⟩
      unfold FileStore.fileNames
      rw [← hsort, List.map_map]
      rfl
    · rintro ⟨hall, rfl⟩
      refine ⟨_, ⟨hall, rfl⟩, ?_⟩
      unfold FileStore.fileNames
      rw [← hsort, List.map_map]
      rfl
  · exact iff_of_false (fun h => hdir (isDirectory_of_list h)) fun h => hdir h.1

/-- The paths of the files of a directory that can be listed lead to them. -/
theorem find_of_list {name : String} {entry : Entry} (htree : store.IsTree)
    (hlisted : list store directory "*" = .ok files)
    (hget : store.get? (directory.location.child name) = some entry) :
    store.find (directory.child name) = .ok ((directory.child name).location, entry) := by
  obtain ⟨hdir, hshort, -⟩ := (list_eq_ok_iff htree).1 hlisted
  have hname := htree.isName_of_get? hget
  have hsize := hshort name (by rw [hget]; rfl)
  have hlocate := FileStore.locate_child hdir hname.ne_parent hname.null_not_mem
  rw [if_neg (not_or.2 ⟨Nat.not_lt.2 hsize, Nat.not_lt.2 hname.size_le⟩)] at hlocate
  rw [Path.location_child _ hname.ne_parent]
  exact FileStore.find_eq_ok_iff.2 ⟨hlocate, hget⟩

/-- The files that are listed. -/
theorem exists_of_mem_list {source : Path} (htree : store.IsTree)
    (hlisted : list store directory "*" = .ok files) (hsource : source ∈ files) :
    ∃ name octets, source = directory.child name ∧
      store.get? (directory.location.child name) = some (.file octets) := by
  obtain ⟨-, -, rfl⟩ := (list_eq_ok_iff htree).1 hlisted
  obtain ⟨name, hname, rfl⟩ := List.mem_map.1 hsource
  obtain ⟨octets, hget⟩ := ((htree.listsFiles _).mem_iff name).1 hname
  exact ⟨name, octets, rfl, hget⟩

end SourceFiles

end StructSchema
