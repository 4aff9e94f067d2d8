import StructSchema.Proofs.StorePaths
import StructSchema.SourceFiles

/-!
# Making directories

Making a directory makes those above it that are missing, and nothing else:
`FileStore.makes_makeAbove`. So a prepared store has the directory and differs from the one before
it by directories on the way, `SourceFiles.makes_prepare`. Where the directory is there nothing is
made, `SourceFiles.prepare_of_isDirectory`.
-/

namespace StructSchema

namespace FileStore

variable {store later last : FileStore} {location l : Location} {path : Path} {entry : Entry}
  {root : String}

/-! ## Trees -/

/-- Every location of a store is listed once, by names that entries may have. -/
structure IsTree (store : FileStore) : Prop where
  nodup : (store.entries.map (·.1)).Nodup
  isName : ∀ entry ∈ store.entries, ∀ name ∈ entry.1.names, IsName name

instance (store : FileStore) : Decidable store.IsTree :=
  decidable_of_iff ((store.entries.map (·.1)).Nodup ∧
      ∀ entry ∈ store.entries, ∀ name ∈ entry.1.names, IsName name)
    ⟨fun h => ⟨h.1, h.2⟩, fun h => ⟨h.nodup, h.isName⟩⟩

theorem map_fst_setIn (location : Location) (entry : Entry) (entries : List (Location × Entry)) :
    (setIn location entry entries).map (·.1) =
      if location ∈ entries.map (·.1) then entries.map (·.1)
      else entries.map (·.1) ++ [location] := by
  induction entries with
  | nil => rfl
  | cons first rest ih =>
    obtain ⟨l, e⟩ := first
    by_cases h : location = l
    · simp [setIn, h]
    · rw [setIn, if_neg h, List.map_cons, List.map_cons, ih]
      simp only [List.mem_cons, h, false_or]
      split
      · rfl
      · rfl

theorem mem_setIn {location : Location} {entry : Entry} {entries : List (Location × Entry)}
    {found : Location × Entry} (h : found ∈ setIn location entry entries) :
    found = (location, entry) ∨ found ∈ entries := by
  induction entries with
  | nil => exact .inl (List.mem_singleton.1 h)
  | cons first rest ih =>
    obtain ⟨l, e⟩ := first
    rw [setIn] at h
    split at h
    · rename_i hl
      rcases List.mem_cons.1 h with rfl | h
      · exact .inl (by rw [hl])
      · exact .inr (List.mem_cons_of_mem _ h)
    · rcases List.mem_cons.1 h with rfl | h
      · exact .inr List.mem_cons_self
      · exact (ih h).imp_right (List.mem_cons_of_mem _)

/-- An entry at names that entries may have leaves a tree a tree. -/
theorem IsTree.set (htree : store.IsTree) (hnames : ∀ n ∈ location.names, IsName n)
    (entry : Entry) : (store.set location entry).IsTree where
  nodup := by
    unfold FileStore.set
    rw [map_fst_setIn]
    split
    · exact htree.nodup
    · rename_i hnew
      exact List.nodup_append.2 ⟨htree.nodup, List.pairwise_singleton _ _, fun a ha b hb he =>
        hnew (List.mem_singleton.1 hb ▸ he ▸ ha)⟩
  isName := by
    intro found hfound
    rcases mem_setIn hfound with rfl | hfound
    · exact hnames
    · exact htree.isName found hfound

theorem isName_of_locate (h : store.locate path = .ok l) : ∀ n ∈ l.names, IsName n := by
  obtain ⟨hnull, -, hwalk⟩ := locate_eq_ok_iff.1 h
  refine isName_of_walk hwalk (fun segment hs hn => hnull ?_) fun n hn => ?_
  · exact (Path.mem_toString_iff (by decide) (by decide)).2 (.inr ⟨segment, hs, hn⟩)
  · unfold start at hn
    split at hn
    · cases hn
    · cases hn

theorem makeDirectory_eq_ok_iff : store.makeDirectory path = .ok later ↔
    store.locate path = .ok path.location ∧ store.get? path.location = none ∧
      later = store.set path.location .directory := by
  unfold makeDirectory
  rw [Outcome.bind_eq_ok_iff]
  constructor
  · rintro ⟨l, hl, h⟩
    obtain rfl := eq_location_of_locate hl
    split at h
    · cases h
    · rename_i hnone
      cases h
      exact ⟨hl, hnone, rfl⟩
  · rintro ⟨hl, hnone, rfl⟩
    exact ⟨_, hl, by simp only [hnone]⟩

/-- `later` is `store` with directories made that lead toward a path. -/
def MadeToward (store later : FileStore) (path : Path) : Prop :=
  ∀ l, later.get? l = store.get? l ∨
    store.get? l = none ∧ later.get? l = some .directory ∧
      ∃ above, above <+: path.segments ∧ l = (⟨path.root, above⟩ : Path).location

theorem MadeToward.refl (store : FileStore) (path : Path) : store.MadeToward store path :=
  fun _ => .inl rfl

theorem MadeToward.keeps (h : store.MadeToward later path) : store.KeepsDirectories later := by
  intro l hl
  rcases h l with he | ⟨hnone, -⟩
  · rw [he, hl]
  · rw [hnone] at hl
    cases hl

theorem MadeToward.trans {above : Path} (h : store.MadeToward later above)
    (hlast : later.MadeToward last path) (hroot : above.root = path.root)
    (habove : above.segments <+: path.segments) : store.MadeToward last path := by
  intro l
  rcases hlast l with he | ⟨hnone, hdir, hway⟩
  · rw [he]
    refine (h l).imp_right fun ⟨hnone, hdir, names, hnames, hl⟩ => ?_
    exact ⟨hnone, hdir, names, hnames.trans habove, by rw [hl, hroot]⟩
  · rcases h l with he | ⟨-, hmade, -⟩
    · exact .inr ⟨by rw [← he, hnone], hdir, hway⟩
    · rw [hmade] at hnone
      cases hnone

theorem names_ne_nil_of_get? (h : store.get? l = none) : l.names ≠ [] := by
  intro hnames
  unfold get? at h
  rw [if_pos hnames] at h
  cases h

theorem madeToward_makeDirectory (h : store.makeDirectory path = .ok later) :
    store.MadeToward later path := by
  obtain ⟨-, hnone, rfl⟩ := makeDirectory_eq_ok_iff.1 h
  intro l
  rw [get?_set _ _ _ _ (names_ne_nil_of_get? hnone)]
  by_cases hl : l = path.location
  · rw [if_pos hl]
    exact .inr ⟨by rw [hl, hnone], rfl, path.segments, List.prefix_rfl, hl⟩
  · rw [if_neg hl]
    exact .inl rfl

theorem isDirectory_makeDirectory (h : store.makeDirectory path = .ok later) :
    later.isDirectory path = .ok true := by
  have hkeeps := (madeToward_makeDirectory h).keeps
  obtain ⟨hl, hnone, rfl⟩ := makeDirectory_eq_ok_iff.1 h
  obtain ⟨hnull, hsize, hwalk⟩ := locate_eq_ok_iff.1 hl
  refine isDirectory_eq_true_iff.2 (find_eq_ok_iff.2 ⟨?_, ?_⟩)
  · exact locate_eq_ok_iff.2 ⟨hnull, hsize, walk_of_keeps hkeeps hwalk⟩
  · rw [get?_set _ _ _ _ (names_ne_nil_of_get? hnone), if_pos rfl]

theorem IsTree.makeDirectory (htree : store.IsTree) (h : store.makeDirectory path = .ok later) :
    later.IsTree := by
  obtain ⟨hl, -, rfl⟩ := makeDirectory_eq_ok_iff.1 h
  exact htree.set (isName_of_locate hl) _

/-- A directory cannot be made where it is, and that is welcome. -/
theorem makeDirectory_of_isDirectory (h : store.isDirectory path = .ok true) :
    store.makeDirectory path = .error (.refused .occupied path) ∧
      store.acceptDirectory path (.refused .occupied path) = .ok () := by
  constructor
  · obtain ⟨hl, hget⟩ := find_eq_ok_iff.1 (isDirectory_eq_true_iff.1 h)
    unfold FileStore.makeDirectory
    simp only [hl, hget, bind, Except.bind]
  · unfold acceptDirectory
    rw [h]

theorem isDirectory_of_acceptDirectory {fault : Fault}
    (h : store.acceptDirectory path fault = .ok ()) : store.isDirectory path = .ok true := by
  unfold acceptDirectory at h
  split at h
  · cases h
  · split at h
    · assumption
    · cases h
    · cases h

/-! ## The directories above it -/

/-- What making a directory and those above it comes to. -/
structure Makes (store later : FileStore) (path : Path) (result : Except Fault Unit) : Prop where
  made : store.MadeToward later path
  tree : store.IsTree → later.IsTree
  isDirectory : result = .ok () → later.isDirectory path = .ok true

theorem makes_of_makeDirectory (h : store.makeDirectory path = .ok later) :
    store.Makes later path (.ok ()) :=
  ⟨madeToward_makeDirectory h, fun htree => htree.makeDirectory h,
    fun _ => isDirectory_makeDirectory h⟩

theorem makes_acceptDirectory (store : FileStore) (path : Path) (fault : Fault) :
    store.Makes store path (store.acceptDirectory path fault) :=
  ⟨.refl store path, id, isDirectory_of_acceptDirectory⟩

theorem Makes.after {above : Path} {first result : Except Fault Unit}
    (h : store.Makes later above first) (hlast : later.Makes last path result)
    (hroot : above.root = path.root) (habove : above.segments <+: path.segments) :
    store.Makes last path result :=
  ⟨h.made.trans hlast.made hroot habove, fun htree => hlast.tree (h.tree htree),
    hlast.isDirectory⟩

/-- What is made on the way to a directory, and the directory when nothing fails. -/
theorem makes_makeAbove (store : FileStore) (root : String) (reversed : List String) :
    store.Makes (store.makeAbove root reversed).1 ⟨root, reversed.reverse⟩
      (store.makeAbove root reversed).2 := by
  induction reversed generalizing store with
  | nil =>
    rw [makeAbove]
    split
    · rename_i later h
      exact makes_of_makeDirectory h
    · exact makes_acceptDirectory store _ _
  | cons segment above ih =>
    have hprefix : above.reverse <+: (segment :: above).reverse := by
      rw [List.reverse_cons]
      exact List.prefix_append _ _
    have habove := ih store
    rw [makeAbove]
    split
    · rename_i later h
      exact makes_of_makeDirectory h
    · split
      · rename_i later fault hfault
        rw [hfault] at habove
        exact ⟨habove.made.trans (.refl later _) rfl hprefix, habove.tree, fun h => by cases h⟩
      · rename_i later hlater
        rw [hlater] at habove
        split
        · rename_i last h
          exact habove.after (makes_of_makeDirectory h) rfl hprefix
        · exact habove.after (makes_acceptDirectory later _ _) rfl hprefix
    · exact makes_acceptDirectory store _ _

end FileStore

namespace SourceFiles

variable {store : FileStore} {directory : Path}

/-- A prepared directory. -/
theorem makes_prepare (store : FileStore) (directory : Path) :
    ∃ result, store.Makes (prepare store directory).store directory result ∧
      ((prepare store directory).result = .ok () → result = .ok ()) := by
  unfold prepare
  split
  · exact ⟨.error .nullCharacter, ⟨.refl store directory, id, fun h => by cases h⟩,
      fun h => by cases h⟩
  · refine ⟨(store.makeDirectories directory).2, ?_, fun h => Outcome.mapError_eq_ok_iff.1 h⟩
    have hmakes := FileStore.makes_makeAbove store directory.root directory.segments.reverse
    rwa [List.reverse_reverse] at hmakes

end SourceFiles

end StructSchema
