import Mathlib.Data.List.Basic
import Mathlib.Tactic.SplitIfs
import StructSchema.FileStore
import StructSchema.Proofs.CharClasses
import StructSchema.Proofs.Outcome

/-!
# Where paths lead

There are no links in a store, so a path leads to one location whatever the store holds:
`Path.location`. A path that can be followed leads there, `FileStore.find_eq_ok_iff`, and still does
when the store has gained entries but kept its directories, `FileStore.find_of_keeps`. Of a file in
a directory that is there, `FileStore.write_child` says what stands in its way.
-/

namespace StructSchema

/-! ## Locations -/

namespace Location

variable {location other : Location} {name : String}

/-- The location at the end of segments, whatever is there. -/
def follow (location : Location) (segments : List String) : Location :=
  segments.foldl
    (fun here segment => if segment = ".." then here.parent else here.child segment) location

@[simp] theorem follow_nil (location : Location) : location.follow [] = location := rfl

theorem follow_cons (location : Location) (segment : String) (segments : List String) :
    location.follow (segment :: segments) =
      (if segment = ".." then location.parent else location.child segment).follow segments := rfl

theorem follow_append (location : Location) (segments more : List String) :
    location.follow (segments ++ more) = (location.follow segments).follow more :=
  List.foldl_append

theorem child_inj {a b : String} : location.child a = other.child b ↔ location = other ∧ a = b := by
  constructor
  · intro h
    have hparent := congrArg parent h
    rw [parent_child, parent_child] at hparent
    subst hparent
    have hnames := congrArg names h
    exact ⟨rfl, by simpa [child] using hnames⟩
  · rintro ⟨rfl, rfl⟩
    rfl

theorem names_child_ne_nil (location : Location) (name : String) :
    (location.child name).names ≠ [] := by
  simp [child]

end Location

/-! ## Paths -/

namespace Path

/-- The location to which a path leads, whatever is there. -/
def location (path : Path) : Location := (FileStore.start path).follow path.segments

theorem location_child (path : Path) {name : String} (hname : name ≠ "..") :
    (path.child name).location = path.location.child name := by
  have hstart : FileStore.start (path.child name) = FileStore.start path := rfl
  unfold location
  rw [hstart]
  unfold child
  rw [Location.follow_append, Location.follow_cons, if_neg hname, Location.follow_nil]

theorem child_inj {path : Path} {a b : String} : path.child a = path.child b ↔ a = b := by
  unfold child
  simp

/-- The characters of a path, but for points and slashes. -/
theorem mem_toString_iff {path : Path} {c : Char} (hslash : c ≠ '/') (hpoint : c ≠ '.') :
    c ∈ path.toString.toList ↔
      c ∈ path.root.toList ∨ ∃ segment ∈ path.segments, c ∈ segment.toList := by
  have hseparator : c ∉ "/".toList := by simpa using hslash
  have hsegments := mem_intercalate_iff hseparator path.segments
  unfold Path.toString
  split
  · rename_i hhere
    rw [Bool.and_eq_true, beq_iff_eq, List.isEmpty_iff] at hhere
    simp [hhere, hpoint]
  · rw [String.toList_append, List.mem_append, hsegments]

end Path

namespace FileStore

variable {store later : FileStore} {here l : Location} {path : Path} {segments : List String}
  {name : String} {entry : Entry} {octets : List UInt8}

/-! ## Following -/

theorem walk_cons (hhere : store.get? here = some .directory) (segment : String)
    (segments : List String) :
    store.walk here (segment :: segments) =
      if segment = ".." then store.walk here.parent segments
      else if maxName < Text.Utf8.size segment then .error .nameTooLong
      else store.walk (here.child segment) segments := by
  rw [walk]
  simp only [hhere]

/-- What is followed is a directory. -/
theorem get?_of_walk_cons {segment : String} (h : store.walk here (segment :: segments) = .ok l) :
    store.get? here = some .directory := by
  rw [walk] at h
  split at h
  · cases h
  · cases h
  · assumption

/-- Segments that can be followed lead where they lead. -/
theorem eq_follow_of_walk (h : store.walk here segments = .ok l) : l = here.follow segments := by
  induction segments generalizing here with
  | nil => cases h; rfl
  | cons segment segments ih =>
    rw [walk_cons (get?_of_walk_cons h)] at h
    rw [Location.follow_cons]
    split_ifs at h ⊢
    · exact ih h
    · exact ih h

/-- A directory that is followed to its end. -/
theorem walk_append (h : store.walk here segments = .ok l) (more : List String) :
    store.walk here (segments ++ more) = store.walk l more := by
  induction segments generalizing here with
  | nil => cases h; rfl
  | cons segment segments ih =>
    have hhere := get?_of_walk_cons h
    rw [walk_cons hhere] at h
    rw [List.cons_append, walk_cons hhere]
    split_ifs at h ⊢
    · exact ih h
    · exact ih h

/-- `later` has the directories of `store`. -/
def KeepsDirectories (store later : FileStore) : Prop :=
  ∀ l, store.get? l = some .directory → later.get? l = some .directory

theorem walk_of_keeps (hkeeps : store.KeepsDirectories later)
    (h : store.walk here segments = .ok l) : later.walk here segments = .ok l := by
  induction segments generalizing here with
  | nil => exact h
  | cons segment segments ih =>
    have hhere := get?_of_walk_cons h
    rw [walk_cons hhere] at h
    rw [walk_cons (hkeeps here hhere)]
    split_ifs at h ⊢
    · exact ih h
    · exact ih h

/-- What a name of an entry has to be. -/
structure IsName (name : String) : Prop where
  ne_parent : name ≠ ".."
  null_not_mem : '\x00' ∉ name.toList
  size_le : Text.Utf8.size name ≤ maxName

instance (name : String) : Decidable (IsName name) :=
  decidable_of_iff (name ≠ ".." ∧ '\x00' ∉ name.toList ∧ Text.Utf8.size name ≤ maxName)
    ⟨fun h => ⟨h.1, h.2.1, h.2.2⟩, fun h => ⟨h.ne_parent, h.null_not_mem, h.size_le⟩⟩

/-- Following from names leads to names. -/
theorem isName_of_walk (h : store.walk here segments = .ok l)
    (hnull : ∀ segment ∈ segments, '\x00' ∉ segment.toList) (hhere : ∀ n ∈ here.names, IsName n) :
    ∀ n ∈ l.names, IsName n := by
  induction segments generalizing here with
  | nil => cases h; exact hhere
  | cons segment segments ih =>
    rw [List.forall_mem_cons] at hnull
    rw [walk_cons (get?_of_walk_cons h)] at h
    split_ifs at h with hparent hlong
    · refine ih h hnull.2 fun n hn => hhere n ?_
      unfold Location.parent at hn
      split at hn
      · cases hn
      · exact hn
      · exact (List.dropLast_sublist _).subset hn
    · refine ih h hnull.2 fun n hn => ?_
      rcases List.mem_append.1 hn with hn | hn
      · exact hhere n hn
      · rw [List.mem_singleton.1 hn]
        exact ⟨hparent, hnull.1, by omega⟩

/-- The paths that can be followed. -/
theorem locate_eq_ok_iff : store.locate path = .ok l ↔
    '\x00' ∉ path.toString.toList ∧ Text.Utf8.size path.toString ≤ maxPath ∧
      store.walk (start path) path.segments = .ok l := by
  unfold locate
  simp only [String.contains_char_eq, decide_eq_true_eq]
  by_cases hnull : '\x00' ∈ path.toString.toList
  · simp [hnull]
  rw [if_neg hnull]
  by_cases hlong : maxPath < Text.Utf8.size path.toString
  · rw [if_pos hlong]
    simp [Nat.not_le.2 hlong]
  · rw [if_neg hlong, Outcome.mapError_eq_ok_iff]
    simp [hnull, Nat.not_lt.1 hlong]

theorem eq_location_of_locate (h : store.locate path = .ok l) : l = path.location :=
  eq_follow_of_walk (locate_eq_ok_iff.1 h).2.2

theorem find_eq_ok_iff : store.find path = .ok (l, entry) ↔
    store.locate path = .ok l ∧ store.get? l = some entry := by
  unfold find
  rw [Outcome.bind_eq_ok_iff]
  constructor
  · rintro ⟨found, hl, h⟩
    split at h
    · rename_i e he
      cases h
      exact ⟨hl, he⟩
    · cases h
  · rintro ⟨hl, he⟩
    exact ⟨l, hl, by simp only [he]⟩

theorem read_of_find (h : store.find path = .ok (l, .file octets)) :
    store.read path = .ok octets := by
  unfold read
  rw [h]
  rfl

theorem status_eq_some_iff : store.status path = .ok (some entry) ↔
    store.find path = .ok (path.location, entry) := by
  unfold status
  constructor
  · intro h
    split at h
    · rename_i found e hfind
      cases h
      rw [hfind, eq_location_of_locate (find_eq_ok_iff.1 hfind).1]
    · cases h
    · cases h
  · intro h
    rw [h]

theorem isDirectory_eq_true_iff : store.isDirectory path = .ok true ↔
    store.find path = .ok (path.location, .directory) := by
  rw [← status_eq_some_iff]
  unfold isDirectory
  rcases store.status path with fault | _ | _ | _
  · simp [Except.map]
  · simp [Except.map]
  · simp [Except.map]
  · simp [Except.map]

/-- What is found is found when entries are gained. -/
theorem find_of_keeps (hkeeps : store.KeepsDirectories later)
    (hentry : later.get? path.location = some entry)
    (h : store.find path = .ok (path.location, entry)) :
    later.find path = .ok (path.location, entry) := by
  obtain ⟨hl, -⟩ := find_eq_ok_iff.1 h
  obtain ⟨hnull, hsize, hwalk⟩ := locate_eq_ok_iff.1 hl
  exact find_eq_ok_iff.2 ⟨locate_eq_ok_iff.2 ⟨hnull, hsize, walk_of_keeps hkeeps hwalk⟩, hentry⟩

theorem isDirectory_of_keeps (hkeeps : store.KeepsDirectories later)
    (h : store.isDirectory path = .ok true) : later.isDirectory path = .ok true := by
  rw [isDirectory_eq_true_iff] at h ⊢
  exact find_of_keeps hkeeps (hkeeps _ (find_eq_ok_iff.1 h).2) h

/-! ## Names in a directory -/

/-- A name in a directory, if the path to it is not too long. -/
theorem locate_child (hdir : store.isDirectory path = .ok true) (hname : name ≠ "..")
    (hnull : '\x00' ∉ name.toList) :
    store.locate (path.child name) =
      if maxPath < Text.Utf8.size (path.child name).toString ∨ maxName < Text.Utf8.size name then
        .error (.refused .nameTooLong (path.child name))
      else .ok (path.location.child name) := by
  obtain ⟨hlocate, hget⟩ := find_eq_ok_iff.1 (isDirectory_eq_true_iff.1 hdir)
  obtain ⟨hpath, -, hwalk⟩ := locate_eq_ok_iff.1 hlocate
  have hfree : '\x00' ∉ (path.child name).toString.toList := by
    rw [Path.mem_toString_iff (by decide) (by decide)] at hpath ⊢
    unfold Path.child
    simpa [hnull, or_imp, forall_and] using hpath
  unfold locate
  simp only [String.contains_char_eq, decide_eq_true_eq]
  rw [if_neg hfree]
  by_cases hlong : maxPath < Text.Utf8.size (path.child name).toString
  · rw [if_pos hlong, if_pos (.inl hlong)]
  · have hsegments : store.walk (start path) (path.segments ++ [name]) = _ :=
      walk_append hwalk [name]
    rw [if_neg hlong]
    show (store.walk (start path) (path.segments ++ [name])).mapError _ = _
    rw [hsegments, walk_cons hget, if_neg hname]
    by_cases hsize : maxName < Text.Utf8.size name
    · rw [if_pos hsize, if_pos (.inr hsize)]
      rfl
    · rw [if_neg hsize, if_neg (not_or.2 ⟨hlong, hsize⟩)]
      rfl

/-- What stands in the way of a file of a name in a directory. -/
def obstacle? (store : FileStore) (path : Path) (name : String) : Option Cause :=
  if maxPath < Text.Utf8.size (path.child name).toString ∨ maxName < Text.Utf8.size name then
    some .nameTooLong
  else if store.get? (path.location.child name) = some .directory then some .isDirectory
  else none

theorem obstacle?_eq_none_iff : store.obstacle? path name = none ↔
    Text.Utf8.size (path.child name).toString ≤ maxPath ∧ Text.Utf8.size name ≤ maxName ∧
      store.get? (path.location.child name) ≠ some .directory := by
  unfold obstacle?
  split
  · rename_i hlong
    exact iff_of_false nofun fun h => by omega
  · rename_i hshort
    split
    · rename_i hdir
      exact iff_of_false nofun fun h => h.2.2 hdir
    · rename_i hdir
      exact iff_of_true rfl ⟨by omega, by omega, hdir⟩

/-- Writing a file into a directory that is there. -/
theorem write_child (hdir : store.isDirectory path = .ok true) (hname : name ≠ "..")
    (hnull : '\x00' ∉ name.toList) (octets : List UInt8) :
    store.write (path.child name) octets =
      match store.obstacle? path name with
      | some cause => .error (.refused cause (path.child name))
      | none => .ok (store.set (path.location.child name) (.file octets)) := by
  unfold write obstacle?
  rw [locate_child hdir hname hnull]
  split
  · rfl
  · cases hget : store.get? (path.location.child name) with
    | none => simp [bind, Except.bind, hget]
    | some entry =>
      cases entry with
      | file octets => simp [bind, Except.bind, hget]
      | directory => simp [bind, Except.bind, hget]

end FileStore

end StructSchema
