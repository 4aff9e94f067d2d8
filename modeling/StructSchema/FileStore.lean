import StructSchema.Fault.Kind
import StructSchema.Location
import StructSchema.Text.Quoted
import StructSchema.Text.Utf8

/-!
# File stores

A store holds files and directories. The working directory, those above it and the root are always
there. `FileStore.get?` is the view, and `get?_set` says what writing at a location does to it. A
path is followed segment by segment: every segment but the last has to lead into a directory, and
`..` leads back to the parent.
-/

namespace StructSchema

/-- A file with its octets, or a directory. -/
inductive Entry where
  | file (octets : List UInt8)
  | directory
  deriving DecidableEq, Repr

/-- Files and directories by their locations. -/
structure FileStore where
  entries : List (Location × Entry)
  deriving Repr

namespace FileStore

/-- Why an access fails. -/
inductive Cause where
  | missing
  | occupied
  | notDirectory
  | isDirectory
  | nameTooLong
  deriving DecidableEq, Repr

/-- The number of a cause. -/
def Cause.number : Cause → Nat
  | .missing => 2
  | .occupied => 17
  | .notDirectory => 20
  | .isDirectory => 21
  | .nameTooLong => 36

/-- The wording of a cause. -/
def Cause.text : Cause → String
  | .missing => "No such file or directory"
  | .occupied => "File exists"
  | .notDirectory => "Not a directory"
  | .isDirectory => "Is a directory"
  | .nameTooLong => "File name too long"

/-- A failed access. -/
inductive Fault where
  | refused (cause : Cause) (path : Path)
  | nullCharacter
  deriving DecidableEq, Repr

/-- The wording of a failed access. -/
def Fault.message : Fault → String
  | .refused cause path => s!"[Errno {cause.number}] {cause.text}: {Text.quote path.toString}"
  | .nullCharacter => "embedded null byte"

/-- The kind of fault that a failed access is. -/
def Fault.kind : Fault → StructSchema.Fault.Kind
  | .refused .missing _ => .fileMissing
  | .refused .occupied _ => .fileExists
  | .refused .notDirectory _ => .notDirectory
  | .refused .isDirectory _ => .isDirectory
  | .refused .nameTooLong _ => .system
  | .nullCharacter => .value

/-- The store without entries. -/
def empty : FileStore := ⟨[]⟩

/-- The entry at a location; where locations begin there are always directories. -/
def get? (store : FileStore) (location : Location) : Option Entry :=
  if location.names = [] then some .directory else store.entries.lookup location

/-- The entries with `entry` at a location, in place when the location is taken. -/
def setIn (location : Location) (entry : Entry) : List (Location × Entry) → List (Location × Entry)
  | [] => [(location, entry)]
  | (l, e) :: rest =>
    if location = l then (l, entry) :: rest else (l, e) :: setIn location entry rest

/-- The store with an entry at a location. -/
def set (store : FileStore) (location : Location) (entry : Entry) : FileStore :=
  ⟨setIn location entry store.entries⟩

theorem lookup_setIn (entries : List (Location × Entry)) (location l : Location) (entry : Entry) :
    (setIn location entry entries).lookup l =
      if l = location then some entry else entries.lookup l := by
  induction entries with
  | nil =>
    by_cases h : l = location
    · simp [setIn, h]
    · have hb : (l == location) = false := beq_false_of_ne h
      simp [setIn, List.lookup_cons, h, hb]
  | cons e rest ih =>
    obtain ⟨k, v⟩ := e
    by_cases h : location = k
    · subst h
      by_cases hl : l = location
      · simp [setIn, hl]
      · have hb : (l == location) = false := beq_false_of_ne hl
        simp [setIn, List.lookup_cons, hl, hb]
    · by_cases hl : l = k
      · subst hl
        simp [setIn, h, Ne.symm h]
      · have hb : (l == k) = false := beq_false_of_ne hl
        simp [setIn, List.lookup_cons, h, hb, ih]

/-- Writing at a location changes the entry there and no other. -/
theorem get?_set (store : FileStore) (location l : Location) (entry : Entry)
    (h : location.names ≠ []) :
    (store.set location entry).get? l =
      if l = location then some entry else store.get? l := by
  by_cases hl : l.names = []
  · have hne : l ≠ location := fun he => h (he ▸ hl)
    simp [get?, hl, hne]
  · simp [get?, set, hl, lookup_setIn]

/-- The longest name, in octets. -/
def maxName : Nat := 255

/-- The longest path, in octets. -/
def maxPath : Nat := 4095

/-- Follows segments from a location; the last one need not be there. -/
def walk (store : FileStore) (here : Location) : List String → Except Cause Location
  | [] => .ok here
  | segment :: rest =>
    match store.get? here with
    | none => .error .missing
    | some (.file _) => .error .notDirectory
    | some .directory =>
      if segment = ".." then walk store here.parent rest
      else if maxName < Text.Utf8.size segment then .error .nameTooLong
      else walk store (here.child segment) rest

/-- The location that a path is followed from. -/
def start (path : Path) : Location := if path.root = "" then .here else .root

/-- The location of a path. -/
def locate (store : FileStore) (path : Path) : Except Fault Location :=
  let text := path.toString
  if text.contains '\x00' then .error .nullCharacter
  else if maxPath < Text.Utf8.size text then .error (.refused .nameTooLong path)
  else (store.walk (start path) path.segments).mapError (.refused · path)

/-- The location and the entry of a path. -/
def find (store : FileStore) (path : Path) : Except Fault (Location × Entry) := do
  let location ← store.locate path
  match store.get? location with
  | some entry => .ok (location, entry)
  | none => .error (.refused .missing path)

/-- The entry of a path, if it leads to one. A name that is too long is refused here too. -/
def status (store : FileStore) (path : Path) : Except Fault (Option Entry) :=
  match store.find path with
  | .ok (_, entry) => .ok (some entry)
  | .error (.refused .nameTooLong path) => .error (.refused .nameTooLong path)
  | .error _ => .ok none

/-- Whether a path leads to an entry. -/
def isPresent (store : FileStore) (path : Path) : Except Fault Bool :=
  (store.status path).map (·.isSome)

/-- Whether a path leads to a directory. -/
def isDirectory (store : FileStore) (path : Path) : Except Fault Bool :=
  (store.status path).map (· == some .directory)

/-- Whether a path leads to a file. -/
def isFile (store : FileStore) (path : Path) : Except Fault Bool :=
  (store.status path).map fun
    | some (.file _) => true
    | _ => false

/-- The octets of a file. -/
def read (store : FileStore) (path : Path) : Except Fault (List UInt8) := do
  match ← store.find path with
  | (_, .file octets) => .ok octets
  | (_, .directory) => .error (.refused .isDirectory path)

/-- The store with `octets` in the file of a path, which is made if it is not there. -/
def write (store : FileStore) (path : Path) (octets : List UInt8) : Except Fault FileStore := do
  let location ← store.locate path
  match store.get? location with
  | some .directory => .error (.refused .isDirectory path)
  | _ => .ok (store.set location (.file octets))

/-- The store with a new directory; its parent has to be there. -/
def makeDirectory (store : FileStore) (path : Path) : Except Fault FileStore := do
  let location ← store.locate path
  match store.get? location with
  | some _ => .error (.refused .occupied path)
  | none => .ok (store.set location .directory)

/-- What a failed making of a directory comes to: a directory that is there is welcome. -/
def acceptDirectory (store : FileStore) (path : Path) (fault : Fault) : Except Fault Unit :=
  match fault with
  | .nullCharacter => .error fault
  | .refused .. =>
    match store.isDirectory path with
    | .ok true => .ok ()
    | .ok false => .error fault
    | .error fault => .error fault

/-- Makes the directory that reversed segments lead to, and before it those above it that are
missing. What was made stays made when a later one fails. -/
def makeAbove (store : FileStore) (root : String) : List String → FileStore × Except Fault Unit
  | [] =>
    match store.makeDirectory ⟨root, []⟩ with
    | .ok store => (store, .ok ())
    | .error fault => (store, store.acceptDirectory ⟨root, []⟩ fault)
  | segment :: above =>
    let path : Path := ⟨root, (segment :: above).reverse⟩
    match store.makeDirectory path with
    | .ok store => (store, .ok ())
    | .error (.refused .missing _) =>
      match makeAbove store root above with
      | (store, .error fault) => (store, .error fault)
      | (store, .ok ()) =>
        match store.makeDirectory path with
        | .ok store => (store, .ok ())
        | .error fault => (store, store.acceptDirectory path fault)
    | .error fault => (store, store.acceptDirectory path fault)

/-- Makes the directory of a path and those above it that are missing. -/
def makeDirectories (store : FileStore) (path : Path) : FileStore × Except Fault Unit :=
  store.makeAbove path.root path.segments.reverse

/-- The names and entries of a directory. -/
def children (store : FileStore) (location : Location) : List (String × Entry) :=
  store.entries.filterMap fun (l, entry) =>
    match location.namesTo? l with
    | some [name] => some (name, entry)
    | _ => none

/-- The names that lead down from a location to the directories below it; those of the location
itself, which are none, come first. -/
def directoriesBelow (store : FileStore) (location : Location) : List (List String) :=
  [] :: store.entries.filterMap fun (l, entry) =>
    match entry, location.namesTo? l with
    | .directory, some (name :: names) => some (name :: names)
    | _, _ => none

/-- The entries that are new or changed since `before`. -/
def writtenSince (store before : FileStore) : List (Location × Entry) :=
  store.entries.filter fun (l, entry) => before.get? l ≠ some entry

/-- The locations that are gone since `before`. -/
def removedSince (store before : FileStore) : List Location :=
  (before.entries.map (·.1)).filter fun l => (store.get? l).isNone

end FileStore

end StructSchema
