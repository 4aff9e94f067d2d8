import StructSchema.Fault
import StructSchema.Journal

/-!
# Source files

The files of a directory, the text of a file, and the directory for what is generated. A failure of
one of these is reported to the journal in the words of the fault: `failureRecords`.
-/

namespace StructSchema.SourceFiles

/-- The records of a failure to list, load or prepare. Other faults are not reported here. -/
def failureRecords : Fault → List Journal.Record
  | .source fault => [Journal.error fault.message]
  | .output path fault => [Journal.error (Fault.output path fault).message]
  | _ => []

/-- The records of a step that may have failed. -/
def records : Except Fault α → List Journal.Record
  | .ok _ => []
  | .error fault => failureRecords fault

/-- The paths among `paths` that lead to files. -/
def filesAmong (store : FileStore) (paths : List Path) : Except FileStore.Fault (List Path) :=
  paths.filterM fun path => store.isFile path

/-- The files that a pattern selects below a directory, in the order of their segments. -/
def list (store : FileStore) (directory : Path) (pattern : String) : Except Fault (List Path) := do
  if !(← (store.isDirectory directory).mapError Fault.store) then
    throw (.source (.directoryMissing directory))
  let pattern ← (Glob.Pattern.ofString pattern).mapError Fault.glob
  let found := do filesAmong store (← Glob.select store pattern directory)
  let files ← found.mapError fun fault => .source (.directoryUnreadable directory fault)
  .ok (files.mergeSort fun a b => Path.inOrder a.segments b.segments)

/-- The text of a file, with its line ends as line feeds. -/
def load (store : FileStore) (path : Path) : Except Fault String := do
  let octets ← (store.read path).mapError fun
    | .nullCharacter => Fault.store .nullCharacter
    | fault => Fault.source (.unreadable path fault)
  match Text.Utf8.decode octets with
  | .ok text => .ok (String.ofList (Text.unifyLineEnds text))
  | .error _ => .error (.source (.notText path))

/-- What comes of preparing a directory: the store after it, the records, and the result. -/
structure Preparation where
  store : FileStore
  records : List Journal.Record
  result : Except Fault Unit

/-- Makes a directory and those above it that are missing. -/
def prepare (store : FileStore) (directory : Path) : Preparation :=
  match store.isPresent directory with
  | .error fault => ⟨store, [], .error (.store fault)⟩
  | .ok present =>
    let (made, result) := store.makeDirectories directory
    let result := result.mapError fun
      | .nullCharacter => Fault.store .nullCharacter
      | fault => Fault.output directory fault
    let creating :=
      if present then [] else [Journal.info s!"Creating output directory {directory}"]
    ⟨made, creating ++ SourceFiles.records result, result⟩

end StructSchema.SourceFiles
