import StructSchema.CommandLine.Run

/-!
# The program

The command line on the files of the working directory. The directory is read into a store, the
run is made on the store, and what changed in the store is written back. Of what lies outside the
working directory the store holds what the arguments name, and of a directory its entries.
-/

namespace StructSchema

open CommandLine

/-- The lines of a block as they are printed. -/
def printedLines : Block → List String
  | .blank => [""]
  | .line markup => [markup]
  | .table title columns rows =>
    title :: String.intercalate "  " columns :: rows.map (String.intercalate "  ")
  | .panel markup title _ => [title, markup]
  | .code text => [text]

/-- Reads what stands at a location into a store, if anything does. -/
def readEntry (location : Location) (store : FileStore) : IO FileStore := do
  let place := (← IO.currentDir) / toString location
  if ← place.isDir then return store.set location .directory
  if ← place.pathExists then
    return store.set location (.file (← IO.FS.readBinFile place).toList)
  return store

/-- Reads the entries of a directory into a store. -/
def readChildren (location : Location) (store : FileStore) : IO FileStore := do
  let place := (← IO.currentDir) / toString location
  let mut store := store
  for found in ← place.readDir do
    store ← readEntry (location.child found.fileName) store
  return store

/-- Reads the entries of a directory and what is below them into a store. -/
partial def readBelow (location : Location) (store : FileStore) : IO FileStore := do
  let mut store ← readChildren location store
  for (name, entry) in store.children location do
    if entry = .directory then store ← readBelow (location.child name) store
  return store

/-- Reads what a path outside the working directory leads to into a store. -/
def readOutside (path : Path) (store : FileStore) : IO FileStore := do
  let mut store := store
  for count in [0:path.segments.length + 1] do
    if let .ok location := store.locate { path with segments := path.segments.take count } then
      if !location.isInside then
        if !location.names.isEmpty then store ← readEntry location store
        if count = path.segments.length ∧ store.get? location = some .directory then
          store ← readChildren location store
  return store

/-- The paths that arguments name. -/
def namedPaths (arguments : List String) : List Path :=
  match Options.ofArguments arguments with
  | .ok options =>
    [options.input, options.output, options.config].filterMap fun text => text.map Path.ofString
  | .error _ => []

/-- Writes an entry to its place. -/
def writeEntry (location : Location) (entry : Entry) : IO Unit :=
  match entry with
  | .directory => IO.FS.createDirAll (toString location)
  | .file octets => IO.FS.writeBinFile (toString location) ⟨octets.toArray⟩

/-- Prints how a run ended and gives the exit code. -/
def conclude : Ending → IO UInt32
  | .help => do
    IO.print helpText
    return 0
  | .mistake mistake => do
    IO.eprint (usageText mistake.message)
    return 2
  | .exit code => return code.toUInt32
  | .fault fault => do
    IO.eprintln s!"{fault.kind.label}: {fault.message}"
    return 1

end StructSchema

open StructSchema in
/-- Runs the command line in the working directory. -/
def main (arguments : List String) : IO UInt32 := do
  let mut before ← readBelow .here .empty
  for path in namedPaths arguments do before ← readOutside path before
  let run := CommandLine.run before arguments
  for record in run.records do IO.eprintln record.toString
  for block in run.printed do
    for line in printedLines block do IO.println line
  for (location, entry) in run.store.writtenSince before do writeEntry location entry
  conclude run.ending
