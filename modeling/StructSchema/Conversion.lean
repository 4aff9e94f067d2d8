import StructSchema.Generator
import StructSchema.SourceFiles

/-!
# Conversion of a directory

Every file of the input directory is loaded and its declarations are generated and written one by
one. Each file and each declaration has an outcome of its own, so a failure stops nothing but
itself. A file name is claimed by the first declaration that is written to it; a later one that
comes to the same name is refused.
-/

namespace StructSchema

/-- How the conversion of a file or declaration ended. -/
inductive OutcomeStatus where
  | success
  | skipped
  | failed
  deriving DecidableEq, Repr

/-- The name of a status. -/
def OutcomeStatus.label : OutcomeStatus → String
  | .success => "success"
  | .skipped => "skipped"
  | .failed => "failed"

/-- What came of a file, or of one declaration in it. -/
structure Outcome where
  source : Path
  status : OutcomeStatus
  structName : Option String := none
  outputPath : Option Path := none
  message : Option String := none
  warnings : List String := []
  code : Option String := none
  deriving DecidableEq, Repr

/-- What came of a conversion. -/
structure Report where
  outcomes : List Outcome
  deriving DecidableEq, Repr

namespace Report

/-- The outcomes of a status. -/
def withStatus (report : Report) (status : OutcomeStatus) : List Outcome :=
  report.outcomes.filter (·.status = status)

/-- The number of outcomes of a status. -/
def count (report : Report) (status : OutcomeStatus) : Nat := (report.withStatus status).length

/-- Whether nothing failed. -/
def isOk (report : Report) : Bool := (report.withStatus .failed).isEmpty

end Report

/-- What a conversion is asked to do. -/
structure Conversion where
  generator : Generator
  input : Path
  output : Path
  everyStruct : Bool
  dryRun : Bool

namespace Conversion

/-- A conversion in progress: the store, the records so far, the files by which names are claimed,
and the outcomes so far. -/
structure Progress where
  store : FileStore
  records : List Journal.Record
  claimed : Dictionary Path
  outcomes : List Outcome

namespace Progress

/-- Adds records. -/
def log (progress : Progress) (records : List Journal.Record) : Progress :=
  { progress with records := progress.records ++ records }

/-- Adds an outcome. -/
def conclude (progress : Progress) (outcome : Outcome) : Progress :=
  { progress with outcomes := progress.outcomes ++ [outcome] }

/-- Notes that a name is claimed by a file. -/
def claim (progress : Progress) (name : String) (source : Path) : Progress :=
  { progress with claimed := progress.claimed.insert name source }

end Progress

/-- The octets of a text as it is written. -/
def octetsOf (text : String) : List UInt8 := Text.Utf8.encode text.toList

/-- The wording of a name that is claimed already. -/
def collision (outputFile structName : String) (owner : Path) : String :=
  s!"Output {outputFile} for struct {structName} collides with {owner}; not written"

/-- The wording of an unforeseen fault. -/
def unforeseen (fault : Fault) : String := s!"{fault.kind.label}: {fault.message}"

/-- The path to which an artifact is written. -/
def outputPath (conversion : Conversion) (made : Artifact) : Path :=
  conversion.output.join (Path.ofString made.outputFile)

/-- Writes an artifact, unless nothing is to be written. -/
def write (conversion : Conversion) (store : FileStore) (made : Artifact) :
    Except FileStore.Fault FileStore :=
  if conversion.dryRun then .ok store
  else store.write (conversion.outputPath made) (octetsOf made.code)

/-- The end of a declaration whose artifact was written. -/
def succeed (conversion : Conversion) (progress : Progress) (source : Path) (made : Artifact) :
    Progress :=
  let path := conversion.outputPath made
  let saved := if conversion.dryRun then [] else [Journal.info s!"Saved to dest dir: {path}"]
  ((progress.log saved).claim made.outputFile source).conclude
    { source, status := .success, structName := made.structName, outputPath := path,
      warnings := made.warnings, code := made.code }

/-- The end of a declaration that failed with an artifact, or without one. -/
def fail (progress : Progress) (source : Path) (structName message : String)
    (warnings : List String) : Progress :=
  progress.conclude { source, status := .failed, structName, message, warnings }

/-- Converts one declaration. The fault of a path that no store can hold ends the whole file. -/
def convertBlock (conversion : Conversion) (source : Path) (progress : Progress)
    (block : StructBlock) : Except (Progress × Fault) Progress :=
  match conversion.generator.generate block.name block.body with
  | .error failure =>
    .ok (fail (progress.log [Journal.error s!"{source}: {failure.message}"]) source block.name
      failure.message [])
  | .ok made =>
    let progress := progress.log (made.warnings.map fun w => Journal.warning s!"{source}: {w}")
    match progress.claimed.get? made.outputFile with
    | some owner =>
      let message := collision made.outputFile block.name owner
      .ok (fail (progress.log [Journal.error message]) source block.name message made.warnings)
    | none =>
      match conversion.write progress.store made with
      | .ok store => .ok (conversion.succeed { progress with store } source made)
      | .error .nullCharacter => .error (progress, .store .nullCharacter)
      | .error fault =>
        let message := s!"Failed to write {conversion.outputPath made}: {fault.message}"
        .ok (fail (progress.log [Journal.error message]) source block.name message made.warnings)

/-- The end of a file that could not be converted to its end. -/
def abandon (source : Path) (progress : Progress) (fault : Fault) : Progress :=
  (progress.log [Journal.error s!"Unexpected failure converting {source}"]).conclude
    { source, status := .failed, message := unforeseen fault }

/-- Converts one file. -/
def convertFile (conversion : Conversion) (progress : Progress) (source : Path) : Progress :=
  let progress := progress.log [Journal.info s!"Parsing: {source}"]
  match SourceFiles.load progress.store source with
  | .error (.source fault) =>
    (progress.log (SourceFiles.failureRecords (.source fault))).conclude
      { source, status := .failed, message := fault.message }
  | .error fault => abandon source progress fault
  | .ok text =>
    match StructBlock.select text conversion.everyStruct with
    | [] =>
      progress.conclude
        { source, status := .skipped, message := "no struct definition found" }
    | blocks =>
      match blocks.foldlM (conversion.convertBlock source) progress with
      | .ok progress => progress
      | .error (progress, fault) => abandon source progress fault

/-- What came of a run: the store after it, the records, and the report or the fault that ended
it. -/
structure Run where
  store : FileStore
  records : List Journal.Record
  result : Except Fault Report

/-- The record of what came of a conversion. -/
def summaryRecord (report : Report) : Journal.Record :=
  Journal.info (s!"Converted {report.count .success}, skipped {report.count .skipped}, "
    ++ s!"failed {report.count .failed}")

/-- Prepares the output directory, unless nothing is to be written. -/
def prepare (conversion : Conversion) (store : FileStore) : SourceFiles.Preparation :=
  if conversion.dryRun then ⟨store, [], .ok ()⟩
  else SourceFiles.prepare store conversion.output

/-- Runs a conversion. -/
def run (conversion : Conversion) (store : FileStore) : Run :=
  let begun := [Journal.info s!"Reading from input dir: {conversion.input}"]
  match SourceFiles.list store conversion.input "*" with
  | .error fault => ⟨store, begun ++ SourceFiles.failureRecords fault, .error fault⟩
  | .ok files =>
    let prepared := conversion.prepare store
    let records := begun ++ prepared.records
    match prepared.result with
    | .error fault => ⟨prepared.store, records, .error fault⟩
    | .ok () =>
      let done := files.foldl conversion.convertFile ⟨prepared.store, records, [], []⟩
      let report : Report := ⟨done.outcomes⟩
      ⟨done.store, done.records ++ [summaryRecord report], .ok report⟩

end Conversion

end StructSchema
