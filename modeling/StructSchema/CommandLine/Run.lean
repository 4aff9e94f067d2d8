import StructSchema.CommandLine.Help
import StructSchema.CommandLine.Options
import StructSchema.CommandLine.Screen

/-!
# Runs of the command line

A run reads the arguments, puts the settings together, converts the input directory and prints the
report. Everything is checked before the first directory is made. Faults that a user can mend are
printed and end the run with code 1; others leave it.
-/

namespace StructSchema.CommandLine

/-- How a run ends. -/
inductive Ending where
  | help
  | mistake (mistake : Mistake)
  | exit (code : Nat)
  | fault (fault : Fault)
  deriving DecidableEq, Repr

/-- What came of a run: the store after it, the records, what was printed, and how it ended. -/
structure Performance where
  store : FileStore
  records : List Journal.Record
  printed : List Block
  ending : Ending

/-- Whether a fault is one that a user can mend. -/
def isMendable (fault : Fault) : Bool :=
  match fault with
  | .settings _ | .output .. | .registry _ | .source _ => true
  | _ => false

/-- The end of a run by a fault. -/
def endByFault (store : FileStore) (records : List Journal.Record) (printed : List Block)
    (fault : Fault) : Performance :=
  if isMendable fault then
    ⟨store, records, printed ++ [failureLine fault.message], .exit 1⟩
  else ⟨store, records, printed, .fault fault⟩

/-- A text, if it is not empty. -/
def nonEmpty (text : Option String) : Option String := text.filter (· ≠ "")

/-- The settings that options give explicitly. -/
def explicitEntries (options : Options) : Dictionary Value :=
  let targetOptions :=
    (if options.noTimestamps then [("timestamps", Value.bool false)] else [])
      ++ (if options.noVirtuals then [("virtuals", Value.bool false)] else [])
  ((nonEmpty options.output).toList.map fun output => ("output_dir", Value.str output))
  ++ (if options.allStructs then [("all_structs", .bool true)] else [])
  ++ (options.duplicateFields.toList.map fun policy => ("duplicate_fields", Value.str policy))
  ++ (if targetOptions.isEmpty then [] else [(Settings.optionsName, .object targetOptions)])

/-- The settings of a run: those of the target, under those of the file, under the options. -/
def settings (store : FileStore) (options : Options) (target : String) :
    Except Fault Settings := do
  let target ← Registry.standard.resolve target
  Settings.load store target (explicitEntries options) (options.config.bind Settings.fileOf)

/-- The wording of a target that is not supported. -/
def unsupported (target : String) : String :=
  s!"Unsupported target '{target}'. Supported targets: "
    ++ String.intercalate ", " Registry.standard.names

/-- Converts an input directory for a target under given settings. -/
def convertUnder (store : FileStore) (options : Options) (input target : String)
    (settings : Settings) : Performance :=
  match settings.validate with
  | .error fault => endByFault store [] [] fault
  | .ok doubts =>
    let printed := doubts.map doubtLine
    match Registry.standard.create store target (.own settings) with
    | .error fault => endByFault store [] printed fault
    | .ok generator =>
      let run := Conversion.run
        { generator
          input := Path.ofString input
          output := Path.ofString ((nonEmpty options.output).getD settings.outputDir.display)
          everyStruct := settings.allStructs.isTruthy
          dryRun := options.dryRun }
        store
      match run.result with
      | .error fault => endByFault run.store run.records printed fault
      | .ok report =>
        ⟨run.store, run.records, printed ++ reportBlocks report options.showCode,
          .exit (if report.isOk then 0 else 1)⟩

/-- Lists the targets. -/
def listTargets (store : FileStore) : Performance :=
  match Registry.standard.describeAll with
  | .error fault => endByFault store [] [] fault
  | .ok targets => ⟨store, [], targetBlocks targets, .exit 0⟩

/-- Converts an input directory for a target. -/
def convert (store : FileStore) (options : Options) (input target : String) : Performance :=
  if Registry.standard.isSupported target then
    match settings store options target with
    | .error fault => endByFault store [] [] fault
    | .ok settings => convertUnder store options input target settings
  else ⟨store, [], [failureLine (unsupported target)], .exit 1⟩

/-- The fault of a target that was cleared: an empty list is no name. -/
def targetCleared : Fault := .misuse (.noAttribute .list "lower")

/-- Does what options ask for. -/
def perform (store : FileStore) (options : Options) : Performance :=
  if options.listTargets then listTargets store
  else
    match nonEmpty options.input, options.target with
    | none, _ => ⟨store, [], [inputMissingLine], .exit 1⟩
    | some _, none => endByFault store [] [] targetCleared
    | some input, some target => convert store options input target

/-- Runs the command line. -/
def run (store : FileStore) (arguments : List String) : Performance :=
  match Options.ofArguments arguments with
  | .ok options => perform store options
  | .error .help => ⟨store, [], [], .help⟩
  | .error (.mistake mistake) => ⟨store, [], [], .mistake mistake⟩

end StructSchema.CommandLine
