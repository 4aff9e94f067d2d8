import StructSchema.Conversion
import StructSchema.Registry

/-!
# The screen

What is printed, block by block, before it is laid out: lines with markup, tables, panels and
generated code.
-/

namespace StructSchema.CommandLine

/-- A block on the screen. -/
inductive Block where
  | blank
  | line (markup : String)
  | table (title : String) (columns : List String) (rows : List (List String))
  | panel (markup title border : String)
  | code (text : String)
  deriving DecidableEq, Repr

/-- A text in a colour. -/
def coloured (colour text : String) : String :=
  "[" ++ colour ++ "]" ++ text ++ "[/" ++ colour ++ "]"

/-- A status with its mark. -/
def statusCell : OutcomeStatus → String
  | .success => coloured "green" "✓ success"
  | .skipped => coloured "yellow" "- skipped"
  | .failed => coloured "red" "✗ failed"

/-- The line about a doubt. -/
def doubtLine (doubt : String) : Block := .line (coloured "yellow" ("⚠️  " ++ doubt))

/-- The line about a failure that ends the run. -/
def failureLine (message : String) : Block := .line (coloured "red" "✗ Error:" ++ " " ++ message)

/-- The line about a missing input directory. -/
def inputMissingLine : Block :=
  .line (coloured "red" "✗" ++ " Please provide an input directory path!")

/-- The row of an outcome. -/
def outcomeRow (outcome : Outcome) : List String :=
  let detail :=
    match outcome.outputPath with
    | some path => path.toString
    | none => outcome.message.getD ""
  [outcome.source.name, outcome.structName.getD "", statusCell outcome.status, detail]

/-- The lines of the warnings of a report. -/
def warningBlocks (report : Report) : List Block :=
  let lines := report.outcomes.flatMap fun outcome =>
    outcome.warnings.map fun warning =>
      Block.line ("  " ++ coloured "yellow" "•" ++ " " ++ outcome.source.name ++ ": " ++ warning)
  if lines.isEmpty then []
  else .line ("\n" ++ coloured "yellow" "⚠️  Warnings:") :: lines

/-- The generated code of a report. -/
def codeBlocks (report : Report) : List Block :=
  (report.withStatus .success).flatMap fun outcome =>
    [.line ("\n" ++ coloured "green" ("📄 " ++ outcome.structName.getD "")),
      .code (outcome.code.getD "")]

/-- The panel that counts the outcomes of a report. -/
def summaryPanel (report : Report) : Block :=
  let counts :=
    [coloured "green" s!"{report.count .success} converted",
      coloured "yellow" s!"{report.count .skipped} skipped",
      coloured "red" s!"{report.count .failed} failed"]
  .panel (String.intercalate ", " counts) "Summary" (if report.isOk then "green" else "red")

/-- The blocks of a report. -/
def reportBlocks (report : Report) (showCode : Bool) : List Block :=
  if report.outcomes.isEmpty then [doubtLine "No input files found"]
  else
    [.blank,
      .table "📊 Conversion Results" ["Source", "Struct", "Status", "Output / Message"]
        (report.outcomes.map outcomeRow)]
    ++ warningBlocks report
    ++ (if showCode then codeBlocks report else [])
    ++ [summaryPanel report]

/-- The row of a target. -/
def targetRow (name : String) (info : TargetInfo) : List String :=
  let aliases :=
    if info.aliases.isEmpty then coloured "dim" "none" else String.intercalate ", " info.aliases
  ["🔧 " ++ name, info.fileExtension.display, info.className, aliases]

/-- The blocks that list targets. -/
def targetBlocks (targets : List (String × TargetInfo)) : List Block :=
  [.blank,
    .table "📋 Supported Targets" ["Target", "Extension", "Generator Class", "Aliases"]
      (targets.map fun (name, info) => targetRow name info),
    .blank]

end StructSchema.CommandLine
