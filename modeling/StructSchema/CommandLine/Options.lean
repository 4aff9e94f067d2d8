import StructSchema.CommandLine.Word
import StructSchema.Text.Quoted

/-!
# Options of the command line

Reading the arguments: their roles first, then from left to right the flags with their values and
the input directory. Reading stops at a request for help or at the first mistake; arguments that
belong to nothing are a mistake at the end.
-/

namespace StructSchema.CommandLine

/-- The argument after which all words are plain. -/
def separator : String := "--"

/-- What the command line asks for. -/
structure Options where
  input : Option String := none
  output : Option String := none
  target : Option String := some "nestjs"
  config : Option String := none
  allStructs : Bool := false
  dryRun : Bool := false
  showCode : Bool := false
  verbose : Bool := false
  noTimestamps : Bool := false
  noVirtuals : Bool := false
  duplicateFields : Option String := none
  listTargets : Bool := false
  deriving DecidableEq, Repr

/-- A mistake on the command line. -/
inductive Mistake where
  | ambiguous (argument : String) (spellings : List String)
  | valueMissing (flag : Flag)
  | valueIgnored (flag : Flag) (text : String)
  | invalidChoice (flag : Flag) (text : String)
  | unrecognized (arguments : List String)
  deriving DecidableEq, Repr

/-- The values among which the treatment of repeated names is chosen. -/
def duplicateChoices : List String := ["error", "last_wins"]

/-- The wording of a mistake. -/
def Mistake.message : Mistake → String
  | .ambiguous argument spellings =>
    s!"ambiguous option: {argument} could match " ++ String.intercalate ", " spellings
  | .valueMissing flag => s!"argument {flag.title}: expected one argument"
  | .valueIgnored flag text =>
    s!"argument {flag.title}: ignored explicit argument {Text.quote text}"
  | .invalidChoice flag text =>
    let choices := String.intercalate ", " (duplicateChoices.map Text.quote)
    s!"argument {flag.title}: invalid choice: {Text.quote text} (choose from {choices})"
  | .unrecognized arguments => "unrecognized arguments: " ++ String.intercalate " " arguments

/-- Why reading stops. -/
inductive Stop where
  | help
  | mistake (mistake : Mistake)
  deriving DecidableEq, Repr

/-- The roles of arguments. -/
def roles : List String → Except Stop (List Word)
  | [] => .ok []
  | argument :: rest =>
    if argument = separator then .ok (.separator :: rest.map .plain)
    else
      match Word.ofArgument argument with
      | .error spellings => .error (.mistake (.ambiguous argument spellings))
      | .ok word => do
        let words ← roles rest
        .ok (word :: words)

/-- A flag with the value given to it, if one is. -/
structure Setting where
  flag : Flag
  value : Option String
  deriving DecidableEq, Repr

/-- A flag with the text that follows it as its value. A separator in that place is dropped, which
leaves the flag without a value. -/
def Setting.ofText (flag : Flag) (text : String) : Setting :=
  ⟨flag, if text = separator then none else some text⟩

/-- What a flag and the text attached to it set, and the flag that awaits the next word for its
value. -/
structure Reading where
  settings : List Setting
  awaiting : Option Flag
  deriving DecidableEq, Repr

/-- Reads a flag alone: it is set, or it awaits its value. -/
def readAlone (flag : Flag) : Reading :=
  if flag.takesValue then ⟨[], some flag⟩ else ⟨[⟨flag, none⟩], none⟩

/-- Reads a short flag with the text attached to it: its value, or further letters, the last of
which may have a value. -/
def readCluster (flag : Flag) (text : List Char) : Except Mistake Reading :=
  if flag.takesValue then .ok ⟨[.ofText flag (String.ofList text)], none⟩
  else
    match text with
    | [] => .error (.valueIgnored flag "")
    | letter :: rest =>
      match Flag.ofLetter? letter with
      | none => .error (.valueIgnored flag (String.ofList (letter :: rest)))
      | some next => do
        let more ← if rest.isEmpty then .ok (readAlone next) else readCluster next rest
        .ok { more with settings := ⟨flag, none⟩ :: more.settings }

/-- Reads a flag with what is attached to it. -/
def readFlag (flag : Flag) (isShort : Bool) : Option (List Char) → Except Mistake Reading
  | none => .ok (readAlone flag)
  | some text =>
    if isShort then readCluster flag text
    else if flag.takesValue then .ok ⟨[.ofText flag (String.ofList text)], none⟩
    else .error (.valueIgnored flag (String.ofList text))

/-- The options with a flag set. Without a value a flag that takes one is cleared. -/
def Options.set (options : Options) (setting : Setting) : Except Stop Options :=
  match setting.flag, setting.value with
  | .help, _ => .error .help
  | .output, value => .ok { options with output := value }
  | .target, value => .ok { options with target := value }
  | .config, value => .ok { options with config := value }
  | .allStructs, _ => .ok { options with allStructs := true }
  | .dryRun, _ => .ok { options with dryRun := true }
  | .showCode, _ => .ok { options with showCode := true }
  | .verbose, _ => .ok { options with verbose := true }
  | .noTimestamps, _ => .ok { options with noTimestamps := true }
  | .noVirtuals, _ => .ok { options with noVirtuals := true }
  | .duplicateFields, none => .ok { options with duplicateFields := none }
  | .duplicateFields, some choice =>
    if duplicateChoices.contains choice then .ok { options with duplicateFields := choice }
    else .error (.mistake (.invalidChoice .duplicateFields choice))
  | .listTargets, _ => .ok { options with listTargets := true }

/-- Options in the making: whether the input directory may still come, and the arguments that
belong to nothing. -/
structure Draft where
  options : Options
  expectsInput : Bool
  extras : List String
  deriving DecidableEq, Repr

namespace Draft

/-- Takes the input directory, or the lack of one. -/
def takeInput (draft : Draft) (input : Option String) : Draft :=
  { draft with options := { draft.options with input }, expectsInput := false }

/-- Keeps an argument that belongs to nothing. -/
def keep (draft : Draft) (argument : String) : Draft :=
  { draft with extras := draft.extras ++ [argument] }

/-- Sets flags. -/
def setAll (draft : Draft) (settings : List Setting) : Except Stop Draft := do
  let options ← settings.foldlM Options.set draft.options
  .ok { draft with options }

end Draft

/-- Reads words into a draft. -/
def readWords : List Word → Draft → Except Stop Draft
  | [], draft => .ok draft
  | .unknown text :: rest, draft => readWords rest (draft.keep text)
  | .flag named isShort attached :: rest, draft =>
    match readFlag named isShort attached with
    | .error mistake => .error (.mistake mistake)
    | .ok ⟨settings, none⟩ => do
      let draft ← draft.setAll settings
      readWords rest draft
    | .ok ⟨settings, some owner⟩ =>
      match rest with
      | .plain text :: rest => do
        let draft ← draft.setAll (settings ++ [.ofText owner text])
        readWords rest draft
      | _ => .error (.mistake (.valueMissing owner))
  | .plain text :: rest, draft =>
    if draft.expectsInput then
      match rest with
      | .separator :: rest => readWords rest (draft.takeInput text)
      | rest => readWords rest (draft.takeInput text)
    else readWords rest (draft.keep text)
  | .separator :: rest, draft =>
    if draft.expectsInput then
      match rest with
      | .plain text :: rest => readWords rest (draft.takeInput text)
      | rest => readWords rest (draft.takeInput none)
    else readWords rest (draft.keep separator)
termination_by words => words.length

/-- The options that arguments give. -/
def Options.ofArguments (arguments : List String) : Except Stop Options := do
  let words ← roles arguments
  let draft ← readWords words ⟨{}, true, []⟩
  if draft.extras.isEmpty then .ok draft.options
  else .error (.mistake (.unrecognized draft.extras))

end StructSchema.CommandLine
