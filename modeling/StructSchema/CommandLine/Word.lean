import StructSchema.CommandLine.Flag
import StructSchema.Text.Lines
import StructSchema.Text.Word

/-!
# Words of the command line

Each argument is a plain word, a flag, or the separator after which all words are plain. A long
flag may be cut short as long as only one flag begins so, and a value may be attached to it by an
equals sign; a short flag may have its value or further letters attached.
-/

namespace StructSchema.CommandLine

/-- An argument by its role; a flag comes with the text attached to it. -/
inductive Word where
  | plain (text : String)
  | separator
  | flag (named : Flag) (isShort : Bool) (attached : Option (List Char))
  | unknown (text : String)
  deriving DecidableEq, Repr

namespace Word

/-- A text before and after its first equals sign, if it has one. -/
def cutAtEquals (text : List Char) : List Char × Option (List Char) :=
  match text.dropWhile (· != '=') with
  | [] => (text, none)
  | _ :: after => (text.takeWhile (· != '='), some after)

/-- Whether a text writes a negative number: digits, perhaps none of them before a point. -/
def isNegativeNumber (text : List Char) : Bool :=
  match Text.dropFinalLineFeed text with
  | '-' :: rest =>
    let whole := rest.takeWhile Text.isDecimalDigit
    match rest.dropWhile Text.isDecimalDigit with
    | [] => !whole.isEmpty
    | '.' :: decimals => !decimals.isEmpty && decimals.all Text.isDecimalDigit
    | _ => false
  | _ => false

/-- Whether a spelling is short: one hyphen and a letter. -/
def isShortSpelling (spelling : List Char) : Bool := spelling[1]?.any (· != '-')

/-- The flags that an argument cut short may mean, each with its spelling. -/
def candidates (text : List Char) : List (String × Word) :=
  match text with
  | '-' :: '-' :: _ =>
    let (start, value) := cutAtEquals text
    Flag.table.filterMap fun (spelling, named) =>
      if start.isPrefixOf spelling.toList then
        some (spelling, .flag named false value)
      else none
  | '-' :: c :: rest =>
    match Flag.ofLetter? c with
    | some named => [(String.ofList ['-', c], .flag named true (some rest))]
    | none => []
  | _ => []

/-- The word that spells a flag in full, with a value attached or not. -/
def spelled? (text : List Char) : Option Word :=
  match Flag.ofSpelling? (String.ofList text), cutAtEquals text with
  | some named, _ => some (.flag named (isShortSpelling text) none)
  | none, (start, some value) =>
    (Flag.ofSpelling? (String.ofList start)).map fun named =>
      .flag named (isShortSpelling start) (some value)
  | none, (_, none) => none

/-- The role of an argument before the separator. The error lists the flags that an ambiguous
argument may mean. -/
def ofArgument (argument : String) : Except (List String) Word :=
  match argument.toList with
  | '-' :: c :: rest =>
    let text := '-' :: c :: rest
    match spelled? text with
    | some word => .ok word
    | none =>
      match candidates text with
      | [(_, word)] => .ok word
      | [] =>
        if isNegativeNumber text || text.contains ' ' then .ok (.plain argument)
        else .ok (.unknown argument)
      | several => .error (several.map (·.1))
  | _ => .ok (.plain argument)

end Word

end StructSchema.CommandLine
