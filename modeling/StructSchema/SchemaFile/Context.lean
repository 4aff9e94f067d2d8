import StructSchema.Dictionary
import StructSchema.Fault
import StructSchema.SchemaFile

/-!
# Schema files from dynamic contexts

A schema file may be given as a context of named values. The names are looked up in the order in
which the file needs them, so the first one that is missing or has the wrong shape is the fault.
-/

namespace StructSchema

namespace Value

/-- A value as an expression of the generated code. -/
def expression : Value → String
  | bool b => if b then "true" else "false"
  | null => "undefined"
  | value => value.display

/-- The entries of an object literal: each item of a value has to be a pair. -/
def literalEntries (value : Value) : Except Misuse (List (String × String)) := do
  let items ← value.items
  items.mapM fun item => do
    let (key, part) ← item.pair
    .ok (key.display, part.display)

end Value

namespace SchemaFile

/-- Named values. -/
abbrev Context := List (String × Value)

namespace Context

/-- A step that may find the context unfit. -/
abbrev Reading (α : Type) := Except Fault.Template α

/-- The value of a name. -/
def lookup (context : Context) (name : String) : Reading Value :=
  match Dictionary.get? context name with
  | some value => .ok value
  | none => .error (.undefined name)

/-- The value under a name of a value that has to be an object. -/
def member (value : Value) (name : String) : Reading Value :=
  match value with
  | .object entries =>
    match Dictionary.get? entries name with
    | some found => .ok found
    | none => .error (.undefinedAttribute .object name)
  | other => .error (.undefinedAttribute other.kind name)

/-- The items of a value. -/
def items (value : Value) : Reading (List Value) := value.items.mapError .misuse

/-- The parts of a pair. -/
def pair (value : Value) : Reading (Value × Value) := value.pair.mapError .misuse

/-- The text of a value that counts as true. -/
def textIfTrue (value : Value) : Option String :=
  if value.isTruthy then some value.display else none

/-- Reads a class option. The indentation is needed first. -/
def classOption (context : Context) (item : Value) : Reading (String × ClassOption String) := do
  let (key, value) ← pair item
  let _ ← lookup context "indent"
  match value with
  | .bool _ | .str _ => .ok (key.display, .plain value.expression)
  | value =>
    let entries ← (← items value).mapM fun entry => do
      let (key, inner) ← pair entry
      .ok (key.display, inner.expression)
    .ok (key.display, .group entries)

/-- Reads a property. -/
def property (context : Context) (item : Value) : Reading SchemaProperty := do
  let comment ← member item "comment"
  let _ ← lookup context "indent"
  let options ← member item "options"
  let options ← options.literalEntries.mapError .misuse
  let key ← member item "name"
  let type ← member item "ts_type"
  .ok ⟨key.display, type.display, options, textIfTrue comment⟩

/-- Reads a schema file. -/
def read (context : Context) : Reading SchemaFile := do
  if Dictionary.contains context "self" then .error .reservedName
  let description ← lookup context "description"
  let options ← (← items (← lookup context "schema_options")).mapM (classOption context)
  let className ← lookup context "class_name"
  let properties ← (← items (← lookup context "fields")).mapM (property context)
  let indent := Dictionary.getD context "indent" .null
  .ok ⟨className.display, textIfTrue description, options, properties, indent.display⟩

/-- The schema file that a context describes. -/
def render (context : Context) : Except Fault String :=
  match read context with
  | .ok file => .ok file.text
  | .error fault => .error (.template templateName fault)

end Context

end SchemaFile

end StructSchema
