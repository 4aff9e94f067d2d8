import StructSchema.Binary64
import StructSchema.Dictionary
import StructSchema.Text.Quoted

/-!
# Dynamic values

The values that settings files, overrides and template contexts hold. A value has a kind, which
messages name, a truth, a plain text (`display`) and a quoted text (`quoted`): a text displays as
itself, everything else as its quoted text.
-/

namespace StructSchema

/-- A value of a settings file or a template context. -/
inductive Value where
  | null
  | bool (b : Bool)
  | int (n : Int)
  | float (x : Binary64)
  | str (text : String)
  | list (items : List Value)
  | object (entries : List (String × Value))
  deriving Repr, Inhabited

namespace Value

/-- The kinds of values. -/
inductive Kind where
  | null
  | bool
  | int
  | float
  | str
  | list
  | object
  deriving DecidableEq, Repr

/-- The name of a kind in messages. -/
def Kind.label : Kind → String
  | .null => "NoneType"
  | .bool => "bool"
  | .int => "int"
  | .float => "float"
  | .str => "str"
  | .list => "list"
  | .object => "dict"

/-- The kind of a value. -/
def kind : Value → Kind
  | null => .null
  | bool _ => .bool
  | int _ => .int
  | float _ => .float
  | str _ => .str
  | list _ => .list
  | object _ => .object

/-- Whether a value counts as true: null, zero and the empty ones do not. -/
def isTruthy : Value → Bool
  | null => false
  | bool b => b
  | int n => n != 0
  | float x => !x.isZero
  | str text => text != ""
  | list items => !items.isEmpty
  | object entries => !entries.isEmpty

mutual

/-- The text of a value as it stands inside another one. -/
def quoted : Value → String
  | null => "None"
  | bool b => if b then "True" else "False"
  | int n => toString n
  | float x => x.text
  | str text => Text.quote text
  | list items => "[" ++ String.intercalate ", " (quotedItems items) ++ "]"
  | object entries => "\x7b" ++ String.intercalate ", " (quotedEntries entries) ++ "\x7d"

/-- The texts of the items of a list. -/
def quotedItems : List Value → List String
  | [] => []
  | item :: items => quoted item :: quotedItems items

/-- The texts of the entries of an object. -/
def quotedEntries : List (String × Value) → List String
  | [] => []
  | (key, value) :: entries =>
    (Text.quote key ++ ": " ++ quoted value) :: quotedEntries entries

end

/-- The text of a value on its own. -/
def display : Value → String
  | str text => text
  | value => value.quoted

@[simp] theorem display_str (text : String) : display (.str text) = text := rfl

end Value

end StructSchema
