import StructSchema.Text.Blank
import StructSchema.Text.Lines

/-!
# Schema files

A schema file declares one class: imports, an optional description, the options of the class, its
properties, and the names that go with it. `SchemaFile.lines` is the file as lines and
`SchemaFile.text` the file as text; what stands in a line may itself hold line feeds.
-/

namespace StructSchema

/-- A property of the class: its key, its type, its options and a comment. -/
structure SchemaProperty where
  key : String
  type : String
  options : List (String × String)
  comment : Option String
  deriving DecidableEq, Repr

/-- A class option: one value, or a group of named ones. -/
inductive ClassOption (α : Type) where
  | plain (value : α)
  | group (entries : List (String × α))
  deriving DecidableEq, Repr

/-- The option with each value replaced by its image. -/
def ClassOption.map (f : α → β) : ClassOption α → ClassOption β
  | .plain value => .plain (f value)
  | .group entries => .group (entries.map fun entry => (entry.1, f entry.2))

/-- A schema file as a document. -/
structure SchemaFile where
  className : String
  description : Option String
  options : List (String × ClassOption String)
  properties : List SchemaProperty
  indent : String
  deriving DecidableEq, Repr

namespace SchemaFile

/-- The name of the template that lays out schema files. -/
def templateName : String := "schema.ts.j2"

/-- An object literal on one line. -/
def objectLiteral (entries : List (String × String)) : String :=
  if entries.isEmpty then "\x7b\x7d"
  else
    "\x7b " ++ String.intercalate ", " (entries.map fun (key, value) => key ++ ": " ++ value)
      ++ " \x7d"

/-- A text with a comment mark and a space before each line that is not blank. -/
def comment (mark text : String) : String :=
  let line (chars : List Char) : List Char :=
    if Text.isAllBlank chars then chars else mark.toList ++ ' ' :: chars
  String.ofList (Text.join '\n' ((Text.cut '\n' text.toList).map line))

/-- The lines that import what the file uses. -/
def importLines : List String :=
  ["import \x7b Prop, Schema, SchemaFactory \x7d from '@nestjs/mongoose';",
    "import * as mongoose from 'mongoose';",
    "import \x7b HydratedDocument \x7d from 'mongoose';"]

/-- The lines of a class option. -/
def optionLines (indent : String) : String × ClassOption String → List String
  | (key, .plain value) => [indent ++ key ++ ": " ++ value ++ ","]
  | (key, .group entries) =>
    [indent ++ key ++ ": \x7b"]
      ++ entries.map (fun (inner, value) => indent ++ indent ++ inner ++ ": " ++ value ++ ",")
      ++ [indent ++ "\x7d,"]

/-- The lines of a property. -/
def propertyLines (indent : String) (property : SchemaProperty) : List String :=
  property.comment.toList.map (fun text => indent ++ "// " ++ text)
    ++ [indent ++ "@Prop(" ++ objectLiteral property.options ++ ")",
      indent ++ property.key ++ ": " ++ property.type ++ ";"]

/-- The lines of all properties, an empty one between each two. -/
def propertiesLines (indent : String) : List SchemaProperty → List String
  | [] => []
  | [property] => propertyLines indent property
  | property :: rest => propertyLines indent property ++ "" :: propertiesLines indent rest

/-- The lines of a schema file. -/
def lines (file : SchemaFile) : List String :=
  importLines ++ [""]
    ++ file.description.toList.map (comment "//")
    ++ ["@Schema(\x7b"]
    ++ file.options.flatMap (optionLines file.indent)
    ++ ["\x7d)", "class " ++ file.className ++ " \x7b"]
    ++ propertiesLines file.indent file.properties
    ++ ["\x7d", "",
      "export type " ++ file.className ++ "Document = HydratedDocument<" ++ file.className ++ ">;",
      "",
      "const " ++ file.className ++ "Schema = SchemaFactory.createForClass(" ++ file.className
        ++ ");",
      "", "export \x7b " ++ file.className ++ "Schema, " ++ file.className ++ " \x7d;"]

/-- The text of a schema file. -/
def text (file : SchemaFile) : String := String.join (file.lines.map (· ++ "\n"))

end SchemaFile

end StructSchema
