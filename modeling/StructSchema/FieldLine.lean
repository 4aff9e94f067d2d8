import StructSchema.FieldTag
import StructSchema.Text.Lines
import StructSchema.Token

/-!
# Field lines

A statement is the run of tokens between line ends and semicolons, comments left out. One that
holds a tag declares a field: a name, a type expression, and the tag at its end. `FieldLine.read`
gives the field or the first fault. The type of the field is the last token before the tag.
-/

namespace StructSchema

/-- A declared field: its name in the store, the name of its type, and whether it must be present;
the declared name and the line, where they are known. -/
structure FieldDescriptor where
  name : String
  sourceType : String
  required : Bool
  goName : Option String
  line : Option Nat
  deriving DecidableEq, Repr

/-- A tagged line that declares no field, and why. -/
structure FieldIssue where
  line : Int
  text : String
  reason : String
  deriving DecidableEq, Repr

/-- The wording of an issue. -/
protected def FieldIssue.toString (issue : FieldIssue) : String :=
  s!"line {issue.line}: {issue.reason} ({issue.text})"

namespace Token

/-- Whether a token ends a statement. -/
def endsStatement (token : Token) : Bool := token.kind == .lineFeed || token.kind == .semicolon

/-- The statements of a token sequence; empty ones are left out. -/
def statements (tokens : List Token) : List (List Token) :=
  (Text.cutWhere endsStatement (tokens.filter (·.kind != .comment))).filter (!·.isEmpty)

/-- Whether a statement holds a tag. -/
def hasTag (statement : List Token) : Bool := statement.any (·.kind == .tag)

end Token

namespace FieldLine

/-- Whether a token may stand in no type expression. -/
def isForeign (token : Token) : Bool := token.kind == .mismatch || token.kind == .quoted

/-- The field that a tagged statement declares. -/
def read (statement : List Token) : Except FieldTag.Fault FieldDescriptor :=
  let before := statement.takeWhile (·.kind != .tag)
  match statement.dropWhile (·.kind != .tag) with
  | [tag] =>
    match before, before.tail.getLast? with
    | name :: typeTokens, some type => do
      if name.kind ≠ .ident then .error (.invalidName name.value)
      if type.kind ≠ .ident then .error (.invalidType type.value)
      if typeTokens.any isForeign then .error .invalidTypeExpression
      let said ← FieldTag.read tag.value
      .ok ⟨said.name, type.value, said.required, some name.value, some name.line⟩
    | _, _ => .error .missingNameOrType
  | _ => .error .tagNotLast

/-- A statement as it appears in an issue. -/
def text (statement : List Token) : String := String.intercalate " " (statement.map (·.value))

/-- The line on which a statement begins. -/
def line (statement : List Token) : Nat := (statement.head?.map (·.line)).getD 1

/-- The field that a tagged statement declares, or the issue with it. -/
def examine (statement : List Token) : Except FieldIssue FieldDescriptor :=
  (read statement).mapError fun fault => ⟨line statement, text statement, fault.message⟩

end FieldLine

end StructSchema
