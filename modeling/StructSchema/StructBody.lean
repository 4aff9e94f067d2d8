import StructSchema.FieldLine

/-!
# Bodies of declarations

The body of a declaration is read statement by statement. Each tagged statement gives a field or
an issue, so fields and issues together count the tagged statements: `length_fields_add_issues`.
-/

namespace StructSchema

/-- What the body of a declaration says: its fields and its issues, each in source order. -/
structure StructBody where
  fields : List FieldDescriptor
  issues : List FieldIssue
  deriving DecidableEq, Repr

namespace StructBody

/-- The tagged statements of a body. -/
def taggedStatements (body : String) : List (List Token) :=
  (Token.statements (Token.scan body)).filter Token.hasTag

/-- The fields and issues among the readings of statements. -/
def ofReadings (readings : List (Except FieldIssue FieldDescriptor)) : StructBody where
  fields := readings.filterMap fun
    | .ok field => some field
    | .error _ => none
  issues := readings.filterMap fun
    | .ok _ => none
    | .error issue => some issue

/-- Reads the body of a declaration. -/
def read (body : String) : StructBody := ofReadings ((taggedStatements body).map FieldLine.examine)

/-- Whether every tagged statement declares a field. -/
def isClean (body : StructBody) : Bool := body.issues.isEmpty

theorem length_ofReadings (readings : List (Except FieldIssue FieldDescriptor)) :
    (ofReadings readings).fields.length + (ofReadings readings).issues.length =
      readings.length := by
  induction readings with
  | nil => rfl
  | cons r rest ih =>
    cases r <;> simp only [ofReadings, List.filterMap_cons, List.length_cons] at ih ⊢ <;> omega

/-- Every tagged statement counts once, as a field or as an issue. -/
theorem length_fields_add_issues (body : String) :
    (read body).fields.length + (read body).issues.length = (taggedStatements body).length := by
  rw [read, length_ofReadings, List.length_map]

end StructBody

end StructSchema
