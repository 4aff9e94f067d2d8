import StructSchema.FieldLine
import StructSchema.Text.Casing

/-!
# Override rules

A rule tests a declared field and gives the fields that pass a fixed template in place of the type
table. The first rule that holds counts.
-/

namespace StructSchema

/-- The types and extra options that a rule gives a field. -/
structure FieldTemplate where
  schemaType : String
  tsType : String
  options : List (String × String)
  deriving DecidableEq, Repr

/-- A test on a declared field: on its name, as it stands or without regard to case, or any
other. -/
inductive FieldTest where
  | isExactly (name : String)
  | isFoldedAmong (names : List String)
  | satisfies (test : FieldDescriptor → Bool)

/-- Whether a field passes a test. -/
def FieldTest.holds (field : FieldDescriptor) : FieldTest → Bool
  | .isExactly expected => field.name == expected
  | .isFoldedAmong names => (names.map Text.fold).contains (Text.fold field.name)
  | .satisfies test => test field

/-- A named test with the template for the fields that pass it. -/
structure OverrideRule where
  name : String
  test : FieldTest
  template : FieldTemplate

namespace OverrideRule

/-- Whether a rule applies to a field. -/
def applies (rule : OverrideRule) (field : FieldDescriptor) : Bool := rule.test.holds field

/-- The first rule that applies to a field. -/
def first? (rules : List OverrideRule) (field : FieldDescriptor) : Option OverrideRule :=
  rules.find? (·.applies field)

/-- The identity of a document. -/
def identity : OverrideRule where
  name := "identity"
  test := .isExactly "_id"
  template := ⟨"ObjectId", "mongoose.Types.ObjectId", [("auto", "true")]⟩

/-- The times at which a document was made and changed. -/
def timestamp : OverrideRule where
  name := "timestamp"
  test := .isFoldedAmong ["createdAt", "updatedAt"]
  template := ⟨"Date", "Date", [("default", "Date.now")]⟩

/-- The rules in force when none are given. -/
def standard : List OverrideRule := [identity, timestamp]

end OverrideRule

end StructSchema
