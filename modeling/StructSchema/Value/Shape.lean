import StructSchema.Fault.Kind
import StructSchema.Value

/-!
# Shapes of values

A value may be taken apart: a list into its items, a text into its characters, an object into its
keys, and each of them into a pair when it has two parts. A value that cannot be taken apart as
asked is misused. `pair_ok_iff` says which values are pairs.
-/

namespace StructSchema.Value

/-- What goes wrong when a value is used as one of another shape. -/
inductive Misuse where
  | notIterable (kind : Kind)
  | notUnpackable (kind : Kind)
  | tooFewParts (count : Nat)
  | tooManyParts
  | noAttribute (kind : Kind) (name : String)
  | notMapping (setting : String) (kind : Kind)
  | notCount (kind : Kind)
  deriving DecidableEq, Repr

/-- The wording of a misuse. -/
def Misuse.message : Misuse → String
  | .notIterable kind => s!"'{kind.label}' object is not iterable"
  | .notUnpackable kind => s!"cannot unpack non-iterable {kind.label} object"
  | .tooFewParts count => s!"not enough values to unpack (expected 2, got {count})"
  | .tooManyParts => "too many values to unpack (expected 2)"
  | .noAttribute kind name => s!"'{kind.label}' object has no attribute '{name}'"
  | .notMapping setting kind => s!"{setting} must be a mapping, got {kind.label}"
  | .notCount kind => s!"can't multiply sequence by non-int of type '{kind.label}'"

/-- The kind of fault that a misuse is. -/
def Misuse.faultKind : Misuse → Fault.Kind
  | .tooFewParts _ | .tooManyParts => .value
  | .noAttribute .. => .member
  | _ => .type

/-- The parts of a value, if it has parts. -/
def parts? : Value → Option (List Value)
  | .str text => some (text.toList.map fun c => .str (String.singleton c))
  | .list items => some items
  | .object entries => some (entries.map fun entry => .str entry.1)
  | _ => none

/-- The items of a value. -/
def items (value : Value) : Except Misuse (List Value) :=
  match value.parts? with
  | some parts => .ok parts
  | none => .error (.notIterable value.kind)

/-- The two parts of a value. -/
def pair (value : Value) : Except Misuse (Value × Value) :=
  match value.parts? with
  | none => .error (.notUnpackable value.kind)
  | some [first, second] => .ok (first, second)
  | some parts =>
    if parts.length < 2 then .error (.tooFewParts parts.length) else .error .tooManyParts

/-- The pairs are the values of two parts. -/
theorem pair_ok_iff (value first second : Value) :
    value.pair = .ok (first, second) ↔ value.parts? = some [first, second] := by
  unfold pair
  split
  · rename_i h
    simp [h]
  · rename_i a b h
    simp [h]
  · rename_i parts hn h
    constructor
    · intro hp
      split at hp <;> cases hp
    · intro hp
      rw [h] at hp
      exact absurd (Option.some.inj hp) (hn first second)

end StructSchema.Value
