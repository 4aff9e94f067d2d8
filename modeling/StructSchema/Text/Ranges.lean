/-!
# Classes of characters as ranges of code points

A class of characters is a table of code point ranges. The search walks the ascending table and
stops at the first range that begins beyond the code point, so `has_of_lt` holds: nothing below
the first range is in the class.
-/

namespace StructSchema.Text

/-- A class of characters: disjoint ranges of code points, both ends included, ascending. -/
abbrev Ranges := List (Nat × Nat)

namespace Ranges

/-- Whether a code point lies in one of the ranges. -/
def has : Ranges → Nat → Bool
  | [], _ => false
  | (low, high) :: rest, n => if n < low then false else n ≤ high || has rest n

@[simp] theorem has_nil (n : Nat) : has [] n = false := rfl

theorem has_of_lt {low high n : Nat} {rest : Ranges} (h : n < low) :
    has ((low, high) :: rest) n = false := by
  simp [has, h]

theorem has_of_mem_first {low high n : Nat} {rest : Ranges} (h : low ≤ n) (h' : n ≤ high) :
    has ((low, high) :: rest) n = true := by
  simp [has, Nat.not_lt.2 h, h']

end Ranges

end StructSchema.Text
