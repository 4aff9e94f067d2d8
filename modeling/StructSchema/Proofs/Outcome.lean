/-!
# Outcomes of steps that may fail

When steps in sequence give a result, each of them gave one; so items can be filtered when the test
fails of none of them: `filterM_eq_ok_iff`.
-/

namespace StructSchema.Outcome

variable {ε ε' α β : Type}

/-- Two steps in sequence give a result exactly when both do. -/
theorem bind_eq_ok_iff {x : Except ε α} {f : α → Except ε β} {b : β} :
    (x >>= f) = .ok b ↔ ∃ a, x = .ok a ∧ f a = .ok b := by
  cases x with
  | error fault => simp [bind, Except.bind]
  | ok a => simp [bind, Except.bind]

theorem map_eq_ok_iff {x : Except ε α} {f : α → β} {b : β} :
    x.map f = .ok b ↔ ∃ a, x = .ok a ∧ b = f a := by
  cases x with
  | error fault => simp [Except.map]
  | ok a => simp [Except.map, eq_comm]

@[simp] theorem mapError_ok (a : α) (f : ε → ε') :
    (Except.ok a : Except ε α).mapError f = .ok a := rfl

@[simp] theorem mapError_error (fault : ε) (f : ε → ε') :
    (Except.error fault : Except ε α).mapError f = .error (f fault) := rfl

theorem mapError_eq_ok_iff {x : Except ε α} {f : ε → ε'} {a : α} :
    x.mapError f = .ok a ↔ x = .ok a := by
  cases x with
  | error fault => simp
  | ok b => simp

/-- Two steps in sequence fail with a fault exactly when the first does, or the second after it. -/
theorem bind_eq_error_iff {x : Except ε α} {f : α → Except ε β} {fault : ε} :
    (x >>= f) = .error fault ↔ x = .error fault ∨ ∃ a, x = .ok a ∧ f a = .error fault := by
  cases x with
  | error fault => simp [bind, Except.bind]
  | ok a => simp [bind, Except.bind]

theorem mapError_eq_error_iff {x : Except ε α} {f : ε → ε'} {fault : ε'} :
    x.mapError f = .error fault ↔ ∃ first, x = .error first ∧ fault = f first := by
  cases x with
  | error first => simp [eq_comm]
  | ok a => simp

/-- A step fails exactly when it gives no result. -/
theorem exists_error_iff {x : Except ε α} :
    (∃ fault, x = .error fault) ↔ ¬ ∃ a, x = .ok a := by
  cases x <;> simp

/-! ## Filtering with a test that may fail -/

variable {test : α → Except ε Bool} {items kept result : List α}

/-- Whether a test holds; one that fails does not. -/
def holds : Except ε Bool → Bool
  | .ok b => b
  | .error _ => false

theorem filterAuxM_eq_ok_iff : items.filterAuxM test kept = .ok result ↔
    (∀ x ∈ items, ∃ b, test x = .ok b) ∧
      result = (items.filter fun x => holds (test x)).reverse ++ kept := by
  induction items generalizing kept with
  | nil =>
    rw [List.filterAuxM]
    simp [pure, Except.pure, eq_comm]
  | cons x items ih =>
    rw [List.filterAuxM, List.forall_mem_cons, bind_eq_ok_iff]
    cases hx : test x with
    | error fault => simp
    | ok b =>
      simp only [Except.ok.injEq, exists_eq_left', exists_eq', true_and, ih]
      cases b with
      | true => simp [holds, hx]
      | false => simp [holds, hx]

/-- Items can be filtered when the test fails nowhere. -/
theorem filterM_eq_ok_iff : items.filterM test = .ok result ↔
    (∀ x ∈ items, ∃ b, test x = .ok b) ∧ result = items.filter fun x => holds (test x) := by
  unfold List.filterM
  rw [bind_eq_ok_iff]
  simp only [filterAuxM_eq_ok_iff, pure, Except.pure, Except.ok.injEq]
  constructor
  · rintro ⟨_, ⟨hall, rfl⟩, rfl⟩
    exact ⟨hall, by simp⟩
  · rintro ⟨hall, rfl⟩
    exact ⟨_, ⟨hall, rfl⟩, by simp⟩

end StructSchema.Outcome
