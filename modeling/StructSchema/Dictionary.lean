/-!
# Dictionaries in order of insertion

A dictionary is a list of keys with values, in the order in which the keys were first written.
Writing a key that is there replaces its value in place. The view is `get?`; `get?_insert` and
`get?_merge` say what writing does to it.
-/

namespace StructSchema

/-- Keys with values, in the order of first insertion. -/
abbrev Dictionary (α : Type u) := List (String × α)

namespace Dictionary

/-- The value of a key. -/
def get? (d : Dictionary α) (key : String) : Option α := d.lookup key

/-- The value of a key, or `fallback`. -/
def getD (d : Dictionary α) (key : String) (fallback : α) : α := (d.get? key).getD fallback

/-- Whether a key is present. -/
def contains (d : Dictionary α) (key : String) : Bool := (d.get? key).isSome

/-- The keys in order. -/
def keys (d : Dictionary α) : List String := d.map (·.1)

/-- The dictionary with `value` under `key`: in place when the key is present, else at the end. -/
def insert (key : String) (value : α) : Dictionary α → Dictionary α
  | [] => [(key, value)]
  | (k, v) :: rest => if key = k then (k, value) :: rest else (k, v) :: insert key value rest

/-- The dictionary with every entry of `extra` written into it, in order. -/
def merge (d extra : Dictionary α) : Dictionary α :=
  extra.foldl (fun d entry => d.insert entry.1 entry.2) d

/-- The dictionary of a list of entries; of entries with one key the last counts. -/
def ofEntries (entries : List (String × α)) : Dictionary α := merge [] entries

@[simp] theorem get?_nil (key : String) : get? ([] : Dictionary α) key = none := rfl

theorem get?_cons (k key : String) (v : α) (d : Dictionary α) :
    get? ((k, v) :: d) key = if key = k then some v else get? d key := by
  by_cases h : key = k
  · subst h
    simp [get?]
  · have hb : (key == k) = false := beq_false_of_ne h
    simp [get?, List.lookup_cons, h, hb]

theorem get?_insert (d : Dictionary α) (key k : String) (value : α) :
    (d.insert key value).get? k = if k = key then some value else d.get? k := by
  induction d with
  | nil => simp [insert, get?_cons]
  | cons entry rest ih =>
    obtain ⟨k', v⟩ := entry
    by_cases h : key = k'
    · subst h
      simp only [insert, if_true, get?_cons]
      split <;> rfl
    · simp only [insert, if_neg h, get?_cons, ih]
      by_cases hk : k = k'
      · subst hk
        simp [Ne.symm h]
      · simp [hk]

@[simp] theorem merge_nil (d : Dictionary α) : d.merge [] = d := rfl

theorem merge_cons (d : Dictionary α) (key : String) (value : α) (extra : Dictionary α) :
    d.merge ((key, value) :: extra) = (d.insert key value).merge extra := rfl

/-- After a merge a key has the last value that the entries give it, else the old one. -/
theorem get?_merge (d extra : Dictionary α) (k : String) :
    (d.merge extra).get? k = (extra.reverse.lookup k).or (d.get? k) := by
  induction extra generalizing d with
  | nil => simp
  | cons entry rest ih =>
    obtain ⟨key, value⟩ := entry
    rw [merge_cons, ih, get?_insert, List.reverse_cons, List.lookup_append]
    by_cases h : k = key
    · subst h
      simp
    · have hb : (k == key) = false := beq_false_of_ne h
      simp [List.lookup_cons, h, hb]

end Dictionary

end StructSchema
