import Mathlib.Tactic.SplitIfs
import StructSchema.Proofs.Outcome
import StructSchema.Value.Json

/-!
# Dictionaries with distinct keys

Writing into a dictionary keeps its keys distinct, and a dictionary with distinct keys reads the
same from both ends: `lookup_reverse`. So after a merge a key has the value that the entries give
it, else the old one: `get?_merge_of_nodup`. A value is *keyed* when every object in it has distinct
keys; `keyed_of_read` says that a value read from a text is.
-/

namespace StructSchema

namespace Dictionary

variable {α : Type u} {d extra : Dictionary α} {k : String} {v : α}

/-! ## Keys -/

@[simp] theorem keys_cons (entry : String × α) (d : Dictionary α) :
    keys (entry :: d) = entry.1 :: keys d := rfl

theorem mem_keys_iff : k ∈ keys d ↔ (d.get? k).isSome := by
  induction d with
  | nil => simp [keys]
  | cons entry rest ih =>
    obtain ⟨key, value⟩ := entry
    rw [keys_cons, List.mem_cons, get?_cons, ih]
    by_cases h : k = key <;> simp [h]

theorem get?_eq_none_iff : d.get? k = none ↔ k ∉ keys d := by
  rw [mem_keys_iff, Bool.not_eq_true, Option.isSome_eq_false_iff, Option.isNone_iff_eq_none]

theorem mem_of_get? (h : d.get? k = some v) : (k, v) ∈ d := by
  obtain ⟨l₁, l₂, rfl, -⟩ := List.lookup_eq_some_iff.1 h
  simp

theorem mem_keys_insert {key : String} : k ∈ keys (d.insert key v) ↔ k = key ∨ k ∈ keys d := by
  simp only [mem_keys_iff, get?_insert]
  by_cases h : k = key <;> simp [h]

/-- Writing keeps keys distinct. -/
theorem nodup_keys_insert (key : String) (v : α) (h : (keys d).Nodup) :
    (keys (d.insert key v)).Nodup := by
  induction d with
  | nil => simp [insert, keys]
  | cons entry rest ih =>
    obtain ⟨key', value⟩ := entry
    rw [keys_cons, List.nodup_cons] at h
    unfold insert
    split_ifs with hk
    · rw [keys_cons, List.nodup_cons]
      exact ⟨hk ▸ h.1, h.2⟩
    · rw [keys_cons, List.nodup_cons]
      refine ⟨fun hm => ?_, ih h.2⟩
      rcases mem_keys_insert.1 hm with he | hm
      · exact hk he.symm
      · exact h.1 hm

/-- A merge keeps keys distinct. -/
theorem nodup_keys_merge (extra : Dictionary α) (h : (keys d).Nodup) :
    (keys (d.merge extra)).Nodup := by
  induction extra generalizing d with
  | nil => exact h
  | cons entry rest ih => exact ih (nodup_keys_insert entry.1 entry.2 h)

/-- Writing keeps the keys that are there in front. -/
theorem keys_prefix_insert (key : String) (v : α) (d : Dictionary α) :
    keys d <+: keys (d.insert key v) := by
  induction d with
  | nil => exact List.nil_prefix
  | cons entry rest ih =>
    unfold insert
    split_ifs
    · exact List.prefix_rfl
    · rw [keys_cons, keys_cons, List.prefix_cons_inj]
      exact ih

theorem keys_prefix_merge (d extra : Dictionary α) : keys d <+: keys (d.merge extra) := by
  induction extra generalizing d with
  | nil => exact List.prefix_rfl
  | cons entry rest ih => exact (keys_prefix_insert entry.1 entry.2 d).trans (ih _)

/-- What is in front and not written again stays in front. -/
theorem merge_cons_of_not_mem {key : String} (h : key ∉ keys extra) (v : α) (d : Dictionary α) :
    merge ((key, v) :: d) extra = (key, v) :: merge d extra := by
  induction extra generalizing d with
  | nil => rfl
  | cons entry rest ih =>
    rw [keys_cons, List.mem_cons, not_or] at h
    rw [merge_cons, merge_cons, insert, if_neg (Ne.symm h.1), ih h.2]

/-- Entries with distinct keys, the first of which are those of the dictionary, replace it. -/
theorem merge_of_keys_prefix (h : (keys extra).Nodup) (hd : keys d <+: keys extra) :
    d.merge extra = extra := by
  induction extra generalizing d with
  | nil => rw [merge_nil, List.map_eq_nil_iff.1 (List.prefix_nil.1 hd)]
  | cons entry rest ih =>
    obtain ⟨key, value⟩ := entry
    rw [keys_cons, List.nodup_cons] at h
    cases d with
    | nil => rw [merge_cons, insert, merge_cons_of_not_mem h.1, ih (d := []) h.2 List.nil_prefix]
    | cons first d =>
      obtain ⟨k, v⟩ := first
      rw [keys_cons, keys_cons, List.cons_prefix_cons] at hd
      obtain rfl : k = key := hd.1
      rw [merge_cons, insert, if_pos rfl, merge_cons_of_not_mem h.1, ih h.2 hd.2]

/-- Entries with distinct keys that are new go to the end. -/
theorem merge_eq_append (h : (keys extra).Nodup) (hd : ∀ key ∈ keys d, key ∉ keys extra) :
    d.merge extra = d ++ extra := by
  induction d with
  | nil => exact merge_of_keys_prefix h List.nil_prefix
  | cons entry rest ih =>
    rw [keys_cons, List.forall_mem_cons] at hd
    rw [merge_cons_of_not_mem hd.1, ih hd.2]
    rfl

/-- Every value of a written dictionary was there or is the one written. -/
theorem mem_insert {key : String} {entry : String × α} (h : entry ∈ d.insert key v) :
    entry ∈ d ∨ entry.2 = v := by
  induction d with
  | nil => exact .inr (by simp_all [insert])
  | cons first rest ih =>
    unfold insert at h
    split_ifs at h
    · rcases List.mem_cons.1 h with rfl | h
      · exact .inr rfl
      · exact .inl (List.mem_cons_of_mem _ h)
    · rcases List.mem_cons.1 h with rfl | h
      · exact .inl List.mem_cons_self
      · exact (ih h).imp_left (List.mem_cons_of_mem _)

/-! ## Looking up -/

theorem lookup_append (d d' : Dictionary α) (k : String) :
    get? (d ++ d') k = (d.get? k).or (d'.get? k) := by
  simp only [get?, List.lookup_append]

/-- Distinct keys read the same from both ends. -/
theorem lookup_reverse (h : (keys d).Nodup) (k : String) : d.reverse.lookup k = d.get? k := by
  induction d with
  | nil => rfl
  | cons entry rest ih =>
    obtain ⟨key, value⟩ := entry
    rw [keys_cons, List.nodup_cons] at h
    rw [List.reverse_cons, List.lookup_append, ih h.2, get?_cons]
    change (get? rest k).or (get? [(key, value)] k) = _
    rw [get?_cons]
    by_cases hk : k = key
    · rw [get?_eq_none_iff.2 (hk ▸ h.1)]
      rfl
    · simp [hk]

/-- After a merge of distinct keys a key has the value that they give it, else the old one. -/
theorem get?_merge_of_nodup (h : (keys extra).Nodup) (d : Dictionary α) (k : String) :
    (d.merge extra).get? k = (extra.get? k).or (d.get? k) := by
  rw [get?_merge, lookup_reverse h]

theorem getD_merge_of_nodup (h : (keys extra).Nodup) (d : Dictionary α) (k : String)
    (fallback : α) :
    (d.merge extra).getD k fallback = (extra.get? k).getD (d.getD k fallback) := by
  unfold getD
  rw [get?_merge_of_nodup h]
  cases extra.get? k with
  | none => rfl
  | some value => rfl

/-- A choice of keys keeps the entries of the chosen ones. -/
theorem get?_filter (p : String → Bool) (d : Dictionary α) (k : String) :
    get? (d.filter fun entry => p entry.1) k = if p k then d.get? k else none := by
  induction d with
  | nil => simp
  | cons entry rest ih =>
    obtain ⟨key, value⟩ := entry
    rw [List.filter_cons, get?_cons]
    by_cases hk : k = key
    · subst hk
      cases hp : p k <;> simp [hp, ih, get?_cons]
    · cases hp : p key <;> simp [hk, ih, get?_cons]

/-- With distinct keys every entry is the one that is found. -/
theorem get?_eq_some_iff_mem (h : (keys d).Nodup) : d.get? k = some v ↔ (k, v) ∈ d := by
  refine ⟨mem_of_get?, fun hm => ?_⟩
  induction d with
  | nil => cases hm
  | cons entry rest ih =>
    obtain ⟨key, value⟩ := entry
    rw [keys_cons, List.nodup_cons] at h
    rw [get?_cons]
    rcases List.mem_cons.1 hm with he | hm
    · obtain ⟨rfl, rfl⟩ := Prod.mk.inj he
      rw [if_pos rfl]
    · have hk : k ∈ keys rest := List.mem_map_of_mem hm
      have hne : k ≠ key := fun he => h.1 (he ▸ hk)
      rw [if_neg hne]
      exact ih h.2 hm

theorem nodup_keys_filter (p : String × α → Bool) (h : (keys d).Nodup) :
    (keys (d.filter p : Dictionary α)).Nodup :=
  h.sublist (List.filter_sublist.map _)

end Dictionary

/-! ## Keyed values -/

/-- Every object in a value has distinct keys. -/
inductive Value.Keyed : Value → Prop where
  | null : Keyed .null
  | bool (b : Bool) : Keyed (.bool b)
  | int (n : Int) : Keyed (.int n)
  | float (x : Binary64) : Keyed (.float x)
  | str (text : String) : Keyed (.str text)
  | list {items : List Value} (each : ∀ item ∈ items, Keyed item) : Keyed (.list items)
  | object {entries : Dictionary Value} (distinct : (Dictionary.keys entries).Nodup)
      (each : ∀ entry ∈ entries, Keyed entry.2) : Keyed (.object entries)

namespace Value.Keyed

variable {entries : Dictionary Value} {name : String} {value : Value}

theorem distinct_keys (h : (Value.object entries).Keyed) : (Dictionary.keys entries).Nodup := by
  cases h with
  | object distinct each => exact distinct

theorem of_get? (h : (Value.object entries).Keyed) (hv : entries.get? name = some value) :
    value.Keyed := by
  cases h with
  | object distinct each =>
    exact each (name, value) (Dictionary.mem_of_get? hv)

theorem insert (h : (Value.object entries).Keyed) (name : String) (hv : value.Keyed) :
    (Value.object (entries.insert name value)).Keyed := by
  cases h with
  | object distinct each =>
    refine .object (Dictionary.nodup_keys_insert name value distinct) fun entry he => ?_
    rcases Dictionary.mem_insert he with he | he
    · exact each entry he
    · exact he ▸ hv

end Value.Keyed

namespace Json

theorem keyed_of_readNumber {start text rest : List Char} {negative : Bool} {value : Value}
    (h : readNumber start negative text = .ok (value, rest)) : value.Keyed := by
  unfold readNumber at h
  simp only at h
  split_ifs at h <;> cases h
  · exact .int _
  · exact .int _
  · exact .float _

theorem keyed_of_readScalar {text rest : List Char} {value : Value}
    (h : readScalar text = .ok (value, rest)) : value.Keyed := by
  unfold readScalar at h
  split at h
  · rename_i found hf
    cases h
    obtain ⟨word, hw, hd⟩ := List.exists_of_findSome?_eq_some hf
    obtain ⟨_, _, he⟩ := Option.map_eq_some_iff.1 hd
    cases he
    simp only [words, List.mem_cons, List.not_mem_nil, or_false] at hw
    rcases hw with rfl | rfl | rfl | rfl | rfl | rfl <;> constructor
  · split at h <;> exact keyed_of_readNumber h

/-- What the readers of values, items and entries give is keyed, if the items and entries before it
are. -/
theorem keyed_of_readers (fuel : Nat) :
    (∀ {room text value rest}, readValue fuel room text = .ok (value, rest) → value.Keyed) ∧
    (∀ {room done text value rest}, (∀ item ∈ done, item.Keyed) →
      readItems fuel room done text = .ok (value, rest) → value.Keyed) ∧
    (∀ {room done text value rest}, (Value.object done).Keyed →
      readEntries fuel room done text = .ok (value, rest) → value.Keyed) := by
  induction fuel with
  | zero =>
    refine ⟨fun h => ?_, fun _ h => ?_, fun _ h => ?_⟩
    · cases h
    · cases h
    · cases h
  | succ fuel ih =>
    obtain ⟨ihValue, ihItems, ihEntries⟩ := ih
    refine ⟨fun {room text value rest} h => ?_, fun {room done text value rest} hd h => ?_,
      fun {room done text value rest} hd h => ?_⟩
    · unfold readValue at h
      split at h
      · obtain ⟨⟨s, r⟩, _, he⟩ := Outcome.bind_eq_ok_iff.1 h
        cases he
        exact .str s
      · cases h
      · split at h
        · cases h
          exact .list (by simp)
        · exact ihItems (by simp) h
      · cases h
      · split at h
        · cases h
          exact .object (by simp [Dictionary.keys]) (by simp)
        · exact ihEntries (.object (by simp [Dictionary.keys]) (by simp)) h
      · exact keyed_of_readScalar h
    · unfold readItems at h
      obtain ⟨⟨item, r⟩, hi, h⟩ := Outcome.bind_eq_ok_iff.1 h
      have hi := ihValue hi
      have hall : ∀ x ∈ item :: done, x.Keyed := List.forall_mem_cons.2 ⟨hi, hd⟩
      simp only at h
      split at h
      · cases h
        exact .list fun x hx => hall x (List.mem_reverse.1 hx)
      · exact ihItems hall h
      · cases h
    · unfold readEntries at h
      split at h
      · obtain ⟨⟨key, r⟩, _, h⟩ := Outcome.bind_eq_ok_iff.1 h
        simp only at h
        split at h
        · obtain ⟨⟨v, r'⟩, hv, h⟩ := Outcome.bind_eq_ok_iff.1 h
          have hall := hd.insert key (ihValue hv)
          simp only at h
          split at h
          · cases h
            exact hall
          · exact ihEntries hall h
          · cases h
        · cases h
      · cases h

/-- A value read from a text is keyed. -/
theorem keyed_of_read {text : String} {value : Value} (h : read text = .ok value) :
    value.Keyed := by
  unfold read at h
  rw [Outcome.mapError_eq_ok_iff] at h
  unfold readDocument at h
  split_ifs at h
  · cases h
  · obtain ⟨⟨v, rest⟩, hv, h⟩ := Outcome.bind_eq_ok_iff.1 h
    simp only at h
    split at h
    · cases h
      exact (keyed_of_readers _).1 hv
    · cases h

end Json

end StructSchema
