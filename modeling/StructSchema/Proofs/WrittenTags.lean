import StructSchema.Proofs.TagGrammar

/-!
# Written tags

A tag that is written as a `json` component, a `bson` component and further pairs, each behind a
space, is read as the first two say, whatever the further ones hold: `FieldTag.read_text`.
-/

namespace StructSchema.FieldTag

variable {pair : Pair} {name : List Char}

/-- The text of pairs, each behind a space. -/
def moreText (pairs : List Pair) : List Char := pairs.flatMap fun pair => ' ' :: pair.text

theorem exists_spaced_moreText {more : List Pair} (h : ∀ pair ∈ more, pair.Valid) :
    ∃ gaps, Spaced (moreText more) gaps more := by
  induction more with
  | nil => exact ⟨[[]], .last (List.forall_mem_nil _)⟩
  | cons pair more ih =>
    rw [List.forall_mem_cons] at h
    obtain ⟨gaps, hspaced⟩ := ih h.2
    have hblank : ∀ c ∈ [' '], Text.isBlank c := List.all_iff_forall_prop.1 rfl
    exact ⟨[' '] :: gaps, .pair hblank h.1 hspaced⟩

/-- Pairs are read as they were written. -/
theorem pairs_text {more : List Pair} (hp : pair.Valid) (h : ∀ pair ∈ more, pair.Valid) :
    pairs (pair.text ++ moreText more) = .ok (pair :: more) := by
  obtain ⟨gaps, hspaced⟩ := exists_spaced_moreText h
  have hfirst : Spaced ([] ++ (pair.text ++ moreText more)) ([] :: gaps) (pair :: more) :=
    .pair (by simp) hp hspaced
  exact hfirst.pairs_eq

/-- The text of a tag. -/
def text (json bson : Pair) (more : List Pair) : List Char :=
  '`' :: (json.text ++ moreText (bson :: more) ++ ['`'])

/-- A text that can stand in a raw string on one line. -/
def IsRaw (text : List Char) : Prop := ∀ c ∈ text, c ≠ '`' ∧ c ≠ '\n'

theorem isRaw_of_word {text : List Char} (h : ∀ c ∈ text, Text.isWordChar c) : IsRaw text :=
  fun c hc => ⟨ne_of_class (h c hc) (by decide), ne_of_class (h c hc) (by decide)⟩

theorem Pair.isRaw_text (hkey : ∀ c ∈ pair.key, Text.isWordChar c) (hvalue : IsRaw pair.value) :
    IsRaw pair.text := by
  intro c hc
  simp only [Pair.text, List.mem_append, List.mem_cons, List.not_mem_nil, or_false] at hc
  rcases hc with hc | rfl | rfl | hc | rfl
  · exact isRaw_of_word hkey c hc
  · decide
  · decide
  · exact hvalue c hc
  · decide

theorem isRaw_component {key : String} (hkey : ∀ c ∈ key.toList, Text.isWordChar c)
    (hname : ∀ c ∈ name, Text.isWordChar c) (optional : Bool) :
    IsRaw (component key name optional).text := by
  refine Pair.isRaw_text hkey fun c hc => ?_
  rcases List.mem_append.1 hc with hc | hc
  · exact isRaw_of_word hname c hc
  · have hoption : IsRaw ",omitempty".toList := List.all_iff_forall_prop.1 rfl
    split at hc
    · exact hoption c hc
    · cases hc

theorem isRaw_moreText {more : List Pair} (h : ∀ pair ∈ more, IsRaw pair.text) :
    IsRaw (moreText more) := by
  intro c hc
  obtain ⟨pair, hp, hc⟩ := List.mem_flatMap.1 hc
  rcases List.mem_cons.1 hc with rfl | hc
  · decide
  · exact h pair hp c hc

theorem getLast?_moreText (pair : Pair) (more : List Pair) :
    (moreText (pair :: more)).getLast? = some '"' := by
  have hpair : ∀ pair : Pair, pair.text.getLast? = some '"' := fun pair => by
    simp [Pair.text, List.getLast?_append, List.getLast?_cons]
  induction more generalizing pair with
  | nil =>
    show (' ' :: pair.text ++ []).getLast? = _
    rw [List.append_nil, List.getLast?_cons, hpair]
    rfl
  | cons next more ih =>
    show (' ' :: pair.text ++ moreText (next :: more)).getLast? = _
    rw [List.getLast?_append, ih]
    rfl

/-- A tag is named by its second component, and its first one says whether it is required. -/
theorem read_text {jsonName bsonName : List Char} (hjson : jsonName ≠ [])
    (hjsons : ∀ c ∈ jsonName, Text.isWordChar c) (hbson : bsonName ≠ [])
    (hbsons : ∀ c ∈ bsonName, Text.isWordChar c) (jsonOptional bsonOptional : Bool)
    {more : List Pair} (hmore : ∀ pair ∈ more, pair.Valid) :
    read (String.ofList (text (component "json" jsonName jsonOptional)
      (component "bson" bsonName bsonOptional) more)) =
        .ok ⟨String.ofList bsonName, !jsonOptional⟩ := by
  have hjsonValid : (component "json" jsonName jsonOptional).Valid :=
    valid_component (by decide) (List.all_iff_forall_prop.1 rfl) hjsons jsonOptional
  have hbsonValid : (component "bson" bsonName bsonOptional).Valid :=
    valid_component (by decide) (List.all_iff_forall_prop.1 rfl) hbsons bsonOptional
  have hall : ∀ pair ∈ component "bson" bsonName bsonOptional :: more, pair.Valid :=
    List.forall_mem_cons.2 ⟨hbsonValid, hmore⟩
  have hstrip : stripMarks (text (component "json" jsonName jsonOptional)
      (component "bson" bsonName bsonOptional) more) =
        (component "json" jsonName jsonOptional).text ++
          moreText (component "bson" bsonName bsonOptional :: more) := by
    refine stripMarks_append ?_ ?_
    · intro c hc
      obtain rfl : 'j' = c := Option.some.inj hc
      decide
    · intro c hc
      rw [List.getLast?_append, getLast?_moreText] at hc
      obtain rfl : '"' = c := Option.some.inj hc
      decide
  unfold read
  rw [String.toList_ofList, hstrip, pairs_text hjsonValid hall]
  exact ofPairs_of_tells
    (tells_component ⟨hjson, hjsons⟩ ⟨hbson, hbsons⟩ jsonOptional bsonOptional) more

end StructSchema.FieldTag
