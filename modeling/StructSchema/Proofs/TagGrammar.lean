import Mathlib.Data.Bool.AllAny
import StructSchema.Proofs.TagNames

/-!
# The grammar of tags

A value of a component is a name, alone, with a comma or with `,omitempty` behind it:
`FieldTag.readValue_eq_ok_iff`. A tag on one line is read exactly if its first two pairs are a
`json` and a `bson` component, whatever pairs follow: `FieldTag.read_marked`.
-/

namespace StructSchema.FieldTag

variable {value name : List Char} {found : List Pair}

/-! ## Values -/

/-- The value of a component of a name, and whether it holds `omitempty`. -/
inductive Says (name : List Char) : List Char → Bool → Prop where
  | bare : Says name name false
  | comma : Says name (name ++ [',']) false
  | omitempty : Says name (name ++ ",omitempty".toList) true

variable {word tail : List Char}

/-- A value of a name and more is read by what stands behind the comma. -/
theorem readValue_append (hword : IsName word) (htail : ∀ c ∈ tail.head?, c = ',') (key : String) :
    readValue key (word ++ tail) =
      if (tail.drop 1).isEmpty then .ok (String.ofList word, false)
      else if tail.drop 1 = "omitempty".toList then .ok (String.ofList word, true)
      else .error (.unsupportedOption key (String.ofList (tail.drop 1))) := by
  have hplain : ∀ c ∈ word, (c != ',') = true := by
    intro c hc
    rw [bne_iff_ne]
    exact ne_of_class (hword.2 c hc) (by decide)
  have hstop : ∀ c ∈ tail.head?, (c != ',') = false := by
    intro c hc
    rw [htail c hc]
    rfl
  unfold readValue
  rw [Token.takeWhile_append_of_head? hplain hstop, Token.dropWhile_append_of_head? hplain hstop]
  dsimp only
  rw [hword.isTagName, if_neg (by decide)]

theorem Says.readValue_eq {optional : Bool} (h : Says name value optional) (hname : IsName name)
    (key : String) : readValue key value = .ok (String.ofList name, optional) := by
  cases h with
  | bare =>
    have hread := readValue_append hname (by simp : ∀ c ∈ ([] : List Char).head?, c = ',') key
    rwa [List.append_nil] at hread
  | comma => exact readValue_append hname (by simp) key
  | omitempty =>
    have htail : ∀ c ∈ ",omitempty".toList.head?, c = ',' := by
      intro c hc
      exact (Option.some.inj hc).symm
    exact readValue_append hname htail key

/-- A value on one line that is read is a name, with a comma behind it if there is more. -/
theorem exists_of_readValue {key name : String} {optional : Bool} (hline : '\n' ∉ value)
    (h : readValue key value = .ok (name, optional)) :
    ∃ tail, value = name.toList ++ tail ∧ IsName name.toList ∧ ∀ c ∈ tail.head?, c = ',' := by
  obtain ⟨hname, htag⟩ := name_of_readValue h
  have hfeed : '\n' ∉ name.toList := by
    rw [hname]
    exact fun hm => hline ((List.takeWhile_sublist _).subset hm)
  refine ⟨value.dropWhile (· != ','), ?_, (isName_iff htag).2 hfeed, fun c hc => ?_⟩
  · rw [hname, List.takeWhile_append_dropWhile]
  · simpa using Token.head?_dropWhile_eq_false (· != ',') value c hc

theorem eq_cons_drop_of_head? (htail : ∀ c ∈ tail.head?, c = ',') (hne : tail ≠ []) :
    tail = ',' :: tail.drop 1 := by
  cases tail with
  | nil => exact absurd rfl hne
  | cons c tail => rw [htail c rfl, List.drop_succ_cons, List.drop_zero]

/-- A value on one line is read exactly if it is a name with what may follow it. -/
theorem readValue_eq_ok_iff {key name : String} {optional : Bool} (hline : '\n' ∉ value) :
    readValue key value = .ok (name, optional) ↔
      IsName name.toList ∧ Says name.toList value optional := by
  constructor
  · intro h
    obtain ⟨tail, rfl, hname, htail⟩ := exists_of_readValue hline h
    refine ⟨hname, ?_⟩
    rw [readValue_append hname htail] at h
    split_ifs at h with hempty homit
    · obtain rfl : false = optional := congrArg Prod.snd (Except.ok.inj h)
      by_cases hne : tail = []
      · rw [hne, List.append_nil]
        exact .bare
      · rw [eq_cons_drop_of_head? htail hne, List.isEmpty_iff.1 hempty]
        exact .comma
    · obtain rfl : true = optional := congrArg Prod.snd (Except.ok.inj h)
      have hne : tail ≠ [] := by
        rintro rfl
        exact hempty rfl
      rw [eq_cons_drop_of_head? htail hne, homit]
      exact .omitempty
  · rintro ⟨hname, hsaid⟩
    rw [hsaid.readValue_eq hname key, String.ofList_toList]

/-! ## Components -/

/-- A component of a tag: a name, and whether `omitempty` follows it. -/
def component (key : String) (name : List Char) (optional : Bool) : Pair :=
  ⟨key.toList, name ++ if optional then ",omitempty".toList else []⟩

theorem valid_component {key : String} (hkey : key.toList ≠ [])
    (hkeys : ∀ c ∈ key.toList, Text.isWordChar c) (hword : ∀ c ∈ name, Text.isWordChar c)
    (optional : Bool) : (component key name optional).Valid where
  key_ne_nil := hkey
  isWordChar_of_mem := hkeys
  escaped := by
    refine escaped_of_forall fun c hc => ?_
    rcases List.mem_append.1 hc with hc | hc
    · exact ⟨ne_of_class (hword c hc) (by decide), ne_of_class (hword c hc) (by decide)⟩
    · have hoption : ∀ c ∈ ",omitempty".toList, c ≠ '"' ∧ c ≠ '\\' :=
        List.all_iff_forall_prop.1 rfl
      split at hc
      · exact hoption c hc
      · cases hc

theorem says_component (key : String) (name : List Char) (optional : Bool) :
    Says name (component key name optional).value optional := by
  cases optional with
  | false =>
    show Says name (name ++ []) false
    rw [List.append_nil]
    exact .bare
  | true => exact .omitempty

/-! ## Tags -/

variable {said : FieldTag} {content : String}

/-- What the first two pairs of a tag say. -/
structure Tells (json bson : Pair) (said : FieldTag) : Prop where
  json_key : json.key = "json".toList
  bson_key : bson.key = "bson".toList
  json_value : ∃ name, IsName name ∧ Says name json.value (!said.required)
  isName_name : IsName said.name.toList
  bson_value : ∃ optional, Says said.name.toList bson.value optional

theorem tells_component {jsonName bsonName : List Char} (hjson : IsName jsonName)
    (hbson : IsName bsonName) (jsonOptional bsonOptional : Bool) :
    Tells (component "json" jsonName jsonOptional) (component "bson" bsonName bsonOptional)
      ⟨String.ofList bsonName, !jsonOptional⟩ where
  json_key := rfl
  bson_key := rfl
  json_value := by
    rw [Bool.not_not]
    exact ⟨jsonName, hjson, says_component "json" jsonName jsonOptional⟩
  isName_name := by rwa [String.toList_ofList]
  bson_value := by
    rw [String.toList_ofList]
    exact ⟨bsonOptional, says_component "bson" bsonName bsonOptional⟩

theorem ofPairs_of_tells {json bson : Pair} (h : Tells json bson said) (more : List Pair) :
    ofPairs (json :: bson :: more) = .ok said := by
  obtain ⟨jsonName, hjsonName, hjsonSays⟩ := h.json_value
  obtain ⟨optional, hbsonSays⟩ := h.bson_value
  rw [ofPairs, if_neg (not_not_intro h.json_key), if_neg (not_not_intro h.bson_key),
    hjsonSays.readValue_eq hjsonName, hbsonSays.readValue_eq h.isName_name]
  show Except.ok (⟨String.ofList said.name.toList, !!said.required⟩ : FieldTag) = _
  rw [Bool.not_not, String.ofList_toList]

theorem ofPairs_eq_ok_iff (hline : ∀ pair ∈ found, '\n' ∉ pair.value) :
    ofPairs found = .ok said ↔ ∃ json bson more, found = json :: bson :: more ∧
      Tells json bson said := by
  constructor
  · intro h
    unfold ofPairs at h
    split at h
    · rename_i json bson more
      split_ifs at h with hjson hbson
      obtain ⟨⟨jsonName, optional⟩, hjsonValue, h⟩ := Outcome.bind_eq_ok_iff.1 h
      obtain ⟨⟨name, bsonOptional⟩, hbsonValue, h⟩ := Outcome.bind_eq_ok_iff.1 h
      cases h
      obtain ⟨hjsonName, hjsonSays⟩ :=
        (readValue_eq_ok_iff (hline json List.mem_cons_self)).1 hjsonValue
      obtain ⟨hname, hbsonSays⟩ := (readValue_eq_ok_iff (hline bson (by simp))).1 hbsonValue
      refine ⟨json, bson, more, rfl, not_not.1 hjson, not_not.1 hbson, ⟨_, hjsonName, ?_⟩, hname,
        _, hbsonSays⟩
      rwa [Bool.not_not]
    · cases h
  · rintro ⟨json, bson, more, rfl, htells⟩
    exact ofPairs_of_tells htells more

/-- The backquotes around a tag are no part of it. -/
theorem stripMarks_append {inner : List Char} (hhead : ∀ c ∈ inner.head?, c ≠ '`')
    (hlast : ∀ c ∈ inner.getLast?, c ≠ '`') : stripMarks ('`' :: (inner ++ ['`'])) = inner := by
  have hstop : ∀ {text : List Char}, (∀ c ∈ text.head?, c ≠ '`') →
      text.dropWhile (· == '`') = text := by
    intro text htext
    cases text with
    | nil => rfl
    | cons c text => exact List.dropWhile_cons_of_neg (by simpa using htext c rfl)
  unfold stripMarks
  rw [List.dropWhile_cons_of_pos (by decide)]
  cases inner with
  | nil => rfl
  | cons c inner =>
    have hfirst : ∀ d ∈ (c :: inner ++ ['`']).head?, d ≠ '`' := hhead
    rw [hstop hfirst, List.reverse_append, List.reverse_singleton, List.singleton_append,
      List.dropWhile_cons_of_pos (by decide), hstop, List.reverse_reverse]
    rwa [List.head?_reverse]

/-- Between backquotes a text without them is read as it stands. -/
theorem read_eq (hmark : '`' ∉ content.toList) :
    read ("`" ++ content ++ "`") = pairs content.toList >>= ofPairs := by
  have hne : ∀ c ∈ content.toList, c ≠ '`' := fun c hc he => hmark (he ▸ hc)
  have hstrip : stripMarks ("`" ++ content ++ "`").toList = content.toList := by
    rw [String.toList_append, String.toList_append]
    exact stripMarks_append (fun c hc => hne c (List.mem_of_head? hc))
      fun c hc => hne c (List.mem_of_getLast? hc)
  unfold read
  rw [hstrip]

/-- A tag on one line says what its first two pairs tell. -/
theorem read_eq_ok_iff_tells (hmark : '`' ∉ content.toList) (hline : '\n' ∉ content.toList) :
    read ("`" ++ content ++ "`") = .ok said ↔ ∃ gaps json bson more,
      Spaced content.toList gaps (json :: bson :: more) ∧ Tells json bson said := by
  rw [read_eq hmark, Outcome.bind_eq_ok_iff]
  constructor
  · rintro ⟨found, hfound, h⟩
    have hlines : ∀ pair ∈ found, '\n' ∉ pair.value := fun pair hp hm =>
      hline (mem_of_pairs hfound hp hm)
    obtain ⟨json, bson, more, rfl, htells⟩ := (ofPairs_eq_ok_iff hlines).1 h
    obtain ⟨gaps, hspaced⟩ := pairs_eq_ok_iff.1 hfound
    exact ⟨gaps, json, bson, more, hspaced, htells⟩
  · rintro ⟨gaps, json, bson, more, hspaced, htells⟩
    exact ⟨_, hspaced.pairs_eq, ofPairs_of_tells htells more⟩

/-- **The grammar of tags.** A tag on one line says something exactly if what stands between its
backquotes is pairs with white space between them, of which the first two tell it; else it is
refused. The split into pairs and white space is the only one, and the pairs behind the second do
not matter. -/
theorem read_marked (hmark : '`' ∉ content.toList) (hline : '\n' ∉ content.toList) :
    (∀ said, read ("`" ++ content ++ "`") = .ok said ↔ ∃ gaps json bson more,
      Spaced content.toList gaps (json :: bson :: more) ∧ Tells json bson said) ∧
    ((∃ fault, read ("`" ++ content ++ "`") = .error fault) ↔ ¬ ∃ said gaps json bson more,
      Spaced content.toList gaps (json :: bson :: more) ∧ Tells json bson said) ∧
    (∀ gaps found otherGaps other, Spaced content.toList gaps found →
      Spaced content.toList otherGaps other → gaps = otherGaps ∧ found = other) ∧
    ∀ (other : String) gaps otherGaps json bson more otherMore,
      '`' ∉ other.toList → '\n' ∉ other.toList →
      Spaced content.toList gaps (json :: bson :: more) →
      Spaced other.toList otherGaps (json :: bson :: otherMore) →
        read ("`" ++ other ++ "`") = read ("`" ++ content ++ "`") := by
  refine ⟨fun said => read_eq_ok_iff_tells hmark hline, ?_, fun _ _ _ _ h h' => h.unique h', ?_⟩
  · rw [Outcome.exists_error_iff]
    simp only [read_eq_ok_iff_tells hmark hline]
  · intro other gaps otherGaps json bson more otherMore hmark' hline' h h'
    rw [read_eq hmark, read_eq hmark', h.pairs_eq, h'.pairs_eq]
    rfl

/-- A pair whose value is a quote. -/
def quotePair : Pair := ⟨"validate".toList, ['\\', '"']⟩

/-- Two components with nothing between them, and a pair behind them whose value is a quote. -/
def adjacentContent : String := " json:\"a\"bson:\"b,omitempty\"\tvalidate:\"\\\"\""

theorem spaced_adjacentContent : Spaced adjacentContent.toList [[' '], [], ['\t'], []]
    [component "json" ['a'] false, component "bson" ['b'] true, quotePair] := by
  have hquote : quotePair.Valid :=
    ⟨by decide, List.all_iff_forall_prop.1 rfl, .escaped (by decide) .nil⟩
  have hjson : (component "json" ['a'] false).Valid :=
    valid_component (by decide) (List.all_iff_forall_prop.1 rfl) (List.all_iff_forall_prop.1 rfl)
      false
  have hbson : (component "bson" ['b'] true).Valid :=
    valid_component (by decide) (List.all_iff_forall_prop.1 rfl) (List.all_iff_forall_prop.1 rfl)
      true
  have htext : adjacentContent.toList = [' '] ++ ((component "json" ['a'] false).text ++ ([] ++
      ((component "bson" ['b'] true).text ++ (['\t'] ++ (quotePair.text ++ []))))) := by cbv
  rw [htext]
  exact .pair (List.all_iff_forall_prop.1 rfl) hjson
    (.pair (List.all_iff_forall_prop.1 rfl) hbson
      (.pair (List.all_iff_forall_prop.1 rfl) hquote (.last (List.all_iff_forall_prop.1 rfl))))

/-- The two components are read, and the pair behind them is passed over. -/
theorem read_marked_quotePair : '`' ∉ adjacentContent.toList ∧ '\n' ∉ adjacentContent.toList ∧
    read ("`" ++ adjacentContent ++ "`") = .ok ⟨"b", true⟩ := by
  have hmark : '`' ∉ adjacentContent.toList := by decide
  have hline : '\n' ∉ adjacentContent.toList := by decide
  have ha : IsName ['a'] := ⟨by decide, List.all_iff_forall_prop.1 rfl⟩
  have hb : IsName ['b'] := ⟨by decide, List.all_iff_forall_prop.1 rfl⟩
  exact ⟨hmark, hline, ((read_marked hmark hline).1 _).2
    ⟨_, _, _, _, spaced_adjacentContent, tells_component ha hb false true⟩⟩

end StructSchema.FieldTag
