import StructSchema.Text.Blank
import StructSchema.Text.Lines
import StructSchema.Text.Quoted
import StructSchema.Text.Word

/-!
# Field tags

The tag of a field is a raw string of `key:"value"` pairs. The first pair has to be the `json`
component and the second the `bson` component; each value is a name, optionally followed by a
comma and `omitempty`. The field is named by its `bson` component and is required unless the
`json` component says otherwise. `FieldTag.read` finds the pairs by searching, and whatever lies
between them has to be blank.
-/

namespace StructSchema

/-- What a field tag says: the name of the field in the store, and whether it must be present. -/
structure FieldTag where
  name : String
  required : Bool
  deriving DecidableEq, Repr

namespace FieldTag

/-- Why a tagged line declares no field. -/
inductive Fault where
  | tagNotLast
  | missingNameOrType
  | invalidName (value : String)
  | invalidType (value : String)
  | invalidTypeExpression
  | unexpectedText (text : String)
  | missingComponents
  | jsonNotFirst (key : String)
  | bsonNotSecond (key : String)
  | invalidTagName (key name : String)
  | unsupportedOption (key option : String)
  deriving DecidableEq, Repr

/-- The wording of a fault. -/
def Fault.message : Fault → String
  | .tagNotLast => "tag must end the field declaration"
  | .missingNameOrType => "expected a field name and a type before the tag"
  | .invalidName value => s!"invalid field name {Text.quote value}"
  | .invalidType value => s!"invalid field type {Text.quote value}"
  | .invalidTypeExpression => "invalid type expression"
  | .unexpectedText text => s!"unexpected text in tag: {Text.quote text}"
  | .missingComponents => "expected json and bson tag components"
  | .jsonNotFirst key => s!"expected json tag first, found {Text.quote key}"
  | .bsonNotSecond key => s!"expected bson tag after json, found {Text.quote key}"
  | .invalidTagName key name => s!"{key} tag name {Text.quote name} is not an identifier"
  | .unsupportedOption key option => s!"unsupported {key} tag option {Text.quote option}"

/-- A component of a tag, its value as written. -/
structure Pair where
  key : List Char
  value : List Char
  deriving DecidableEq, Repr

/-- Reads a quoted value up to its closing quote. A backslash takes the next character with it,
which may not be a line feed. -/
def closeQuote? : List Char → Option (List Char × List Char)
  | [] => none
  | '"' :: rest => some ([], rest)
  | '\\' :: c :: rest =>
    if c = '\n' then none
    else (closeQuote? rest).map fun (value, rest) => ('\\' :: c :: value, rest)
  | '\\' :: [] => none
  | c :: rest => (closeQuote? rest).map fun (value, rest) => (c :: value, rest)

/-- Reads the pair at the start of a text. -/
def pairAt? (text : List Char) : Option (Pair × List Char) :=
  let key := text.takeWhile Text.isWordChar
  match text.dropWhile Text.isWordChar with
  | ':' :: '"' :: body =>
    if key.isEmpty then none
    else (closeQuote? body).map fun (value, rest) => (⟨key, value⟩, rest)
  | _ => none

/-- Finds the first pair of a text: the text before it, the pair, and the text after it. `inWord`
tells whether a word character stands before the text; a pair is not looked for in the middle of a
word, where there is one only if there is one at its start. -/
def pairIn? (inWord : Bool) : List Char → Option (List Char × Pair × List Char)
  | [] => none
  | c :: text =>
    match if inWord then none else pairAt? (c :: text) with
    | some (pair, rest) => some ([], pair, rest)
    | none =>
      (pairIn? (Text.isWordChar c) text).map fun (gap, pair, rest) => (c :: gap, pair, rest)

/-- Finds the first pair of a text, with what stands before it and after it. -/
def nextPair? (text : List Char) : Option (List Char × Pair × List Char) := pairIn? false text

theorem closeQuote?_length {text value rest : List Char}
    (h : closeQuote? text = some (value, rest)) : rest.length < text.length := by
  induction text using closeQuote?.induct generalizing value rest with
  | case1 => simp [closeQuote?] at h
  | case2 r =>
    simp only [closeQuote?, Option.some.injEq, Prod.mk.injEq] at h
    obtain ⟨_, rfl⟩ := h
    simp
  | case3 r => simp [closeQuote?] at h
  | case4 c r hc ih =>
    simp only [closeQuote?, if_neg hc, Option.map_eq_some_iff] at h
    obtain ⟨⟨v, r'⟩, hr, he⟩ := h
    simp only [Prod.mk.injEq] at he
    obtain ⟨_, rfl⟩ := he
    have := ih hr
    simp only [List.length_cons]
    omega
  | case5 => simp [closeQuote?] at h
  | case6 c r h1 h2 h3 ih =>
    rw [closeQuote?.eq_def] at h
    split at h
    · simp at *
    · simp_all
    · simp_all
    · simp_all
    · rename_i c' r' _ _ _ he
      obtain ⟨rfl, rfl⟩ := List.cons.inj he
      simp only [Option.map_eq_some_iff] at h
      obtain ⟨⟨v, q⟩, hr, he⟩ := h
      simp only [Prod.mk.injEq] at he
      obtain ⟨_, rfl⟩ := he
      have := ih hr
      simp only [List.length_cons]
      omega

theorem pairAt?_length {text rest : List Char} {pair : Pair}
    (h : pairAt? text = some (pair, rest)) : rest.length < text.length := by
  have hd : (text.dropWhile Text.isWordChar).length ≤ text.length :=
    (List.dropWhile_sublist _).length_le
  simp only [pairAt?] at h
  split at h
  · rename_i body hb
    split at h
    · simp at h
    · simp only [Option.map_eq_some_iff] at h
      obtain ⟨⟨v, r⟩, hr, he⟩ := h
      simp only [Prod.mk.injEq] at he
      obtain ⟨_, rfl⟩ := he
      have := closeQuote?_length hr
      rw [hb] at hd
      simp only [List.length_cons] at hd
      omega
  · simp at h

theorem pairIn?_length {inWord : Bool} {text gap rest : List Char} {pair : Pair}
    (h : pairIn? inWord text = some (gap, pair, rest)) : rest.length < text.length := by
  induction text generalizing gap inWord with
  | nil => simp [pairIn?] at h
  | cons c text ih =>
    simp only [pairIn?] at h
    split at h
    · rename_i pair' rest' hp
      split at hp
      · simp at hp
      · simp only [Option.some.injEq, Prod.mk.injEq] at h
        obtain ⟨_, rfl, rfl⟩ := h
        exact pairAt?_length hp
    · simp only [Option.map_eq_some_iff] at h
      obtain ⟨⟨g, p, r⟩, hr, he⟩ := h
      simp only [Prod.mk.injEq] at he
      obtain ⟨_, rfl, rfl⟩ := he
      have := ih hr
      simp only [List.length_cons]
      omega

theorem nextPair?_length {text gap rest : List Char} {pair : Pair}
    (h : nextPair? text = some (gap, pair, rest)) : rest.length < text.length :=
  pairIn?_length h

/-- After a word character there is a pair only if there was one at that character. -/
theorem pairAt?_eq_none_of_cons {c d : Char} {text : List Char} (hc : Text.isWordChar c = true)
    (hd : Text.isWordChar d = true) (h : pairAt? (c :: d :: text) = none) :
    pairAt? (d :: text) = none := by
  simp only [pairAt?, List.takeWhile_cons, List.dropWhile_cons, hc, hd, if_true,
    List.isEmpty_cons, Bool.false_eq_true, if_false] at h ⊢
  split at h <;> simp_all

/-- Refuses a stretch between pairs that is not blank. -/
def checkGap (gap : List Char) : Except Fault Unit :=
  match Text.trim gap with
  | [] => .ok ()
  | text => .error (.unexpectedText (String.ofList text))

/-- The pairs of a text in order. -/
def pairs (text : List Char) : Except Fault (List Pair) :=
  match _ : nextPair? text with
  | none => do
    checkGap text
    .ok []
  | some (gap, pair, rest) => do
    checkGap gap
    let more ← pairs rest
    .ok (pair :: more)
termination_by text.length
decreasing_by exact nextPair?_length (by assumption)

/-- The text without the backquotes at its ends. -/
def stripMarks (text : List Char) : List Char :=
  ((text.dropWhile (· == '`')).reverse.dropWhile (· == '`')).reverse

/-- Whether a text is a name in a tag: word characters, and perhaps a line feed after them. -/
def isTagName (text : List Char) : Bool :=
  let word := Text.dropFinalLineFeed text
  !word.isEmpty && word.all Text.isWordChar

/-- The name in a component's value, and whether `omitempty` follows it. -/
def readValue (key : String) (value : List Char) : Except Fault (String × Bool) :=
  let name := value.takeWhile (· != ',')
  let option := (value.dropWhile (· != ',')).drop 1
  if !isTagName name then .error (.invalidTagName key (String.ofList name))
  else if option.isEmpty then .ok (String.ofList name, false)
  else if option = "omitempty".toList then .ok (String.ofList name, true)
  else .error (.unsupportedOption key (String.ofList option))

/-- What the components of a tag say; those after the second say nothing. -/
def ofPairs : List Pair → Except Fault FieldTag
  | json :: bson :: _ =>
    if json.key ≠ "json".toList then .error (.jsonNotFirst (String.ofList json.key))
    else if bson.key ≠ "bson".toList then .error (.bsonNotSecond (String.ofList bson.key))
    else do
      let (_, optional) ← readValue "json" json.value
      let (name, _) ← readValue "bson" bson.value
      .ok ⟨name, !optional⟩
  | _ => .error .missingComponents

/-- What a tag with its backquotes says. -/
def read (tag : String) : Except Fault FieldTag := do
  let found ← pairs (stripMarks tag.toList)
  ofPairs found

end FieldTag

end StructSchema
