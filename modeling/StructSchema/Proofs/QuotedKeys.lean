import Mathlib.Algebra.Ring.Parity
import Mathlib.Data.List.DropRight
import StructSchema.PropertyKey

/-!
# Names read back from their property keys

A key that is no identifier stands between single quotes. `PropertyKey.Spells` is the grammar of
what stands there and of the name it stands for: each name has one spelling, `spells_iff`, and this
is the name with its backslashes doubled and then a backslash before each quote,
`escape_eq_replaceEach`. In a spelling every quote is escaped, `Spells.endsEscaping_front`, and the
quote that closes it is not, `Spells.not_endsEscaping`; so a quoted name ends where its quotes do,
whatever follows, `opensWith_iff`. Hence a name is read back from its key, `toName_ofName`, and
distinct names have distinct keys, `ofName_injective`; `name_of_key` says all of it for one name.
-/

namespace StructSchema.PropertyKey

variable {c : Char} {text inside name other said front back more rest later : List Char}

/-! ## Escaping backslashes -/

/-- The number of backslashes at the end of a text. -/
def finalBackslashes (text : List Char) : Nat := (text.rtakeWhile (· == '\\')).length

/-- A text ends in a backslash that escapes what follows. Of backslashes side by side the first
escapes the second, the third the fourth, and so on. -/
def EndsEscaping (text : List Char) : Prop := Odd (finalBackslashes text)

instance : DecidablePred EndsEscaping := fun text =>
  inferInstanceAs (Decidable (Odd (finalBackslashes text)))

theorem finalBackslashes_of_forall (h : ∀ d ∈ text, d = '\\') :
    finalBackslashes text = text.length := by
  unfold finalBackslashes
  rw [List.rtakeWhile_eq_self_iff.2 fun d hd => beq_iff_eq.2 (h d hd)]

theorem finalBackslashes_cons (h : ¬ ∀ d ∈ c :: text, d = '\\') :
    finalBackslashes (c :: text) = finalBackslashes text := by
  unfold finalBackslashes List.rtakeWhile
  rw [List.reverse_cons, List.takeWhile_append]
  split
  · -- All of the text is backslashes, so the character in front of it is none.
    rename_i hlength
    have hself := (List.takeWhile_prefix (· == '\\')).eq_of_length hlength
    have hc : c ≠ '\\' := by
      rintro rfl
      refine h (List.forall_mem_cons.2 ⟨rfl, fun d hd => ?_⟩)
      rw [← List.mem_reverse, ← hself] at hd
      simpa using List.mem_takeWhile_imp hd
    rw [List.takeWhile_cons_of_neg (by simpa using hc), List.append_nil, hself]
  · rfl

theorem not_endsEscaping_nil : ¬ EndsEscaping [] := by decide

/-- A single backslash escapes what follows. -/
theorem endsEscaping_singleton : EndsEscaping ['\\'] := by decide

/-- A character that is no backslash escapes nothing. -/
theorem endsEscaping_cons_iff (hc : c ≠ '\\') : EndsEscaping (c :: text) ↔ EndsEscaping text := by
  unfold EndsEscaping
  rw [finalBackslashes_cons fun h => hc (h c List.mem_cons_self)]

/-- A backslash and the character behind it escape nothing that follows. -/
theorem endsEscaping_pair_iff : EndsEscaping ('\\' :: c :: text) ↔ EndsEscaping text := by
  unfold EndsEscaping
  by_cases h : ∀ d ∈ '\\' :: c :: text, d = '\\'
  · have htext : ∀ d ∈ text, d = '\\' := fun d hd =>
      h d (List.mem_cons_of_mem _ (List.mem_cons_of_mem _ hd))
    rw [finalBackslashes_of_forall h, finalBackslashes_of_forall htext, List.length_cons,
      List.length_cons, Nat.odd_iff, Nat.odd_iff]
    omega
  · have hrest : ¬ ∀ d ∈ c :: text, d = '\\' := fun hrest =>
      h (List.forall_mem_cons.2 ⟨rfl, hrest⟩)
    rw [finalBackslashes_cons h, finalBackslashes_cons hrest]

/-! ## Spellings -/

/-- What stands between the quotes of a key, and the name that it stands for. A backslash stands
only in front of a backslash or a quote, and the two stand for the second; every other character
stands for itself. -/
inductive Spells : List Char → List Char → Prop where
  | nil : Spells [] []
  | escaped {c : Char} {inside name : List Char} (hc : c = '\\' ∨ c = '\'')
    (h : Spells inside name) : Spells ('\\' :: c :: inside) (c :: name)
  | plain {c : Char} {inside name : List Char} (hc : ¬ (c = '\\' ∨ c = '\''))
    (h : Spells inside name) : Spells (c :: inside) (c :: name)

theorem spells_escape (name : List Char) : Spells (escape name) name := by
  induction name with
  | nil => exact .nil
  | cons c name ih =>
    rw [escape]
    split
    · rename_i hc
      exact .escaped hc ih
    · rename_i hc
      exact .plain hc ih

/-- Each name has one spelling. -/
theorem spells_iff : Spells inside name ↔ inside = escape name := by
  constructor
  · intro h
    induction h with
    | nil => rfl
    | escaped hc _ ih => rw [escape, if_pos hc, ih]
    | plain hc _ ih => rw [escape, if_neg hc, ih]
  · rintro rfl
    exact spells_escape name

theorem Spells.unescape_eq (h : Spells inside name) : unescape inside = name := by
  rw [spells_iff.1 h, unescape_escape]

theorem Spells.length_le (h : Spells inside name) : name.length ≤ inside.length := by
  induction h with
  | nil => exact Nat.le_refl 0
  | escaped _ _ ih =>
    simp only [List.length_cons]
    omega
  | plain _ _ ih => exact Nat.succ_le_succ ih

/-- A quote in a spelling is escaped. -/
theorem Spells.endsEscaping_front (h : Spells inside name)
    (hsplit : inside = front ++ '\'' :: back) : EndsEscaping front := by
  induction h generalizing front with
  | nil => exact absurd hsplit (by simp)
  | escaped _ _ ih =>
    -- The character behind the backslash is the quote, or the quote stands further behind.
    match front with
    | [] => exact absurd (List.cons.inj hsplit).1 (by decide)
    | [d] =>
      obtain ⟨rfl, -⟩ := List.cons.inj hsplit
      exact endsEscaping_singleton
    | d :: e :: front =>
      obtain ⟨rfl, htail⟩ := List.cons.inj hsplit
      exact endsEscaping_pair_iff.2 (ih (List.cons.inj htail).2)
  | plain hc _ ih =>
    rw [not_or] at hc
    cases front with
    | nil => exact absurd (List.cons.inj hsplit).1 hc.2
    | cons d front =>
      obtain ⟨rfl, htail⟩ := List.cons.inj hsplit
      exact (endsEscaping_cons_iff hc.1).2 (ih htail)

/-- What follows a spelling is not escaped. -/
theorem Spells.not_endsEscaping (h : Spells inside name) : ¬ EndsEscaping inside := by
  induction h with
  | nil => exact not_endsEscaping_nil
  | escaped _ _ ih => rwa [endsEscaping_pair_iff]
  | plain hc _ ih => rwa [endsEscaping_cons_iff (not_or.1 hc).1]

/-- No quote behind a spelling belongs to a longer one. -/
theorem Spells.eq_nil_of_append (h : Spells inside name) (hlonger : Spells (inside ++ more) said)
    (he : '\'' :: rest = more ++ '\'' :: later) : more = [] := by
  cases more with
  | nil => rfl
  | cons c more =>
    obtain ⟨rfl, -⟩ := List.cons.inj he
    exact absurd (hlonger.endsEscaping_front rfl) h.not_endsEscaping

/-- In front of a text there is at most one spelling that a quote closes. -/
theorem Spells.append_inj (h : Spells inside name) (hother : Spells other said)
    (he : inside ++ '\'' :: rest = other ++ '\'' :: later) : inside = other ∧ rest = later := by
  have hinside : inside = other := by
    rcases List.append_eq_append_iff.1 he with ⟨more, rfl, hmore⟩ | ⟨more, rfl, hmore⟩
    · rw [h.eq_nil_of_append hother hmore, List.append_nil]
    · rw [hother.eq_nil_of_append h hmore, List.append_nil]
  rw [hinside] at he
  exact ⟨hinside, (List.cons.inj (List.append_cancel_left he)).2⟩

/-- A text starts with a name between quotes, and something follows the closing one. -/
def OpensWith (text name rest : List Char) : Prop :=
  ∃ inside, Spells inside name ∧ text = '\'' :: (inside ++ '\'' :: rest)

/-- A quoted name is the only one in front of what follows it. -/
theorem opensWith_iff : OpensWith ('\'' :: (escape name ++ '\'' :: rest)) said later ↔
    said = name ∧ later = rest := by
  constructor
  · rintro ⟨inside, hinside, he⟩
    obtain ⟨rfl, rfl⟩ := (spells_escape name).append_inj hinside (List.cons.inj he).2
    rw [← hinside.unescape_eq, unescape_escape]
    exact ⟨rfl, rfl⟩
  · rintro ⟨rfl, rfl⟩
    exact ⟨escape said, spells_escape said, rfl⟩

/-! ## Replaced characters -/

/-- A text with another one in place of each occurrence of a character. -/
def replaceEach (old : Char) (new : List Char) (text : List Char) : List Char :=
  text.flatMap fun c => if c = old then new else [c]

theorem replaceEach_cons (old : Char) (new : List Char) (c : Char) (text : List Char) :
    replaceEach old new (c :: text) = (if c = old then new else [c]) ++ replaceEach old new text :=
  List.flatMap_cons

theorem replaceEach_append (old : Char) (new text more : List Char) :
    replaceEach old new (text ++ more) = replaceEach old new text ++ replaceEach old new more :=
  List.flatMap_append

/-- Escaping doubles the backslashes and then puts a backslash before each quote. -/
theorem escape_eq_replaceEach (text : List Char) :
    escape text = replaceEach '\'' ['\\', '\''] (replaceEach '\\' ['\\', '\\'] text) := by
  induction text with
  | nil => rfl
  | cons c text ih =>
    rw [escape, replaceEach_cons, replaceEach_append, ← ih]
    split_ifs with hc hslash hslash
    · rw [hslash]
      rfl
    · rw [hc.resolve_left hslash]
      rfl
    · exact absurd (.inl hslash) hc
    · rw [replaceEach_cons, if_neg (not_or.1 hc).2]
      rfl

/-! ## Names of keys -/

/-- The name of a property key: what stands between its quotes, unescaped, or the key itself. -/
def toNameList : List Char → List Char
  | '\'' :: rest => unescape rest.dropLast
  | key => key

/-- The name of a property key. -/
def toName (key : String) : String := String.ofList (toNameList key.toList)

theorem exists_head?_of_isIdentifier (h : isIdentifier text) : ∃ c ∈ text.head?, isStart c := by
  unfold isIdentifier at h
  split at h
  · cases h
  · rename_i c rest hdrop
    rw [Bool.and_eq_true] at h
    refine ⟨c, ?_, h.1⟩
    rcases Text.dropFinalLineFeed_cases text with htext | htext
    · rw [htext, hdrop]
      rfl
    · rw [htext, hdrop]
      rfl

theorem head?_ne_of_isIdentifier (h : isIdentifier text) : text.head? ≠ some '\'' := by
  obtain ⟨c, hc, hstart⟩ := exists_head?_of_isIdentifier h
  intro hquote
  obtain rfl := Option.some.inj (hquote.symm.trans hc)
  exact absurd hstart (by decide)

theorem toNameList_of_head?_ne (h : text.head? ≠ some '\'') : toNameList text = text := by
  refine toNameList.eq_2 text ?_
  rintro rest rfl
  exact h rfl

theorem ofNameList_of_isIdentifier (h : isIdentifier name) : ofNameList name = name := if_pos h

theorem ofNameList_of_not_isIdentifier (h : ¬ isIdentifier name) :
    ofNameList name = '\'' :: (escape name ++ ['\'']) := if_neg h

/-- A key in quotes is longer than its name. -/
theorem ofNameList_eq_self_iff : ofNameList name = name ↔ isIdentifier name := by
  refine ⟨fun he => ?_, ofNameList_of_isIdentifier⟩
  by_contra h
  have hlength := congrArg List.length he
  have hspelling := (spells_escape name).length_le
  rw [ofNameList_of_not_isIdentifier h, List.length_cons, List.length_append,
    List.length_singleton] at hlength
  omega

/-- A name is read back from its key. -/
theorem toNameList_ofNameList (name : List Char) : toNameList (ofNameList name) = name := by
  by_cases h : isIdentifier name
  · rw [ofNameList_of_isIdentifier h, toNameList_of_head?_ne (head?_ne_of_isIdentifier h)]
  · rw [ofNameList_of_not_isIdentifier h, toNameList, List.dropLast_concat, unescape_escape]

theorem toName_ofName (name : String) : toName (ofName name) = name := by
  unfold toName ofName
  rw [String.toList_ofList, toNameList_ofNameList, String.ofList_toList]

/-- Distinct names have distinct property keys. -/
theorem ofName_injective : Function.Injective ofName :=
  Function.LeftInverse.injective toName_ofName

theorem ofName_eq_self_iff {name : String} : ofName name = name ↔ isIdentifier name.toList := by
  rw [← ofNameList_eq_self_iff, ← String.toList_inj]
  unfold ofName
  rw [String.toList_ofList]

/-- **Names read back.** The name of a key is the name the key was made of, so distinct names have
distinct keys. A key is its name exactly if the name is an identifier, and then no quote stands in
front. Any other key is a spelling of its name between single quotes: the name with its backslashes
doubled and then a backslash before each quote. Every quote in the spelling is escaped and the
closing one is not, so whatever follows the key, it starts with this name in quotes and no other. -/
theorem name_of_key (name : String) :
    toName (ofName name) = name ∧
    (∀ other, ofName other = ofName name ↔ other = name) ∧
    (ofName name = name ↔ isIdentifier name.toList) ∧
    ((isIdentifier name.toList ∧ ofName name = name ∧ (ofName name).toList.head? ≠ some '\'') ∨
      (¬ isIdentifier name.toList ∧ ∃ inside, (ofName name).toList = '\'' :: (inside ++ ['\'']) ∧
        inside = replaceEach '\'' ['\\', '\'']
          (replaceEach '\\' ['\\', '\\'] name.toList) ∧
        (∀ front back, inside = front ++ '\'' :: back → EndsEscaping front) ∧
        ¬ EndsEscaping inside ∧
        Spells inside name.toList ∧ unescape inside = name.toList ∧
        ∀ rest said later, OpensWith ((ofName name).toList ++ rest) said later ↔
          said = name.toList ∧ later = rest)) := by
  refine ⟨toName_ofName name, fun other => ofName_injective.eq_iff, ofName_eq_self_iff, ?_⟩
  by_cases h : isIdentifier name.toList
  · have hself := ofName_eq_self_iff.2 h
    rw [hself]
    exact .inl ⟨h, rfl, head?_ne_of_isIdentifier h⟩
  · have hkey : (ofName name).toList = '\'' :: (escape name.toList ++ ['\'']) := by
      unfold ofName
      rw [String.toList_ofList, ofNameList_of_not_isIdentifier h]
    have hspells := spells_escape name.toList
    refine .inr ⟨h, escape name.toList, hkey, escape_eq_replaceEach _,
      fun front back => hspells.endsEscaping_front, hspells.not_endsEscaping, hspells,
      hspells.unescape_eq, fun rest said later => ?_⟩
    rw [hkey, List.cons_append, List.append_assoc]
    exact opensWith_iff

/-- A name that holds a quote and ends in a backslash. Its key has two backslashes in front of the
closing quote, which do not escape it. -/
theorem name_of_key_finalBackslash :
    ofName "it's\\" = "'it\\'s\\\\'" ∧ toName "'it\\'s\\\\'" = "it's\\" ∧
      EndsEscaping "it\\".toList ∧ ¬ EndsEscaping "it\\'s\\\\".toList := by
  have hkey : ofName "it's\\" = "'it\\'s\\\\'" := by decide
  obtain ⟨hname, -, -, ⟨hidentifier, -⟩ | ⟨-, inside, htext, -, hescaped, hclosed, -⟩⟩ :=
    name_of_key "it's\\"
  · exact absurd hidentifier (by decide)
  · rw [hkey] at hname htext
    have hinside : inside = "it\\'s\\\\".toList :=
      (List.append_cancel_right (List.cons.inj htext).2).symm
    subst hinside
    exact ⟨hkey, hname, hescaped _ "s\\\\".toList (by decide), hclosed⟩

end StructSchema.PropertyKey
