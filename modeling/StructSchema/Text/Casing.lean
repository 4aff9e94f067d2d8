import StructSchema.Text.Casing.Table

/-!
# Lower case and case folding

`lower` is the full lower case mapping: a capital sigma becomes the final form when it ends a word,
and the dotted capital I becomes two characters. `fold` is the full case folding, which serves to
compare texts without regard to case.
-/

namespace StructSchema.Text

/-- Whether the first character past the case-ignorable ones has case. -/
def startsCased (text : List Char) : Bool :=
  match text.dropWhile fun c => caseIgnorableRanges.has c.toNat with
  | [] => false
  | c :: _ => casedRanges.has c.toNat

/-- The lower case of one character between `before`, read backwards, and `after`. -/
def lowerChar (before : List Char) (c : Char) (after : List Char) : List Char :=
  if c = 'Σ' then [if startsCased before && !startsCased after then 'ς' else 'σ']
  else if c = 'İ' then ['i', '\u0307']
  else [(CaseRun.image? lowerRuns c.toNat).elim c Char.ofNat]

/-- The lower case of a text that follows `before`, read backwards. -/
def lowerAfter (before : List Char) : List Char → List Char
  | [] => []
  | c :: rest => lowerChar before c rest ++ lowerAfter (c :: before) rest

/-- The lower case of a text. -/
def lower (text : String) : String := String.ofList (lowerAfter [] text.toList)

/-- The case folding of one character. -/
def foldChar (c : Char) : List Char :=
  match wideFolds.lookup c.toNat with
  | some image => image.map Char.ofNat
  | none => [(CaseRun.image? foldRuns c.toNat).elim c Char.ofNat]

/-- The case folding of a text. -/
def fold (text : String) : String := String.ofList (text.toList.flatMap foldChar)

end StructSchema.Text
