import StructSchema.Text.Printable

/-!
# Quoted texts

The form in which messages show a text: between single quotes, or between double quotes when the
text holds a single quote and no double quote. The quote in use and the backslash are escaped by
a backslash; characters that cannot be printed appear as escapes.
-/

namespace StructSchema.Text

/-- The lower case hexadecimal digit of a number below sixteen. -/
def hexDigit (n : Nat) : Char := Char.ofNat (if n < 10 then 48 + n else 87 + n)

/-- The lowest `width` hexadecimal digits of a number. -/
def hexDigits : Nat → Nat → List Char
  | 0, _ => []
  | width + 1, n => hexDigits width (n / 16) ++ [hexDigit (n % 16)]

/-- The escape of a character that cannot be printed: two, four or eight digits. -/
def codeEscape (c : Char) : List Char :=
  if c.toNat ≤ 0xFF then '\\' :: 'x' :: hexDigits 2 c.toNat
  else if c.toNat ≤ 0xFFFF then '\\' :: 'u' :: hexDigits 4 c.toNat
  else '\\' :: 'U' :: hexDigits 8 c.toNat

/-- One character of a text quoted by `mark`. -/
def quoteChar (mark c : Char) : List Char :=
  if c = mark ∨ c = '\\' then ['\\', c]
  else if c = '\n' then ['\\', 'n']
  else if c = '\r' then ['\\', 'r']
  else if c = '\t' then ['\\', 't']
  else if isPrintable c then [c]
  else codeEscape c

/-- The quote that surrounds a text. -/
def quoteMark (text : List Char) : Char :=
  if '\'' ∈ text ∧ '"' ∉ text then '"' else '\''

/-- A text between quotes. -/
def quoteList (text : List Char) : List Char :=
  quoteMark text :: (text.flatMap (quoteChar (quoteMark text)) ++ [quoteMark text])

/-- A text between quotes. -/
def quote (text : String) : String := String.ofList (quoteList text.toList)

end StructSchema.Text
