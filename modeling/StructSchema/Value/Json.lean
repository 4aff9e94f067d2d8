import StructSchema.Text.Word
import StructSchema.Value

/-!
# Reading values

A reader for the text of a settings file. Besides the standard grammar it takes `NaN`, `Infinity`
and `-Infinity` for numbers; a number without fraction and exponent is an integer of any size up to
4300 digits; of two entries with one key the later counts. Lists and objects nest up to a depth of
`maxDepth`. The refusal of a malformed text names the place: the position in characters, from which
`Stop.toFault` computes line and column.
-/

namespace StructSchema.Json

/-- What a text lacks at the place where the reader stops. -/
inductive Problem where
  | byteOrderMark
  | expectingValue
  | expectingName
  | expectingColon
  | expectingComma
  | extraData
  | unterminatedString
  | controlCharacter
  | badEscape
  | badCodeEscape
  deriving DecidableEq, Repr

/-- The wording of a problem. -/
def Problem.text : Problem → String
  | .byteOrderMark => "Unexpected UTF-8 BOM (decode using utf-8-sig)"
  | .expectingValue => "Expecting value"
  | .expectingName => "Expecting property name enclosed in double quotes"
  | .expectingColon => "Expecting ':' delimiter"
  | .expectingComma => "Expecting ',' delimiter"
  | .extraData => "Extra data"
  | .unterminatedString => "Unterminated string starting at"
  | .controlCharacter => "Invalid control character at"
  | .badEscape => "Invalid \\escape"
  | .badCodeEscape => "Invalid \\uXXXX escape"

/-- The values that hold values. -/
inductive Container where
  | list
  | object
  deriving DecidableEq, Repr

/-- A container in words. -/
def Container.phrase : Container → String
  | .list => "array"
  | .object => "object"

/-- Why a text is refused. -/
inductive Fault where
  | malformed (problem : Problem) (position line column : Nat)
  | integerTooLong (digits : Nat)
  | tooDeep (container : Container)
  deriving DecidableEq, Repr

/-- The greatest number of digits of an integer. -/
def maxIntegerDigits : Nat := 4300

/-- The greatest number of lists and objects that stand one inside the other. -/
def maxDepth : Nat := 985

/-- The wording of a refusal. -/
def Fault.message : Fault → String
  | .malformed problem position line column =>
    s!"{problem.text}: line {line} column {column} (char {position})"
  | .integerTooLong digits =>
    s!"Exceeds the limit ({maxIntegerDigits} digits) for integer string conversion: "
      ++ s!"value has {digits} digits; use sys.set_int_max_str_digits() to increase the limit"
  | .tooDeep container =>
    "maximum recursion depth exceeded while decoding a JSON "
      ++ s!"{container.phrase} from a unicode string"

/-- A refusal before line and column are known; a place is told by the characters left there. -/
inductive Stop where
  | malformed (problem : Problem) (left : Nat)
  | integerTooLong (digits : Nat)
  | tooDeep (container : Container)

/-- The refusal of `text` at a place. -/
def Stop.toFault (text : List Char) : Stop → Fault
  | .malformed problem left =>
    let before := text.take (text.length - left)
    .malformed problem before.length (before.count '\n' + 1)
      ((before.reverse.takeWhile (· != '\n')).length + 1)
  | .integerTooLong digits => .integerTooLong digits
  | .tooDeep container => .tooDeep container

/-- Refuses at the place where `rest` begins. -/
def refuse (problem : Problem) (rest : List Char) : Except Stop α :=
  .error (.malformed problem rest.length)

/-- The text after blanks. -/
def skipBlanks (text : List Char) : List Char :=
  text.dropWhile fun c => c == ' ' || c == '\t' || c == '\n' || c == '\r'

/-- The value of a hexadecimal digit. -/
def hexValue? (c : Char) : Option Nat :=
  if c.isDigit then some (c.toNat - 48)
  else if 'a' ≤ c ∧ c ≤ 'f' then some (c.toNat - 87)
  else if 'A' ≤ c ∧ c ≤ 'F' then some (c.toNat - 55)
  else none

/-- The number that four hexadecimal digits write, if more text follows them. -/
def codeUnit? : List Char → Option (Nat × List Char)
  | a :: b :: c :: d :: rest =>
    match rest, hexValue? a, hexValue? b, hexValue? c, hexValue? d with
    | _ :: _, some a, some b, some c, some d => some (((a * 16 + b) * 16 + c) * 16 + d, rest)
    | _, _, _, _, _ => none
  | _ => none

/-- The character of an escape of one letter. -/
def escaped? : Char → Option Char
  | '"' => some '"'
  | '\\' => some '\\'
  | '/' => some '/'
  | 'b' => some '\x08'
  | 'f' => some '\x0c'
  | 'n' => some '\n'
  | 'r' => some '\r'
  | 't' => some '\t'
  | _ => none

/-- The character of a code unit; one half of a pair alone stands for no character. -/
def ofCodeUnit (unit : Nat) : Char :=
  if 0xD800 ≤ unit ∧ unit < 0xE000 then '\ufffd' else Char.ofNat unit

/-- Reads what follows the letter of a code escape: one unit, or two that make a pair. -/
def readCode (atLetter : List Char) : Except Stop (Char × List Char) :=
  match codeUnit? (atLetter.drop 1) with
  | none => refuse .badCodeEscape atLetter
  | some (high, rest) =>
    if 0xD800 ≤ high ∧ high < 0xDC00 then
      match rest with
      | '\\' :: 'u' :: more =>
        if more.length ≤ 4 then .ok (ofCodeUnit high, rest)
        else
          match codeUnit? more with
          | none => refuse .badCodeEscape ('u' :: more)
          | some (low, rest') =>
            if 0xDC00 ≤ low ∧ low < 0xE000 then
              .ok (Char.ofNat (0x10000 + (high - 0xD800) * 0x400 + (low - 0xDC00)), rest')
            else .ok (ofCodeUnit high, rest)
      | _ => .ok (ofCodeUnit high, rest)
    else .ok (ofCodeUnit high, rest)

/-- Reads a string whose opening quote is left behind; `start` is the text at that quote and `done`
the characters so far in reverse. Each step takes one of the `fuel` characters at least. -/
def readString (start : List Char) : Nat → List Char → List Char → Except Stop (String × List Char)
  | 0, _, _ => refuse .unterminatedString start
  | fuel + 1, done, text =>
    match text with
    | [] => refuse .unterminatedString start
    | '"' :: rest => .ok (String.ofList done.reverse, rest)
    | '\\' :: [] => refuse .unterminatedString start
    | '\\' :: 'u' :: rest => do
      let (c, rest) ← readCode ('u' :: rest)
      readString start fuel (c :: done) rest
    | '\\' :: letter :: rest =>
      match escaped? letter with
      | some c => readString start fuel (c :: done) rest
      | none => refuse .badEscape text
    | c :: rest =>
      if c.toNat < 0x20 then refuse .controlCharacter text
      else readString start fuel (c :: done) rest

/-- Reads the string that begins at a quote, of `fuel` characters at most. -/
def readQuoted (fuel : Nat) (start : List Char) : Except Stop (String × List Char) :=
  readString start fuel [] (start.drop 1)

/-- The number that digits write. -/
def ofDigits (digits : List Char) : Nat :=
  digits.foldl (fun n d => n * 10 + (d.toNat - 48)) 0

/-- Splits the digits off the start of a text. -/
def spanDigits (text : List Char) : List Char × List Char := text.span Char.isDigit

/-- The digits of the fraction at the start of a text, if a point and a digit are there. -/
def fraction (text : List Char) : List Char × List Char :=
  match text with
  | '.' :: d :: rest => if d.isDigit then spanDigits (d :: rest) else ([], text)
  | _ => ([], text)

/-- The exponent at the start of a text, if the letter and a digit are there. -/
def exponent (text : List Char) : Option Int × List Char :=
  let signed (negative : Bool) (rest : List Char) : Option Int × List Char :=
    match spanDigits rest with
    | ([], _) => (none, text)
    | (digits, after) =>
      let power : Int := ofDigits digits
      (some (if negative then -power else power), after)
  match text with
  | c :: rest =>
    if c = 'e' ∨ c = 'E' then
      match rest with
      | '-' :: rest => signed true rest
      | '+' :: rest => signed false rest
      | rest => signed false rest
    else (none, text)
  | [] => (none, text)

/-- Reads the number that begins at `start`; a sign has been taken from `text`. -/
def readNumber (start : List Char) (negative : Bool) (text : List Char) :
    Except Stop (Value × List Char) :=
  let (whole, rest) :=
    match text with
    | '0' :: rest => (['0'], rest)
    | _ => spanDigits text
  if whole.isEmpty then refuse .expectingValue start
  else
    let (decimals, rest) := fraction rest
    let (power, rest) := exponent rest
    if decimals.isEmpty && power.isNone then
      if maxIntegerDigits < whole.length then .error (.integerTooLong whole.length)
      else
        let n : Int := ofDigits whole
        .ok (.int (if negative then -n else n), rest)
    else
      .ok (.float (Binary64.ofDecimal negative (ofDigits (whole ++ decimals))
        (power.getD 0 - decimals.length)), rest)

/-- The values written by a word. -/
def words : List (String × Value) :=
  [("null", .null), ("true", .bool true), ("false", .bool false), ("NaN", .float .nan),
   ("Infinity", .float (.infinity false)), ("-Infinity", .float (.infinity true))]

/-- Reads a word or a number. -/
def readScalar (text : List Char) : Except Stop (Value × List Char) :=
  match words.findSome? fun (word, value) => (Text.dropWord? word.toList text).map ((value, ·)) with
  | some found => .ok found
  | none =>
    match text with
    | '-' :: rest => readNumber text true rest
    | _ => readNumber text false text

mutual

/-- Reads the value at the start of a text, where `room` more containers may be entered. Each call
takes at least one of the `fuel` characters before the next. -/
def readValue : Nat → Nat → List Char → Except Stop (Value × List Char)
  | 0, _, text => refuse .expectingValue text
  | fuel + 1, room, text =>
    match text, room with
    | '"' :: _, _ => do
      let (s, rest) ← readQuoted fuel text
      .ok (.str s, rest)
    | '[' :: _, 0 => .error (.tooDeep .list)
    | '[' :: rest, room + 1 =>
      match skipBlanks rest with
      | ']' :: rest => .ok (.list [], rest)
      | rest => readItems fuel room [] rest
    | '\x7b' :: _, 0 => .error (.tooDeep .object)
    | '\x7b' :: rest, room + 1 =>
      match skipBlanks rest with
      | '\x7d' :: rest => .ok (.object [], rest)
      | rest => readEntries fuel room [] rest
    | _, _ => readScalar text

/-- Reads the items of a list from the next one on; `done` holds the earlier ones in reverse. -/
def readItems : Nat → Nat → List Value → List Char → Except Stop (Value × List Char)
  | 0, _, _, text => refuse .expectingValue text
  | fuel + 1, room, done, text => do
    let (item, rest) ← readValue fuel room text
    match skipBlanks rest with
    | ']' :: rest => .ok (.list (item :: done).reverse, rest)
    | ',' :: rest => readItems fuel room (item :: done) (skipBlanks rest)
    | rest => refuse .expectingComma rest

/-- Reads the entries of an object from the next one on, into `done`. -/
def readEntries : Nat → Nat → Dictionary Value → List Char → Except Stop (Value × List Char)
  | 0, _, _, text => refuse .expectingName text
  | fuel + 1, room, done, text =>
    match text with
    | '"' :: _ => do
      let (key, rest) ← readQuoted fuel text
      match skipBlanks rest with
      | ':' :: rest =>
        let (value, rest) ← readValue fuel room (skipBlanks rest)
        let done := done.insert key value
        match skipBlanks rest with
        | '\x7d' :: rest => .ok (.object done, rest)
        | ',' :: rest => readEntries fuel room done (skipBlanks rest)
        | rest => refuse .expectingComma rest
      | rest => refuse .expectingColon rest
    | _ => refuse .expectingName text

end

/-- Reads a text that holds one value and blanks around it. -/
def readDocument (text : List Char) : Except Stop Value := do
  if text.head? = some '\ufeff' then refuse .byteOrderMark text
  let (value, rest) ← readValue (2 * text.length + 2) maxDepth (skipBlanks text)
  match skipBlanks rest with
  | [] => .ok value
  | rest => refuse .extraData rest

/-- The value that a text writes. -/
def read (text : String) : Except Fault Value :=
  (readDocument text.toList).mapError (Stop.toFault text.toList)

end StructSchema.Json
