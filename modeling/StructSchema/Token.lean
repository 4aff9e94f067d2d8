import StructSchema.Text.Word

/-!
# Tokens

The body of a declaration is cut into lexemes by the first character: raw strings, quoted strings,
line comments, names, numbers, line feeds, semicolons, blanks and punctuation; a character that
begins none of these, or an unclosed quote, is a lexeme of its own. Tokens are the lexemes other
than blanks, each with the line on which it begins. Main statement: `flatMap_text_lexemes`, the
lexemes put together are the text.
-/

namespace StructSchema

namespace Token

/-- The kinds of lexemes. -/
inductive Kind where
  | tag
  | quoted
  | comment
  | ident
  | number
  | lineFeed
  | semicolon
  | blank
  | punct
  | mismatch
  deriving DecidableEq, Repr

/-- The name of a kind. -/
def Kind.label : Kind → String
  | .tag => "TAG"
  | .quoted => "STRING"
  | .comment => "COMMENT"
  | .ident => "IDENT"
  | .number => "NUMBER"
  | .lineFeed => "NEWLINE"
  | .semicolon => "SEMI"
  | .blank => "SKIP"
  | .punct => "PUNCT"
  | .mismatch => "MISMATCH"

end Token

/-- A token: its kind, its text, and the line on which it begins. -/
structure Token where
  kind : Token.Kind
  value : String
  line : Nat
  deriving DecidableEq, Repr

namespace Token

/-- A stretch of text of one kind. -/
structure Lexeme where
  kind : Kind
  text : List Char
  deriving DecidableEq, Repr

/-- The blanks between tokens. -/
def isSkipped (c : Char) : Bool := c == ' ' || c == '\t' || c == '\r'

/-- The punctuation of type expressions. -/
def isPunct (c : Char) : Bool :=
  ['[', ']', '*', '.', '\x7b', '\x7d', '(', ')', ','].contains c

/-- The length of a quoted string after its opening quote, the closing quote included. The string
ends on its line, and a backslash takes the next character with it. -/
def quotedLength? : List Char → Option Nat
  | [] => none
  | '"' :: _ => some 1
  | '\\' :: c :: rest => if c = '\n' then none else (quotedLength? rest).map (· + 2)
  | '\\' :: [] => none
  | c :: rest => if c = '\n' then none else (quotedLength? rest).map (· + 1)

/-- The length of a raw string after its opening backquote, the closing one included. -/
def rawLength? : List Char → Option Nat
  | [] => none
  | c :: rest => if c = '`' then some 1 else (rawLength? rest).map (· + 1)

/-- The kind of the lexeme that begins with `c`, and how many of the characters after it belong
to it. -/
def extent (c : Char) (rest : List Char) : Kind × Nat :=
  let run (isInside : Char → Bool) : Nat := (rest.takeWhile isInside).length
  if c = '`' then
    match rawLength? rest with
    | some n => (.tag, n)
    | none => (.mismatch, 0)
  else if c = '"' then
    match quotedLength? rest with
    | some n => (.quoted, n)
    | none => (.mismatch, 0)
  else if c = '/' ∧ rest.head? = some '/' then (.comment, run (· != '\n'))
  else if Text.isNameStart c then (.ident, run Text.isWordChar)
  else if Text.isDecimalDigit c then (.number, run Text.isDecimalDigit)
  else if c = '\n' then (.lineFeed, 0)
  else if c = ';' then (.semicolon, 0)
  else if isSkipped c then (.blank, run isSkipped)
  else if isPunct c then (.punct, 0)
  else (.mismatch, 0)

/-- The lexemes of a text. -/
def lexemes : List Char → List Lexeme
  | [] => []
  | c :: rest =>
    ⟨(extent c rest).1, c :: rest.take (extent c rest).2⟩ :: lexemes (rest.drop (extent c rest).2)
termination_by text => text.length
decreasing_by simp only [List.length_cons, List.length_drop]; omega

/-- Lexemes as tokens, the first on line `line`; blanks are left out. -/
def number (line : Nat) : List Lexeme → List Token
  | [] => []
  | x :: rest =>
    let more := number (line + x.text.count '\n') rest
    if x.kind = .blank then more else ⟨x.kind, String.ofList x.text, line⟩ :: more

/-- The tokens of a text. -/
def scan (text : String) : List Token := number 1 (lexemes text.toList)

@[simp] theorem lexemes_nil : lexemes [] = [] := by
  unfold lexemes
  rfl

theorem lexemes_cons (c : Char) (rest : List Char) :
    lexemes (c :: rest) =
      ⟨(extent c rest).1, c :: rest.take (extent c rest).2⟩ ::
        lexemes (rest.drop (extent c rest).2) := by
  rw [lexemes]

/-- The lexemes of a text put together are the text. -/
theorem flatMap_text_lexemes (text : List Char) : (lexemes text).flatMap (·.text) = text := by
  induction text using lexemes.induct with
  | case1 => simp
  | case2 c rest ih => rw [lexemes_cons, List.flatMap_cons, ih]; simp

/-- No lexeme is empty. -/
theorem text_ne_nil_of_mem_lexemes {x : Lexeme} {text : List Char} (h : x ∈ lexemes text) :
    x.text ≠ [] := by
  induction text using lexemes.induct with
  | case1 => simp at h
  | case2 c rest ih =>
    rw [lexemes_cons, List.mem_cons] at h
    rcases h with rfl | h
    · simp
    · exact ih h

end Token

end StructSchema
