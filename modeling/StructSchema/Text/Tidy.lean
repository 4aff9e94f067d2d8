import StructSchema.Text.Blank
import StructSchema.Text.Lines

/-!
# Tidy text

Tidying removes the white space at the end of every line, leaves at most one of consecutive empty
lines, and ends the text with one line feed and no empty line.
-/

namespace StructSchema.Text

/-- Lines with one empty line for each run of empty lines; `afterEmpty` tells whether an empty line
stands before them. -/
def squeeze (afterEmpty : Bool) : List (List Char) → List (List Char)
  | [] => []
  | line :: rest =>
    if line.isEmpty then
      if afterEmpty then squeeze true rest else [] :: squeeze true rest
    else line :: squeeze false rest

/-- Lines without empty ones at either end. -/
def trimEmptyLines (lines : List (List Char)) : List (List Char) :=
  ((lines.dropWhile (·.isEmpty)).reverse.dropWhile (·.isEmpty)).reverse

/-- The lines of a tidied text. -/
def tidyLines (text : List Char) : List (List Char) :=
  trimEmptyLines (squeeze false ((cut '\n' text).map trimRight))

/-- A text tidied. -/
def tidy (text : String) : String := String.ofList (join '\n' (tidyLines text.toList) ++ ['\n'])

end StructSchema.Text
