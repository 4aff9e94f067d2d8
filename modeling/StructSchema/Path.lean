import StructSchema.Text.Lines

/-!
# Paths

A path in normal form: empty segments and `.` are dropped, `..` is kept, and a leading slash makes
it absolute. The path of no segments is written as a point. `join` puts one path under another;
an absolute one stands on its own.
-/

namespace StructSchema

/-- A path in normal form; `root` is empty for a relative path. -/
structure Path where
  root : String
  segments : List String
  deriving DecidableEq, Repr

namespace Path

/-- The working directory. -/
def here : Path := ⟨"", []⟩

/-- The root that leading slashes write: exactly two are a root of their own. -/
def rootOf (slashes : Nat) : String :=
  if slashes = 0 then "" else if slashes = 2 then "//" else "/"

/-- The path that a text writes. -/
def ofString (text : String) : Path :=
  let chars := text.toList
  let slashes := (chars.takeWhile (· == '/')).length
  let pieces :=
    (Text.cut '/' (chars.drop slashes)).filter fun piece => piece != [] && piece != ['.']
  ⟨rootOf slashes, pieces.map String.ofList⟩

/-- The text of a path. -/
protected def toString (path : Path) : String :=
  let body := String.intercalate "/" path.segments
  if path.root == "" && path.segments.isEmpty then "." else path.root ++ body

instance : ToString Path := ⟨Path.toString⟩

/-- The path of `inner` seen from `outer`. -/
def join (outer inner : Path) : Path :=
  if inner.root == "" then { outer with segments := outer.segments ++ inner.segments } else inner

/-- The path of an entry of a directory. -/
def child (path : Path) (name : String) : Path :=
  { path with segments := path.segments ++ [name] }

/-- The last segment, or the empty text. -/
def name (path : Path) : String := path.segments.getLast?.getD ""

/-- The path without its last segment. -/
def parent (path : Path) : Path := { path with segments := path.segments.dropLast }

/-- Whether segments come before others or are the same, in the order of a dictionary. -/
def inOrder : List String → List String → Bool
  | [], _ => true
  | _ :: _, [] => false
  | a :: as, b :: bs => if a = b then inOrder as bs else decide (a ≤ b)

/-- The suffix of a name with its point; a point at either end of the name begins no suffix. -/
def suffixOf (name : List Char) : List Char :=
  let after := name.reverse.takeWhile (· != '.')
  if after.isEmpty || name.length ≤ after.length + 1 then [] else '.' :: after.reverse

/-- The suffix of the last segment. -/
def suffix (path : Path) : String := String.ofList (suffixOf path.name.toList)

end Path

end StructSchema
