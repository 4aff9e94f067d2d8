import StructSchema.FileStore
import StructSchema.Text.Lines

/-!
# File name patterns

A pattern is a path of selectors: a plain name, a name with wildcards, or `**` for a directory and
all directories below it. In a name `*` stands for any run of characters, `?` for one, and a set in
brackets for one of its members, or for one that is not in it when `!` comes first. `Glob.select`
lists the paths below a directory that a pattern selects; selectors before the last one select
directories alone.
-/

namespace StructSchema.Glob

/-- What a pattern may not be. -/
inductive Fault where
  | empty
  | notRelative
  | noSegments
  | slashAlone
  | starsInName
  deriving DecidableEq, Repr

/-- The wording of a refused pattern. -/
def Fault.message : Fault → String
  | .empty => "Unacceptable pattern: ''"
  | .notRelative => "Non-relative patterns are unsupported"
  | .noSegments => "tuple index out of range"
  | .slashAlone => "'_TerminatingSelector' object has no attribute 'select_from'"
  | .starsInName => "Invalid pattern: '**' can only be an entire path component"

/-- The kind of fault that a refused pattern is. -/
def Fault.kind : Fault → StructSchema.Fault.Kind
  | .empty | .starsInName => .value
  | .notRelative => .unsupported
  | .noSegments => .index
  | .slashAlone => .member

/-- A member of a set: one character, or the characters from `low` to `high`. -/
inductive Member where
  | char (c : Char)
  | span (low high : Char)
  deriving DecidableEq, Repr

/-- Whether a member stands for a character. -/
def Member.covers (c : Char) : Member → Bool
  | .char d => c == d
  | .span low high => low ≤ c && c ≤ high

/-- Whether a member stands for anything: a span that runs backwards does not. -/
def Member.isProper : Member → Bool
  | .char _ => true
  | .span low high => low ≤ high

/-- One element of a name pattern. -/
inductive Piece where
  | anyRun
  | anyChar
  | one (c : Char)
  | oneOf (negated : Bool) (members : List Member)
  deriving DecidableEq, Repr

/-- Whether a piece stands for a character. -/
def Piece.holds (c : Char) : Piece → Bool
  | .anyRun | .anyChar => true
  | .one d => c == d
  | .oneOf negated members => negated != members.any (·.covers c)

/-- The members of a set. A hyphen between two characters makes a span of them. -/
def membersOf : List Char → List Member
  | low :: '-' :: high :: rest => .span low high :: membersOf rest
  | c :: rest => .char c :: membersOf rest
  | [] => []

/-- The set between brackets. Spans that run backwards are dropped; a mark that comes first only
then negates the set like one that is written first, and if it began a span, the hyphen and the end
of the span stand for themselves. -/
def setOf (inside : List Char) : Piece :=
  match inside with
  | '!' :: rest => .oneOf true (proper rest)
  | _ =>
    match proper inside with
    | .char '!' :: members => .oneOf true members
    | .span '!' high :: members => .oneOf true (.char '-' :: .char high :: members)
    | members => .oneOf false members
where
  /-- The members that stand for anything. -/
  proper (text : List Char) : List Member := (membersOf text).filter (·.isProper)

/-- The length of the set that a bracket opens, if it is closed. A bracket that would close the set
at its start is a member. -/
def setLength? (text : List Char) : Option Nat :=
  let lead := if text.head? = some '!' then 1 else 0
  let lead := if (text.drop lead).head? = some ']' then lead + 1 else lead
  let inside := (text.drop lead).takeWhile (· != ']')
  if (text.drop lead).length = inside.length then none else some (lead + inside.length)

/-- The pieces of a name pattern. -/
def pieces : List Char → List Piece
  | [] => []
  | c :: rest =>
    if c = '*' then .anyRun :: pieces rest
    else if c = '?' then .anyChar :: pieces rest
    else if c = '[' then
      match setLength? rest with
      | some n => setOf (rest.take n) :: pieces (rest.drop (n + 1))
      | none => .one c :: pieces rest
    else .one c :: pieces rest
termination_by text => text.length
decreasing_by all_goals simp only [List.length_cons, List.length_drop]; omega

/-- For each suffix of a name, the whole name first, whether it is of the form of a pattern. -/
def suffixesMatching (name : List Char) : List Piece → List Bool
  | [] => name.map (fun _ => false) ++ [true]
  | piece :: pieces =>
    let later := suffixesMatching name pieces
    if piece = .anyRun then orLater later
    else List.zipWith (fun c fits => piece.holds c && fits) name later.tail ++ [false]
where
  /-- For each place of a list, whether it holds there or at a later place. -/
  orLater : List Bool → List Bool
    | [] => []
    | holds :: rest =>
      let later := orLater rest
      (holds || later.headD false) :: later

/-- Whether a name is of the form of a pattern. -/
def isMatch (pieces : List Piece) (name : List Char) : Bool :=
  (suffixesMatching name pieces).headD false

/-- One segment of a pattern. -/
inductive Selector where
  | everyDirectory
  | matching (pieces : List Piece)
  | named (name : String)
  deriving DecidableEq, Repr

/-- A pattern: its selectors, and whether the last one selects directories alone. -/
structure Pattern where
  selectors : List Selector
  directoriesOnly : Bool
  deriving DecidableEq, Repr

/-- The selector that a segment writes. -/
def selectorOf (segment : String) : Except Fault Selector :=
  let text := segment.toList
  if text = ['*', '*'] then .ok .everyDirectory
  else if (text.zip text.tail).contains ('*', '*') then .error .starsInName
  else if text.any fun c => c == '*' || c == '?' || c == '[' then .ok (.matching (pieces text))
  else .ok (.named segment)

/-- The pattern that a text writes. -/
def Pattern.ofString (text : String) : Except Fault Pattern := do
  let path := Path.ofString text
  let endsInSlash := text.toList.getLast? = some '/'
  if text = "" then .error .empty
  if path.root ≠ "" then .error .notRelative
  if path.segments = [] then .error (if endsInSlash then .slashAlone else .noSegments)
  let selectors ← path.segments.mapM selectorOf
  .ok ⟨selectors, endsInSlash⟩

/-- Whether a path leads to a directory, or to anything at all. -/
def isWanted (store : FileStore) (directory : Bool) (path : Path) : Except FileStore.Fault Bool :=
  if directory then store.isDirectory path else store.isPresent path

/-- The paths that selectors select from a directory. -/
def selectFrom (store : FileStore) (directoriesOnly : Bool) :
    List Selector → Path → Except FileStore.Fault (List Path)
  | [], path => .ok [path]
  | selector :: rest, path => do
    let directory := directoriesOnly || !rest.isEmpty
    match selector with
    | .named name =>
      let child := path.child name
      if ← isWanted store directory child then selectFrom store directoriesOnly rest child
      else .ok []
    | .matching pieces =>
      let location ← store.locate path
      let wanted := (store.children location).filter fun (name, entry) =>
        (!directory || entry == .directory) && isMatch pieces name.toList
      let found ← wanted.mapM fun (name, _) =>
        selectFrom store directoriesOnly rest (path.child name)
      .ok found.flatten
    | .everyDirectory =>
      let location ← store.locate path
      let found ← (store.directoriesBelow location).mapM fun below =>
        selectFrom store directoriesOnly rest { path with segments := path.segments ++ below }
      .ok found.flatten.eraseDups

/-- The paths below a directory that a pattern selects. -/
def select (store : FileStore) (pattern : Pattern) (directory : Path) :
    Except FileStore.Fault (List Path) := do
  if ← store.isDirectory directory then
    selectFrom store pattern.directoriesOnly pattern.selectors directory
  else .ok []

end StructSchema.Glob
