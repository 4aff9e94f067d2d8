import StructSchema.Fault
import StructSchema.Journal

/-!
# Template libraries

A library offers the files below a folder under their paths from it; the empty library offers
nothing. A name may hold empty and single point segments, which count for nothing, and no `..`.
-/

namespace StructSchema

/-- A collection of templates. -/
inductive TemplateLibrary where
  | empty
  | folder (path : Path)
  deriving DecidableEq, Repr

namespace TemplateLibrary

/-- The library over a folder. A folder that is not there is reported and gives the empty one. -/
def ofFolder (store : FileStore) :
    Option Path → Except Fault (TemplateLibrary × List Journal.Record)
  | none => .ok (.empty, [])
  | some path => do
    if ← (store.isPresent path).mapError Fault.store then .ok (.folder path, [])
    else .ok (.empty, [Journal.warning s!"Template directory not found: {path}"])

/-- The names of the templates. -/
def names (store : FileStore) : TemplateLibrary → List String
  | .empty => []
  | .folder path =>
    match store.find path with
    | .ok (location, .directory) =>
      store.entries.filterMap fun (l, entry) =>
        match entry with
        | .directory => none
        | .file _ => (location.namesTo? l).map (String.intercalate "/")
    | _ => []

/-- Whether a library lists a name. -/
def contains (store : FileStore) (library : TemplateLibrary) (name : String) : Bool :=
  (library.names store).contains name

/-- The segments of a name that count; none if one of them leads upwards. -/
def segments? (name : String) : Option (List String) :=
  let pieces := (Text.cut '/' name.toList).map String.ofList
  if pieces.contains ".." then none else some (pieces.filter fun p => p ≠ "" && p ≠ ".")

/-- The text of a template file, with its line ends as line feeds. -/
def load (store : FileStore) (path : Path) : Except Fault.Template (Option String) :=
  match store.read path with
  | .error _ => .ok none
  | .ok octets =>
    match Text.Utf8.decode octets with
    | .ok text => .ok (some (String.ofList (Text.unifyLineEnds text)))
    | .error fault => .error (.undecodable fault)

/-- The text that a template gives. -/
def find (store : FileStore) (library : TemplateLibrary) (name : String) :
    Except Fault.Template String :=
  match library, segments? name with
  | .empty, _ | .folder _, none => .error (.unknown name)
  | .folder path, some segments => do
    match ← load store { path with segments := path.segments ++ segments } with
    | some text => .ok text
    | none => .error (.notInLibrary name path.toString)

/-- Renders a template that names no values. -/
def render (store : FileStore) (library : TemplateLibrary) (name : String) : Except Fault String :=
  (find store library name).mapError (.template name)

end TemplateLibrary

end StructSchema
