/-!
# Paths

A path is written as names with slashes between them. `Path.segments` gives the
names as they stand, which is what a walk through directories follows.
`Path.components` gives what matters when two paths are compared: repeated and
trailing slashes do not, nor does a dot anywhere but at the front.

Paths are texts. A system may also have names whose bytes are no text; these cannot
be written here.
-/

namespace Lexis.Path

/-- The pieces of a text between slashes; there is one more than there are
slashes. -/
def split : List Char → List (List Char)
  | [] => [[]]
  | c :: cs =>
    if c = '/' then [] :: split cs
    else
      match split cs with
      | [] => [[c]]
      | name :: names => (c :: name) :: names

/-- The names in a path, the empty ones left out. -/
def segments (path : String) : List String :=
  ((split path.toList).filter (!·.isEmpty)).map String.ofList

/-- Whether the path starts at the root. -/
def isAbsolute (path : String) : Bool := path.toList.head? == some '/'

/-- Whether the path ends with a slash, and so can only name a directory. -/
def hasTrailingSlash (path : String) : Bool := path.toList.getLast? == some '/'

/-- One step of a path. -/
inductive Component where
  /-- The root of all paths. -/
  | root
  /-- The directory the path starts from. -/
  | here
  /-- The directory above. -/
  | above
  /-- The entry with this name. -/
  | entry (name : String)
deriving DecidableEq, Repr

/-- The step that a name stands for. -/
def Component.ofName (name : String) : Component :=
  if name = "." then .here else if name = ".." then .above else .entry name

/-- The steps of a path, without the dots that change nothing. -/
def components (path : String) : List Component :=
  let steps := (segments path).map Component.ofName
  if isAbsolute path then .root :: steps.filter (· != .here)
  else
    match steps with
    | [] => []
    | step :: rest => step :: rest.filter (· != .here)

/-- Whether two paths take the same steps. -/
def same (path path' : String) : Bool := components path == components path'

end Lexis.Path
