/-!
# Paths

A path is a text in which slashes separate steps.  Empty steps do not count, a
single point stays in a directory and two points lead to its parent.  What a path
means is up to the tree that it is followed in; this module takes the text apart
and puts it together.
-/

namespace AddressPool.Path

set_option autoImplicit false

/-- One step of a path. -/
inductive Step where
  | stay
  | up
  | down (name : String)
  deriving DecidableEq, Repr

/-- The step that a piece between slashes stands for; an empty piece is none. -/
def Step.ofPiece (piece : List Char) : Option Step :=
  if piece = [] then none
  else if piece = ['.'] then some .stay
  else if piece = ['.', '.'] then some .up
  else some (.down (String.ofList piece))

/-- The pieces of a path between its slashes. -/
def pieces (path : String) : List (List Char) := path.toList.splitOn '/'

/-- The steps of a path. -/
def steps (path : String) : List Step := (pieces path).filterMap Step.ofPiece

/-- Whether a path ends with a slash, and so insists on a directory. -/
def endsWithSlash (path : String) : Bool := path.toList.getLast? == some '/'

/-- Whether a path starts at the root. -/
def isAbsolute (path : String) : Bool := path.toList.head? == some '/'

/-- The path of a name in a directory. -/
def join (directory name : String) : String :=
  if directory.isEmpty || endsWithSlash directory then directory ++ name
  else directory ++ "/" ++ name

/-- The path made of some pieces. -/
def ofPieces (absolute : Bool) (pieces : List (List Char)) : String :=
  String.ofList ((if absolute then ['/'] else []) ++ ['/'].intercalate pieces)

/-- The paths of the parents of a path, the nearest one first; a relative one ends with the
empty path. -/
def ancestors (path : String) : List String :=
  let named := (pieces path).filter fun piece => piece ≠ [] ∧ piece ≠ ['.']
  (List.range named.length).reverse.map fun count => ofPieces (isAbsolute path) (named.take count)

end AddressPool.Path
