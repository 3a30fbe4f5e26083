import ServiceCatalog.Text.Split

/-!
# Paths

A path is a text of components with `/` between them.
-/

namespace ServiceCatalog.Path

/-- A path extended by one component. A `/` comes between them unless the path is empty or ends in
one. -/
def join (path component : String) : String :=
  if path = "" ∨ path.toList.getLast? = some '/' then path ++ component
  else path ++ "/" ++ component

/-- The components that a text names, without the empty ones. -/
def nonEmptyParts (s : String) : List String :=
  ((Text.splitAt '/' s.toList).filter fun part => !part.isEmpty).map String.ofList

/-- Whether a path starts at the root. -/
def isAbsolute (path : String) : Bool := path.toList.head? == some '/'

/-- Whether a path asks for a folder by ending in `/`. -/
def endsInSlash (path : String) : Bool := path.toList.getLast? == some '/'

/-- Whether a component leads nowhere: the empty one and `.`. -/
def isIdle (part : List Char) : Bool := part.isEmpty || part == ['.']

/-- The beginnings of a path that end in a component that leads somewhere, shortest first, given
the text before the components. -/
def stagesFrom (before : String) : List (List Char) → List String
  | [] => []
  | part :: parts =>
    let path := before ++ "/" ++ String.ofList part
    if isIdle part then stagesFrom path parts else path :: stagesFrom path parts

/-- The paths that a path goes through, shortest first and itself last: its beginnings as they are
written, one for each component that leads somewhere. A `.` at the start of a path counts as one;
the root and the empty path are left out. -/
def stages (path : String) : List String :=
  match Text.splitAt '/' path.toList with
  | [] => []
  | first :: parts =>
    let start := String.ofList first
    if start = "" then stagesFrom start parts else start :: stagesFrom start parts

/-- The paths of the folders that a path goes through before its last component, innermost
first. -/
def enclosing (path : String) : List String := (stages path).dropLast.reverse

end ServiceCatalog.Path
