import ServiceCatalog.Storage.FileSystem

/-!
# Trees of files

A file system as a value: folders and files without links, and the working folder. A place in the
tree is the list of the components on the way to it from the root.

Finding a path goes through its components one after another; what they lead through must be
folders that exist. The first obstacle decides the fault.
-/

namespace ServiceCatalog

/-- What stands at a place. -/
inductive FileEntry where
  | folder
  | file (content : Bytes)
deriving Repr, DecidableEq

/-- A tree of files with a working folder. -/
structure FileTree where
  workingFolder : List String
  /-- What stands at each place other than the root. -/
  entries : List (List String × FileEntry)
deriving Repr, DecidableEq

namespace FileTree

/-! ## Places -/

/-- What stands at a place. The root is a folder. -/
def entryAt? (t : FileTree) (place : List String) : Option FileEntry :=
  if place = [] then some .folder else t.entries.lookup place

/-- The entries with the one at a place set. -/
def setEntry (place : List String) (entry : FileEntry) :
    List (List String × FileEntry) → List (List String × FileEntry)
  | [] => [(place, entry)]
  | e :: es => if e.1 = place then (place, entry) :: es else e :: setEntry place entry es

/-- The tree with something put at a place. -/
def put (t : FileTree) (place : List String) (entry : FileEntry) : FileTree :=
  { t with entries := setEntry place entry t.entries }

theorem lookup_setEntry (place other : List String) (entry : FileEntry)
    (es : List (List String × FileEntry)) :
    (setEntry place entry es).lookup other =
      if other = place then some entry else es.lookup other := by
  induction es with
  | nil => simp only [setEntry, List.lookup_cons, List.lookup_nil]; grind
  | cons e es ih =>
    obtain ⟨p, f⟩ := e
    simp only [setEntry]
    split
    · next h => simp only [List.lookup_cons]; grind
    · next h => simp only [List.lookup_cons, ih]; grind

/-- Putting something at a place leaves all other places as they are. -/
theorem entryAt?_put {t : FileTree} {place : List String} (h : place ≠ []) (entry : FileEntry)
    (other : List String) :
    (t.put place entry).entryAt? other =
      if other = place then some entry else t.entryAt? other := by
  simp only [entryAt?, put, lookup_setEntry]
  grind

/-! ## Finding paths -/

/-- The number of bytes that a path must stay below. -/
def pathLimit : Nat := 4096

/-- The number of bytes that a component must not exceed. -/
def componentLimit : Nat := 255

/-- What stands under a name in a folder. -/
def look (t : FileTree) (folder : List String) (name : String) :
    Except Fault (Option FileEntry) :=
  if componentLimit < name.utf8ByteSize then .error .nameTooLong
  else .ok (t.entryAt? (folder ++ [name]))

/-- Goes from a folder through components that must all lead to folders. -/
def walk (t : FileTree) (folder : List String) : List String → Except Fault (List String)
  | [] => .ok folder
  | part :: parts =>
    if part = "." then t.walk folder parts
    else if part = ".." then t.walk folder.dropLast parts
    else
      match t.look folder part with
      | .error fault => .error fault
      | .ok none => .error .notFound
      | .ok (some (.file _)) => .error .notFolder
      | .ok (some .folder) => t.walk (folder ++ [part]) parts

/-- What a path leads to. -/
inductive Target where
  /-- A folder that exists, named by the root or by dots. -/
  | standing
  /-- A name in a folder that exists. -/
  | inside (folder : List String) (name : String)
deriving Repr, DecidableEq

/-- Follows a path up to its last component. -/
def find (t : FileTree) (path : String) : Except Fault Target :=
  if path.toList.any fun c => c.toNat = 0 then .error .nulInPath
  else if path = "" then .error .notFound
  else if pathLimit ≤ path.utf8ByteSize then .error .nameTooLong
  else
    let parts := Path.nonEmptyParts path
    match parts.getLast? with
    | none => .ok .standing
    | some part => do
      let folder ← t.walk (if Path.isAbsolute path then [] else t.workingFolder) parts.dropLast
      if part = "." ∨ part = ".." then .ok .standing else .ok (.inside folder part)

/-! ## Requests -/

/-- The content of a file. -/
def read (t : FileTree) (path : String) : Except Fault Bytes := do
  match ← t.find path with
  | .standing => .error .isFolder
  | .inside folder name =>
    match ← t.look folder name with
    | none => .error .notFound
    | some .folder => .error .isFolder
    | some (.file content) => if Path.endsInSlash path then .error .notFolder else .ok content

/-- The tree after a file was given a content. A path that asks for a folder is refused before its
last component is looked at. -/
def write (t : FileTree) (path : String) (content : Bytes) : Except Fault FileTree := do
  match ← t.find path with
  | .standing => .error .isFolder
  | .inside folder name =>
    if Path.endsInSlash path then .error .isFolder
    else
      match ← t.look folder name with
      | some .folder => .error .isFolder
      | _ => .ok (t.put (folder ++ [name]) (.file content))

/-- The tree after a folder was made. -/
def makeFolder (t : FileTree) (path : String) : Except Fault FileTree := do
  match ← t.find path with
  | .standing => .error .alreadyExists
  | .inside folder name =>
    match ← t.look folder name with
    | some _ => .error .alreadyExists
    | none => .ok (t.put (folder ++ [name]) .folder)

/-- Whether a path leads to a folder. -/
def isFolder (t : FileTree) (path : String) : Bool :=
  match t.find path with
  | .error _ => false
  | .ok .standing => true
  | .ok (.inside folder name) =>
    match t.look folder name with
    | .ok (some .folder) => true
    | _ => false

/-- Whether a path leads to a file. -/
def isFile (t : FileTree) (path : String) : Bool := (t.read path).isOk

/-- Makes a change that may fail, in which case nothing changes. -/
def attempt (change : FileTree → Except Fault FileTree) : StateM FileTree (Except Fault Unit) :=
  fun t =>
    match change t with
    | .ok t' => (.ok (), t')
    | .error fault => (.error fault, t)

theorem attempt_ok {change : FileTree → Except Fault FileTree} {t t' : FileTree}
    (h : change t = .ok t') : attempt change t = (.ok (), t') := by
  rw [attempt, h]

theorem attempt_error {change : FileTree → Except Fault FileTree} {t : FileTree} {fault : Fault}
    (h : change t = .error fault) : attempt change t = (.error fault, t) := by
  rw [attempt, h]

/-- The tree as a file system. -/
def fileSystem : FileSystem (StateM FileTree) where
  read path := fun t => (t.read path, t)
  write path content := attempt fun t => t.write path content
  makeFolder path := attempt fun t => t.makeFolder path
  isFolder path := fun t => (t.isFolder path, t)
  isFile path := fun t => (t.isFile path, t)

theorem fileSystem_read (path : String) (t : FileTree) :
    fileSystem.read path t = (t.read path, t) := rfl

theorem fileSystem_write (path : String) (content : Bytes) (t : FileTree) :
    fileSystem.write path content t = attempt (fun t => t.write path content) t := rfl

theorem fileSystem_makeFolder (path : String) (t : FileTree) :
    fileSystem.makeFolder path t = attempt (fun t => t.makeFolder path) t := rfl

theorem fileSystem_isFolder (path : String) (t : FileTree) :
    fileSystem.isFolder path t = (t.isFolder path, t) := rfl

end FileTree

end ServiceCatalog
