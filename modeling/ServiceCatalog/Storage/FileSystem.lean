import ServiceCatalog.Storage.Fault
import ServiceCatalog.Text.Utf8

/-!
# File systems

What the program asks of a file system, for any way `m` of running such requests, and what is built
from these requests: reading texts and making folders with all that contain them.
-/

namespace ServiceCatalog

/-- The requests that a file system answers. Paths that do not start at the root start at the
working folder. -/
structure FileSystem (m : Type → Type) where
  /-- The content of a file. -/
  read : String → m (Except Fault Bytes)
  /-- Gives a file a content, and makes the file if there is none. -/
  write : String → Bytes → m (Except Fault Unit)
  /-- Makes a folder in a folder that exists. -/
  makeFolder : String → m (Except Fault Unit)
  /-- Whether a path leads to a folder. -/
  isFolder : String → m Bool
  /-- Whether a path leads to a file. -/
  isFile : String → m Bool

namespace FileSystem

variable {m : Type → Type} [Monad m]

/-- The content of a file as a text. -/
def readText (fs : FileSystem m) (path : String) : m (Except Fault String) := do
  match ← fs.read path with
  | .error fault => pure (.error fault)
  | .ok content =>
    match Utf8.decode? content with
    | none => pure (.error .notUtf8)
    | some text => pure (.ok text)

/-- Accepts a failure to make a folder if there is one in the end. -/
def unlessFolder (fs : FileSystem m) (path : String) (fault : Fault) : m (Except Fault Unit) := do
  if ← fs.isFolder path then pure (.ok ()) else pure (.error fault)

/-- Makes the first of some folders, each of which is contained in the next, and those that contain
it as far as they are missing. -/
def makeNested (fs : FileSystem m) : List String → m (Except Fault Unit)
  | [] => pure (.ok ())
  | path :: outer => do
    match ← fs.makeFolder path with
    | .ok () => pure (.ok ())
    | .error .notFound =>
      match ← fs.makeNested outer with
      | .error fault => pure (.error fault)
      | .ok () =>
        match ← fs.makeFolder path with
        | .ok () => pure (.ok ())
        | .error fault => fs.unlessFolder path fault
    | .error fault => fs.unlessFolder path fault

/-- Makes a folder and those that contain it as far as they are missing. -/
def makeFolders (fs : FileSystem m) (path : String) : m (Except Fault Unit) :=
  fs.makeNested (path :: Path.enclosing path)

/-- Gives a file a content after making the folders that contain it. -/
def writeWithFolders (fs : FileSystem m) (path : String) (content : Bytes) :
    m (Except Fault Unit) := do
  match ← fs.makeNested (Path.enclosing path) with
  | .error fault => pure (.error fault)
  | .ok () => fs.write path content

end FileSystem

/-! ## Running requests one after another -/

theorem bind_apply {σ α β : Type} (x : StateM σ α) (f : α → StateM σ β) (s : σ) :
    (x >>= f) s = f (x s).1 (x s).2 := rfl

theorem pure_apply {σ α : Type} (a : α) (s : σ) : (pure a : StateM σ α) s = (a, s) := rfl

end ServiceCatalog
