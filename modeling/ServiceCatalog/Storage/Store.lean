import ServiceCatalog.NameMap
import ServiceCatalog.Storage.FileSystem

/-!
# Stores of resources

A store holds contents under the names of resources. Resources are kept in the files below a folder,
or in memory.
-/

namespace ServiceCatalog

/-- The requests that a store answers, for any way `m` of running them. -/
structure Store (m : Type → Type) where
  /-- The content of a resource. -/
  read : String → m (Except Fault Bytes)
  /-- Gives a resource a content, whether it exists or not. -/
  write : String → Bytes → m (Except Fault Unit)
  /-- Where a resource is kept, for messages. -/
  describe : String → String

/-! ## Folders -/

/-- The store that keeps each resource in the file of its name below a folder. -/
def FileSystem.store {m : Type → Type} [Monad m] (fs : FileSystem m) (root : String) :
    Store m where
  read name := fs.read (Path.ofResource root name)
  write name content := fs.writeWithFolders (Path.ofResource root name) content
  describe name := Path.ofResource root name

/-! ## Memory -/

/-- Resources in memory. Reading or writing a resource can be refused, and writes are counted. -/
structure MemoryStore where
  resources : NameMap Bytes
  writeCount : Nat
  refusedReads : NameSet
  refusedWrites : NameSet

namespace MemoryStore

/-- The store without resources, which refuses nothing. -/
def empty : MemoryStore := ⟨∅, 0, ∅, ∅⟩

instance : EmptyCollection MemoryStore := ⟨empty⟩

/-- The store with a resource put in place, which is not a write. -/
def put (s : MemoryStore) (name : String) (content : Bytes) : MemoryStore :=
  { s with resources := s.resources.insert name content }

/-- The store that also refuses to read a resource. -/
def refuseRead (s : MemoryStore) (name : String) : MemoryStore :=
  { s with refusedReads := s.refusedReads.insert name }

/-- The store that also refuses to write a resource. -/
def refuseWrite (s : MemoryStore) (name : String) : MemoryStore :=
  { s with refusedWrites := s.refusedWrites.insert name }

/-- The content of a resource. -/
def read (s : MemoryStore) (name : String) : Except Fault Bytes :=
  if name ∈ s.refusedReads then .error (.readRefused name)
  else
    match s.resources.find? name with
    | none => .error (.noResource name)
    | some content => .ok content

/-- The store after a resource was given a content. -/
def write (s : MemoryStore) (name : String) (content : Bytes) : Except Fault MemoryStore :=
  if name ∈ s.refusedWrites then .error (.writeRefused name)
  else .ok { s.put name content with writeCount := s.writeCount + 1 }

/-- The requests that a store in memory answers. -/
def store : Store (StateM MemoryStore) where
  read name := fun s => (s.read name, s)
  write name content := fun s =>
    match s.write name content with
    | .ok s' => (.ok (), s')
    | .error fault => (.error fault, s)
  describe name := "memory:" ++ name

end MemoryStore

end ServiceCatalog
