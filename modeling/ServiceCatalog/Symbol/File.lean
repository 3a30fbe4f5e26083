import ServiceCatalog.Storage.FileSystem
import ServiceCatalog.Symbol.Json

/-!
# Symbol tables in files
-/

namespace ServiceCatalog

/-- Why a table cannot be loaded. -/
inductive LoadError where
  | file (cause : Fault)
  /-- The content of the file is no table. -/
  | malformed
deriving Repr, DecidableEq

/-- The message of an error. -/
def LoadError.message : LoadError → String
  | .file cause => cause.message
  | .malformed => "malformed symbol table"

namespace SymbolTable

variable {m : Type → Type} [Monad m]

/-- The table in a file. -/
def load (fs : FileSystem m) (path : String) : m (Except LoadError SymbolTable) := do
  match ← fs.readText path with
  | .error cause => return .error (.file cause)
  | .ok text =>
    match ofText? text with
    | none => return .error .malformed
    | some t => return .ok t

/-- Writes a table to a file, and makes the folders that contain it. -/
def save (fs : FileSystem m) (path : String) (t : SymbolTable) : m (Except Fault Unit) :=
  fs.writeWithFolders path (Utf8.encode t.toText)

end SymbolTable

end ServiceCatalog
