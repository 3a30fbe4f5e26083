import ServiceCatalog.Compilation
import ServiceCatalog.Config
import ServiceCatalog.LogLevel
import ServiceCatalog.Symbol.File

/-!
# Commands

The two things that the program does: it compiles the table in a file and writes the resources of
its services below a folder, and it shows the providers of a service that are found there.
-/

namespace ServiceCatalog

/-- Why a command fails. -/
inductive CommandError where
  /-- The table cannot be loaded from a file. -/
  | symbols (path : String) (cause : LoadError)
  /-- There is no configuration, or an option is malformed. -/
  | config (cause : ConfigError)
  /-- A text names no log level. -/
  | logLevel (text : String)
  /-- The name of a service is unfit. -/
  | serviceName (name : String) (fault : Service.NameFault)
  /-- A resource cannot be read. -/
  | unreadable (path : String) (cause : Fault)
deriving Repr, DecidableEq

/-- The message of an error. -/
def CommandError.message : CommandError → String
  | .symbols path cause => "Failed to load symbol table " ++ path ++ ": " ++ cause.message
  | .config cause => cause.message
  | .logLevel text => LogLevel.invalidMessage text
  | .serviceName name fault => "Invalid interface name: " ++ fault.message name
  | .unreadable path cause => "Failed to read " ++ path ++ ": " ++ cause.message

variable {m : Type → Type} [Monad m]

/-- Compiles the table in a file into the resources below a folder. -/
def compileFile (fs : FileSystem m) (symbols output : String) (options : Options) :
    m (Except CommandError (CompilationReport × Journal)) := do
  match ← SymbolTable.load fs symbols with
  | .error cause => return .error (.symbols symbols cause)
  | .ok t => return .ok (← t.compile (fs.store output) t.roundCount options)

/-- The providers of a service that are named in its resource below a folder. -/
def showProviders (fs : FileSystem m) (output service : String) :
    m (Except CommandError NameSet) := do
  match Service.nameFault? service with
  | some fault => return .error (.serviceName service fault)
  | none =>
    let path := Service.path output service
    match ← fs.read path with
    | .error fault => return if fault.isMissing then .ok ∅ else .error (.unreadable path fault)
    | .ok content =>
      match Service.readEntries? content with
      | none => return .error (.unreadable path .notUtf8)
      | some providers => return .ok providers

end ServiceCatalog
