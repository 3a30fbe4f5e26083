import ServiceCatalog.Symbol.Basic
import ServiceCatalog.Storage.Fault

/-!
# Diagnostics

What is reported about a compilation: a severity, a message, and the declaration that the message is
about, if there is one.
-/

namespace ServiceCatalog

/-! ## Failures -/

/-- What can go wrong in a compilation. -/
inductive Failure where
  /-- A marker names no service. -/
  | missingService (element : String)
  /-- A provider is not a subtype of its service. -/
  | notImplemented (provider service : String)
  /-- A resource exists but cannot be read. -/
  | unreadable (resource : String) (cause : Fault)
  /-- A resource cannot be written. -/
  | unwritable (resource : String) (cause : Fault)
  /-- A question about the symbol table has no answer. -/
  | symbol (cause : SymbolError)
deriving Repr, DecidableEq

/-- The message of a failure. -/
def Failure.message : Failure → String
  | .missingService _ => "No service interfaces provided for element!"
  | .notImplemented provider service =>
    "ServiceProviders must implement their service provider interface. " ++ provider ++
      " does not implement " ++ service
  | .unreadable resource cause => "Unable to read " ++ resource ++ ": " ++ cause.message
  | .unwritable resource cause => "Unable to create " ++ resource ++ ", " ++ cause.message
  | .symbol cause => cause.message

/-! ## Diagnostics -/

/-- How serious a diagnostic is. -/
inductive Severity where
  /-- Tells what is done; reported only when asked for. -/
  | note
  /-- Suspicious, but nothing is left undone. -/
  | warning
  /-- A failure of the compilation. -/
  | error
deriving Repr, DecidableEq

/-- The word for a severity. -/
def Severity.word : Severity → String
  | .note => "note"
  | .warning => "warning"
  | .error => "error"

/-- A reported message. -/
structure Diagnostic where
  severity : Severity
  message : String
  /-- The declaration that the message is about. -/
  element : Option DeclId
  /-- Whether the message is about the marker of that declaration. -/
  onMarker : Bool
deriving Repr, DecidableEq

namespace Diagnostic

/-- A note about nothing in particular. -/
def note (message : String) : Diagnostic := ⟨.note, message, none, false⟩

/-- A warning about nothing in particular. -/
def warning (message : String) : Diagnostic := ⟨.warning, message, none, false⟩

/-- The error that a failure is at the marker of a declaration. -/
def atMarker (failure : Failure) (element : DeclId) : Diagnostic :=
  ⟨.error, failure.message, some element, true⟩

/-- The error that a failure is when it ends the work. -/
def fatal (failure : Failure) : Diagnostic :=
  ⟨.error, "FATAL ERROR: " ++ failure.message, none, false⟩

/-- The line that shows a diagnostic. -/
def text (d : Diagnostic) : String :=
  let line := d.severity.word ++ ": " ++ d.message
  match d.element with
  | none => line
  | some id =>
    if d.onMarker then line ++ " (@AutoService on " ++ id.text ++ ")"
    else line ++ " (" ++ id.text ++ ")"

end Diagnostic

/-! ## Journals -/

/-- The diagnostics of a compilation in the order in which they are reported. -/
abbrev Journal := List Diagnostic

namespace Journal

/-- The diagnostics of one severity. -/
def ofSeverity (j : Journal) (severity : Severity) : Journal :=
  j.filter fun d => d.severity = severity

/-- The number of errors. -/
def errorCount (j : Journal) : Nat := (j.ofSeverity .error).length

/-- Whether there is an error. -/
def hasErrors (j : Journal) : Bool := j.errorCount != 0

/-- What is reported where a message is logged: a note, if notes are asked for. -/
def log (debug : Bool) (message : String) : Journal :=
  if debug then [.note message] else []

end Journal

end ServiceCatalog
