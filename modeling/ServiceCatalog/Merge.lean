import ServiceCatalog.Catalog
import ServiceCatalog.Diagnostic
import ServiceCatalog.Service.File
import ServiceCatalog.Storage.Store

/-!
# Merging a catalog into a store

Every service of the catalog has a resource. Merging a service adds its providers to those that the
resource names already; the resource is written, sorted and without comments, unless it names them
all. A resource that cannot be read counts as empty. The services are merged in their order, and
the first that cannot be written ends the merge.
-/

namespace ServiceCatalog

/-- What a merge did to the resources of the services. -/
structure MergeReport where
  /-- The services whose resource was written. -/
  written : List String
  /-- The services whose resource named all providers already. -/
  unchanged : List String
deriving Repr, DecidableEq

namespace Merge

/-- What merging a service did to its resource. -/
inductive Change where
  | written
  | unchanged
deriving Repr, DecidableEq

/-- A report with what was done for a service before all others. -/
def Change.record (service : String) (report : MergeReport) : Change → MergeReport
  | .written => { report with written := service :: report.written }
  | .unchanged => { report with unchanged := service :: report.unchanged }

/-- The text of a set of names in notes. -/
def quoteNames (names : NameSet) : String := Text.braced (names.toList.map Text.quote)

/-- The providers that a resource names, given the result of reading it, and what is reported about
the reading. -/
def existing (debug : Bool) (resource : String) : Except Fault Bytes → NameSet × Journal
  | .ok content =>
    match Service.readEntries? content with
    | some names => (names, .log debug ("Existing service entries: " ++ quoteNames names))
    | none => (∅, [.warning (Failure.unreadable resource .notUtf8).message])
  | .error fault =>
    -- either way the resource counts as empty; only one that exists is worth a warning
    if fault.isMissing then (∅, .log debug "Resource file did not already exist.")
    else (∅, [.warning (Failure.unreadable resource fault).message])

variable {m : Type → Type} [Monad m]

/-- Writes a set of names to a resource, unless one of them would not read back. -/
def writeNames (store : Store m) (resource : String) (names : NameSet) : m (Except Fault Unit) :=
  match Service.writeEntries names.toList with
  | .error bad => pure (.error (.badEntry bad))
  | .ok content => store.write resource content

/-- Merges the providers of a service whose name is fit. -/
def mergeInto (debug : Bool) (store : Store m) (resource : String) (providers : NameSet) :
    m (Journal × Except Failure Change) := do
  let log := Journal.log debug
  let place := store.describe resource
  let opening := log ("Working on resource file: " ++ resource) ++
    log ("Looking for existing resource file at " ++ place)
  let (old, reading) := existing debug resource (← store.read resource)
  if providers ⊆ old then
    return (opening ++ reading ++ log "No new service entries being added.", .ok .unchanged)
  else
    let merged := old ∪ providers
    let writing := opening ++ reading ++ log ("New service file contents: " ++ quoteNames merged)
    match ← writeNames store resource merged with
    | .error fault => return (writing, .error (.unwritable resource fault))
    | .ok () => return (writing ++ log ("Wrote to: " ++ place), .ok .written)

/-- Merges the providers of a service. A service with an unfit name has no resource. -/
def mergeService (debug : Bool) (store : Store m) (service : String) (providers : NameSet) :
    m (Journal × Except Failure Change) :=
  let resource := Service.resourceName service
  match Service.nameFault? service with
  | some fault => pure ([], .error (.unwritable resource (.badServiceName service fault)))
  | none => mergeInto debug store resource providers

/-- Merges services one after another up to the first that fails. -/
def mergeServices (debug : Bool) (store : Store m) :
    List (String × NameSet) → m (Journal × Except Failure MergeReport)
  | [] => pure ([], .ok ⟨[], []⟩)
  | (service, providers) :: rest => do
    match ← mergeService debug store service providers with
    | (journal, .error failure) => return (journal, .error failure)
    | (journal, .ok change) =>
      let (later, result) ← mergeServices debug store rest
      return (journal ++ later, result.map fun report => change.record service report)

end Merge

/-- Merges a catalog into a store. The journal holds notes if they are asked for. -/
def Catalog.mergeInto {m : Type → Type} [Monad m] (c : Catalog) (debug : Bool) (store : Store m) :
    m (Journal × Except Failure MergeReport) :=
  Merge.mergeServices debug store c.services.entries

end ServiceCatalog
