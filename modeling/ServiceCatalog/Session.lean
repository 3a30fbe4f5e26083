import ServiceCatalog.Merge
import ServiceCatalog.Options
import ServiceCatalog.Scan

/-!
# Sessions

A session goes through the rounds of one compilation. It collects what the scans of the rounds find
in one catalog, and merges the catalog into a store when the last round comes. Failures do not end
a session: they are reported.
-/

namespace ServiceCatalog

/-- The state of a session between two rounds. -/
structure Session where
  options : Options
  /-- What has been found so far. -/
  catalog : Catalog
  /-- The summaries of the scans that did not stop. -/
  scans : List ScanSummary
  /-- What the merge did, once it has succeeded. -/
  merge : Option MergeReport
  /-- Whether a last round has come. -/
  finished : Bool

namespace Session

/-- The session before its first round. -/
def start (options : Options) : Session := ⟨options, ∅, [], none, false⟩

/-- The scan of a round and what it leaves behind. -/
def scanRound (s : Session) (t : SymbolTable) (index : Nat) : Session × Journal :=
  let (outcome, catalog, journal) := t.scan s.options.verify s.options.debug index s.catalog
  let s := { s with catalog }
  match outcome with
  | .ok summary => ({ s with scans := s.scans ++ [summary] }, journal)
  | .error cause => (s, journal ++ [.fatal (.symbol cause)])

/-- The warning about a last round after the last round. -/
def repeatedEnd : Diagnostic :=
  .warning "Registry files were already generated; ignoring repeated final pass"

variable {m : Type → Type} [Monad m]

/-- Merges the catalog into a store. Only the first last round does. -/
def finish (store : Store m) (s : Session) : m (Session × Journal) := do
  if s.finished then return (s, [repeatedEnd])
  else
    -- a merge that fails is not tried again
    let s := { s with finished := true }
    match ← s.catalog.mergeInto s.options.debug store with
    | (journal, .ok report) => return ({ s with merge := some report }, journal)
    | (journal, .error failure) => return (s, journal ++ [.fatal failure])

/-- Handles a round over a symbol table. -/
def handle (store : Store m) (s : Session) (t : SymbolTable) (round : Round) :
    m (Session × Journal) :=
  if round.last then s.finish store else pure (s.scanRound t round.index)

/-- Handles rounds one after another. -/
def handleAll (store : Store m) (t : SymbolTable) (s : Session) :
    List Round → m (Session × Journal)
  | [] => pure (s, [])
  | round :: rounds => do
    let (s, journal) ← s.handle store t round
    let (s, later) ← handleAll store t s rounds
    return (s, journal ++ later)

end Session

end ServiceCatalog
