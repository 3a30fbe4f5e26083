import ServiceCatalog.Catalog
import ServiceCatalog.Diagnostic
import ServiceCatalog.Symbol.Naming

/-!
# Scanning a round

A scan goes through the marked declarations of a round and through the services that each of them
names. It registers pairs in a catalog, reports what it rejects, counts what it does and notes how
far it has come, if notes are asked for. The first look-up that fails ends the scan; what was
registered and reported before it stays.
-/

namespace ServiceCatalog

/-- The counts that sum up a scan. -/
structure ScanSummary where
  /-- The marked declarations. -/
  declarations : Nat
  /-- The pairs to be registered. -/
  registered : Nat
  /-- The declarations whose marker names no service. -/
  missing : Nat
  /-- The pairs whose provider is not a subtype of the service. -/
  rejected : Nat
deriving Repr, DecidableEq

/-- The counts before anything was counted. -/
def ScanSummary.zero : ScanSummary := ⟨0, 0, 0, 0⟩

/-- What a scan changes as it goes. -/
structure ScanState where
  /-- The catalog that it registers pairs in. -/
  catalog : Catalog
  /-- What it has counted so far. -/
  summary : ScanSummary
  /-- What it has reported so far. -/
  journal : Journal

/-- A part of a scan, which may end the scan. The state stays as it is at that point. -/
abbrev Scanner (α : Type) := ExceptT SymbolError (StateM ScanState) α

namespace Scanner

/-- One part after another, unless the first ends the scan. -/
theorem run_bind {α β : Type} (x : Scanner α) (f : α → Scanner β) (st : ScanState) :
    (x >>= f).run st =
      match x.run st with
      | (.ok a, st') => (f a).run st'
      | (.error cause, st') => (.error cause, st') := by
  rw [ExceptT.run_bind]
  rcases h : x.run st with ⟨cause | a, st'⟩
  · simp only [bind, StateT.bind, h]
    rfl
  · simp only [bind, StateT.bind, h]

/-! ## Steps -/

/-- Needs the answer of a look-up. -/
def ask {α : Type} (answer : Except SymbolError α) : Scanner α := ExceptT.mk (pure answer)

/-- Reports a diagnostic. -/
def report (d : Diagnostic) : Scanner Unit :=
  modify fun st => { st with journal := st.journal ++ [d] }

/-- Logs a message, which is reported only if notes are asked for. -/
def log (debug : Bool) (message : String) : Scanner Unit :=
  if debug then report (.note message) else pure ()

/-- Registers a provider for a service, by their binary names. -/
def register (service provider : String) : Scanner Unit :=
  modify fun st => { st with catalog := st.catalog.add service provider }

/-- Adds to the counts. -/
def count (change : ScanSummary → ScanSummary) : Scanner Unit :=
  modify fun st => { st with summary := change st.summary }

end Scanner

/-! ## The scan of a round -/

namespace Scan

/-- Whether a provider may be registered for a service. Without `verify` every provider may. -/
def accepts (t : SymbolTable) (verify : Bool) (provider service : DeclId) :
    Except SymbolError Bool :=
  if verify then t.isSubtype provider service else .ok true

/-- The form of an identifier in the opening remark. -/
def quoteId (id : DeclId) : String := "DeclId(" ++ Text.quote id.text ++ ")"

/-- The remark that opens the scan of a round. -/
def openingRemark (index : Nat) (ids : List DeclId) : String :=
  "Round " ++ toString index ++ ": marked declarations " ++ Text.bracketed (ids.map quoteId)

end Scan

namespace Scanner

/-- Scans one service that a declaration names. The names in the notes are looked up whether or not
the notes are asked for. -/
def scanPair (t : SymbolTable) (verify debug : Bool) (element : DeclId) (binaryName : String)
    (ref : DeclId) : Scanner Unit := do
  let service ← ask (t.resolve ref)
  log debug ("provider interface: " ++ (← ask (t.qualifiedName service.id)))
  log debug ("provider implementer: " ++ (← ask (t.qualifiedName element)))
  if ← ask (Scan.accepts t verify element service.id) then
    register (← ask (t.binaryName service.id)) binaryName
    count fun c => { c with registered := c.registered + 1 }
  else
    -- the error is not built from the notes: its names are looked up for it
    let providerName ← ask (t.qualifiedName element)
    let serviceName ← ask (t.qualifiedName service.id)
    report (.atMarker (.notImplemented providerName serviceName) element)
    count fun c => { c with rejected := c.rejected + 1 }

/-- Scans one marked declaration. -/
def scanElement (t : SymbolTable) (verify debug : Bool) (element : DeclId) : Scanner Unit := do
  count fun c => { c with declarations := c.declarations + 1 }
  match (← ask (t.marker element)).services with
  | [] =>
    report (.atMarker (.missingService (← ask (t.qualifiedName element))) element)
    count fun c => { c with missing := c.missing + 1 }
  | refs =>
    let binaryName ← ask (t.binaryName element)
    refs.forM (scanPair t verify debug element binaryName)

/-- Scans the marked declarations of a round. -/
def scanRound (t : SymbolTable) (verify debug : Bool) (index : Nat) : Scanner Unit := do
  let elements := t.markedIn index
  log debug (Scan.openingRemark index elements)
  elements.forM (scanElement t verify debug)

end Scanner

/-- Scans a round into a catalog. The outcome is the summary or the look-up that failed; with it
come the catalog and what was reported. -/
def SymbolTable.scan (t : SymbolTable) (verify debug : Bool) (index : Nat) (c : Catalog) :
    Except SymbolError ScanSummary × Catalog × Journal :=
  let (outcome, st) := (Scanner.scanRound t verify debug index).run ⟨c, .zero, []⟩
  (outcome.map fun _ => st.summary, st.catalog, st.journal)

end ServiceCatalog
