import ServiceCatalog.Scan

/-!
# Findings of a scan

What a scan does, said without the state that it changes: a list of findings in order, and possibly
the failed look-up at which it stopped. The pairs that it registers, its diagnostics and its summary
are all read off the findings.

* `Finding`, `Scan`: findings, and what a scan comes to;
* `Scan.ofRound`: the findings of the scan of a round;
* `Scan.addTo`, `Scan.diagnostics`, `Scan.outcome`: what findings come to.
-/

namespace ServiceCatalog

/-- One finding of a scan. -/
inductive Finding where
  /-- Tells how far the scan has come. -/
  | remark (message : String)
  /-- A marker that names no service. -/
  | missing (element : DeclId) (name : String)
  /-- A provider to be registered for a service, by their binary names. -/
  | registered (service provider : String)
  /-- A provider that is not a subtype of its service, by their qualified names. -/
  | rejected (element : DeclId) (provider service : String)
deriving Repr, DecidableEq

namespace Finding

/-- What is reported about a finding. -/
def diagnostic? : Finding → Option Diagnostic
  | .remark message => some (.note message)
  | .missing element name => some (.atMarker (.missingService name) element)
  | .registered _ _ => none
  | .rejected element provider service =>
    some (.atMarker (.notImplemented provider service) element)

/-- The pair of service and provider that a finding registers. -/
def pair? : Finding → Option (String × String)
  | .registered service provider => some (service, provider)
  | _ => none

/-- Whether a finding is about a marker that names no service. -/
def isMissing : Finding → Bool
  | .missing _ _ => true
  | _ => false

/-- Whether a finding is about a provider that is not a subtype. -/
def isRejected : Finding → Bool
  | .rejected _ _ _ => true
  | _ => false

end Finding

/-- The findings of a scan and the failed look-up at which it stopped, if it did. -/
structure Scan where
  findings : List Finding
  stop : Option SymbolError
deriving Repr, DecidableEq

namespace Scan

/-! ## Putting scans together -/

/-- The scan that finds nothing. -/
def done : Scan := ⟨[], none⟩

/-- A finding followed by a scan. -/
def report (finding : Finding) (next : Scan) : Scan := ⟨finding :: next.findings, next.stop⟩

/-- A scan followed by another one, unless the first stops. -/
def followedBy (first next : Scan) : Scan :=
  match first.stop with
  | some cause => ⟨first.findings, some cause⟩
  | none => ⟨first.findings ++ next.findings, next.stop⟩

/-- Scans one after another up to the first that stops. -/
def sequence (scans : List Scan) : Scan := scans.foldr followedBy done

/-- A scan that needs the answer of a look-up. -/
def needs {α : Type} (answer : Except SymbolError α) (next : α → Scan) : Scan :=
  match answer with
  | .ok a => next a
  | .error cause => ⟨[], some cause⟩

/-! ## The scan of a round -/

/-- The scan of one service that a declaration names. -/
def ofPair (t : SymbolTable) (verify : Bool) (element : DeclId) (binaryName : String)
    (ref : DeclId) : Scan :=
  needs (t.resolve ref) fun service =>
  needs (t.qualifiedName service.id) fun serviceName =>
  report (.remark ("provider interface: " ++ serviceName)) <|
  needs (t.qualifiedName element) fun elementName =>
  report (.remark ("provider implementer: " ++ elementName)) <|
  needs (accepts t verify element service.id) fun accepted =>
    if accepted then
      needs (t.binaryName service.id) fun serviceBinaryName =>
      report (.registered serviceBinaryName binaryName) done
    else report (.rejected element elementName serviceName) done

/-- The scan of one marked declaration. -/
def ofElement (t : SymbolTable) (verify : Bool) (element : DeclId) : Scan :=
  needs (t.marker element) fun marker =>
    match marker.services with
    | [] => needs (t.qualifiedName element) fun name => report (.missing element name) done
    | refs =>
      needs (t.binaryName element) fun binaryName =>
        sequence (refs.map (ofPair t verify element binaryName))

/-- The scan of a round. -/
def ofRound (t : SymbolTable) (verify : Bool) (index : Nat) : Scan :=
  report (.remark (openingRemark index (t.markedIn index))) <|
    sequence ((t.markedIn index).map (ofElement t verify))

/-! ## What a scan yields -/

/-- The diagnostics of a scan, notes included. -/
def diagnostics (s : Scan) : Journal := s.findings.filterMap Finding.diagnostic?

/-- The pairs of services and providers that a scan registers. -/
def pairs (s : Scan) : List (String × String) := s.findings.filterMap Finding.pair?

/-- A catalog with the pairs of a scan added. A scan that stopped adds the pairs before the stop. -/
def addTo (s : Scan) (c : Catalog) : Catalog := s.pairs.foldl (fun c p => c.add p.1 p.2) c

/-- The summary of a scan of a number of declarations. -/
def summary (s : Scan) (declarations : Nat) : ScanSummary where
  declarations := declarations
  registered := s.pairs.length
  missing := s.findings.countP Finding.isMissing
  rejected := s.findings.countP Finding.isRejected

/-- The summary of the scan of a round, or why it stopped. -/
def outcome (s : Scan) (declarations : Nat) : Except SymbolError ScanSummary :=
  match s.stop with
  | some cause => .error cause
  | none => .ok (s.summary declarations)

end Scan

end ServiceCatalog
