import ServiceCatalog.Session

/-!
# Compilations

A compilation is a session over one symbol table: the rounds that bring declarations, and then the
last one.
-/

namespace ServiceCatalog

/-- What a compilation did. -/
structure CompilationReport where
  /-- The number of rounds before the last one. -/
  rounds : Nat
  /-- The summaries of the scans that did not stop. -/
  scans : List ScanSummary
  /-- What the merge did, if it succeeded. -/
  merge : Option MergeReport
  /-- All that was found. -/
  catalog : Catalog

namespace CompilationReport

/-- The services whose resource was written. -/
def written (r : CompilationReport) : List String :=
  match r.merge with
  | some merge => merge.written
  | none => []

end CompilationReport

/-- The rounds of a compilation in order. -/
def roundsOf (count : Nat) : List Round :=
  (List.range count).map (fun index => ⟨index, false⟩) ++ [⟨count, true⟩]

/-- Compiles a table in a number of rounds, of which there is at least one. -/
def SymbolTable.compile {m : Type → Type} [Monad m] (t : SymbolTable) (store : Store m)
    (rounds : Nat) (options : Options) : m (CompilationReport × Journal) := do
  let count := max rounds 1
  let (s, journal) ← Session.handleAll store t (.start options) (roundsOf count)
  return (⟨count, s.scans, s.merge, s.catalog⟩, journal)

end ServiceCatalog
