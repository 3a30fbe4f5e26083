import ServiceCatalog.Compilation
import ServiceCatalog.Proofs.ScanRecord
import ServiceCatalog.Proofs.ServiceMerge

/-!
# The run of a session

The rounds that bring declarations do not touch the store: each adds the pairs of its scan to the
catalog, its summary to the summaries and its diagnostics to the journal. So a compilation is a run
of scans followed by one merge.

* `scanAll_eq`, `lists_scanAll`: what a run of scans adds to a session;
* `handleAll_scans`: the rounds of a session as a run of scans and the rounds after it;
* `SymbolTable.compile_eq`: a compilation as such a run and the round that ends it;
* `SymbolTable.compile_outcome`: its report and its store, read off the merge of what was found.
-/

namespace ServiceCatalog

/-! ## Errors in journals -/

namespace Journal

theorem hasErrors_eq_false_iff {j : Journal} :
    j.hasErrors = false ↔ ∀ d ∈ j, d.severity ≠ .error := by
  simp only [hasErrors, errorCount, ofSeverity, bne_eq_false_iff_eq, List.length_eq_zero_iff,
    List.filter_eq_nil_iff, decide_eq_true_eq]

theorem hasErrors_append {j k : Journal} :
    hasErrors (j ++ k) = false ↔ j.hasErrors = false ∧ k.hasErrors = false := by
  simp only [hasErrors_eq_false_iff, List.forall_mem_append]

/-- Leaving notes out leaves no error out. -/
theorem hasErrors_shown {debug : Bool} {j : Journal} :
    (j.shown debug).hasErrors = false ↔ j.hasErrors = false := by
  rw [hasErrors_eq_false_iff, hasErrors_eq_false_iff, shown]
  -- with the notes the journal is the same; without them every error is still there
  cases debug with
  | true => rfl
  | false =>
    simp only [Bool.false_eq_true, if_false, List.mem_filter, decide_eq_true_eq]
    constructor
    · intro h d hd herror
      have hshown : d.severity ≠ .note := by
        rw [herror]
        exact Severity.noConfusion
      exact h d ⟨hd, hshown⟩ herror
    · rintro h d ⟨hd, -⟩
      exact h d hd

theorem hasErrors_fatal (failure : Failure) : hasErrors [.fatal failure] = true := rfl

end Journal

namespace Scan

variable {s : Scan}

/-- A scan reports an error for each fault that it finds. -/
theorem hasErrors_diagnostics :
    s.diagnostics.hasErrors = false ↔ ∀ f ∈ s.findings, f.isFault = false := by
  rw [Journal.hasErrors_eq_false_iff, diagnostics, List.forall_mem_filterMap]
  apply forall₂_congr
  intro f _
  cases f <;> simp [Finding.diagnostic?, Finding.isFault, Finding.isMissing, Finding.isRejected,
    Diagnostic.note, Diagnostic.atMarker]

/-- The summary counts the faults. -/
theorem summary_eq_zero_iff {declarations : Nat} :
    (s.summary declarations).missing = 0 ∧ (s.summary declarations).rejected = 0 ↔
      ∀ f ∈ s.findings, f.isFault = false := by
  simp only [summary, List.countP_eq_zero, Finding.isFault, Bool.or_eq_false_iff,
    Bool.not_eq_true, ← forall₂_and]

/-- A scan adds its pairs to a catalog. -/
theorem lists_addTo {c : Catalog} {i p : String} :
    (s.addTo c).lists i p = true ↔ c.lists i p = true ∨ (i, p) ∈ s.pairs :=
  Catalog.lists_foldl_add

end Scan

/-! ## Runs of scans -/

namespace Session

/-- What the scan of a round reports, along with the failure that stopped it. -/
def roundJournal (t : SymbolTable) (o : Options) (index : Nat) : Journal :=
  (Scan.ofRound t o.verify index).diagnostics.shown o.debug ++
    (Scan.ofRound t o.verify index).stop.toList.map fun cause => .fatal (.symbol cause)

/-- The summary of the scan of a round that did not stop. -/
def roundSummary? (t : SymbolTable) (o : Options) (index : Nat) : Option ScanSummary :=
  match (Scan.ofRound t o.verify index).stop with
  | some _ => none
  | none => some ((Scan.ofRound t o.verify index).summary (t.markedIn index).length)

/-- What one scan adds to a session. -/
theorem scanRound_eq (s : Session) (t : SymbolTable) (index : Nat) :
    s.scanRound t index =
      ({ s with
        catalog := (Scan.ofRound t s.options.verify index).addTo s.catalog,
        scans := s.scans ++ (roundSummary? t s.options index).toList },
        roundJournal t s.options index) := by
  rw [scanRound, SymbolTable.scan_eq, roundJournal, roundSummary?, Scan.outcome]
  cases (Scan.ofRound t s.options.verify index).stop <;> simp

/-- The scans of some rounds one after another. -/
def scanAll (t : SymbolTable) (s : Session) : List Nat → Session × Journal
  | [] => (s, [])
  | index :: rest =>
    let (s, journal) := s.scanRound t index
    let (s, later) := scanAll t s rest
    (s, journal ++ later)

/-- What a run of scans adds to a session. -/
theorem scanAll_eq (t : SymbolTable) (s : Session) (indices : List Nat) :
    scanAll t s indices =
      ({ s with
        catalog := indices.foldl
          (fun c index => (Scan.ofRound t s.options.verify index).addTo c) s.catalog,
        scans := s.scans ++ indices.filterMap (roundSummary? t s.options) },
        indices.flatMap (roundJournal t s.options)) := by
  -- the induction is on the rounds, with the session varying, which the scan of each round changes
  induction indices generalizing s with
  | nil => simp [scanAll]
  | cons index rest ih =>
    have hscans : (index :: rest).filterMap (roundSummary? t s.options) =
        (roundSummary? t s.options index).toList ++
          rest.filterMap (roundSummary? t s.options) := by
      cases h : roundSummary? t s.options index <;> simp [h]
    simp only [scanAll, scanRound_eq, ih, List.foldl_cons, List.flatMap_cons, hscans,
      List.append_assoc]

/-- What a run of scans finds is what its rounds register. -/
theorem lists_scanAll {t : SymbolTable} {s : Session} {indices : List Nat} {i p : String} :
    (scanAll t s indices).1.catalog.lists i p = true ↔
      s.catalog.lists i p = true ∨
        ∃ index ∈ indices, (i, p) ∈ (Scan.ofRound t s.options.verify index).pairs := by
  rw [scanAll_eq]
  simp only
  -- the induction is on the rounds, over all catalogs that they start from
  generalize s.catalog = c
  induction indices generalizing c with
  | nil => simp
  | cons index rest ih =>
    rw [List.foldl_cons, ih, Scan.lists_addTo, or_assoc]
    simp only [List.mem_cons, exists_eq_or_imp]

variable {σ : Type}

/-- Rounds that bring declarations leave the store to the rounds after them. -/
theorem handleAll_scans (store : Store (StateM σ)) (t : SymbolTable) (s : Session)
    (indices : List Nat) (rounds : List Round) (st : σ) :
    handleAll store t s (indices.map (fun index => ⟨index, false⟩) ++ rounds) st =
      let run := scanAll t s indices
      let rest := handleAll store t run.1 rounds st
      ((rest.1.1, run.2 ++ rest.1.2), rest.2) := by
  -- a round with declarations does not touch the store, so it is the same for the rounds after it
  induction indices generalizing s with
  | nil => rfl
  | cons index indices ih =>
    have hhandle : handle store s t ⟨index, false⟩ st = (s.scanRound t index, st) := rfl
    rw [List.map_cons, List.cons_append, handleAll, bind_apply, hhandle]
    simp only [bind_apply, ih, scanAll, List.append_assoc]
    rfl

/-- The first last round merges the catalog, and keeps the report if the merge succeeds. -/
theorem finish_run (store : Store (StateM σ)) (s : Session) (st : σ) (h : s.finished = false) :
    let merged := s.catalog.mergeInto s.options.debug store st
    (s.finish store st).1.1 =
      { s with finished := true, merge := merged.1.2.toOption.or s.merge } ∧
        (s.finish store st).2 = merged.2 := by
  intro merged
  have hopen : ¬ s.finished = true := by
    rw [h]
    exact Bool.false_ne_true
  -- a failed merge leaves the report as it was
  rcases hmerged : s.catalog.mergeInto s.options.debug store st with
    ⟨⟨journal, failure | report⟩, st'⟩
  · rw [finish, if_neg hopen, bind_apply]
    simp only [merged, hmerged]
    exact ⟨rfl, rfl⟩
  · rw [finish, if_neg hopen, bind_apply]
    simp only [merged, hmerged]
    exact ⟨rfl, rfl⟩

end Session

/-- A compilation is a run of scans and the round that ends it. -/
theorem SymbolTable.compile_eq {σ : Type} (t : SymbolTable) (store : Store (StateM σ))
    (rounds : Nat) (options : Options) (st : σ) :
    t.compile store rounds options st =
      let run := Session.scanAll t (.start options) (List.range (max rounds 1))
      let last := run.1.finish store st
      ((⟨max rounds 1, last.1.1.scans, last.1.1.merge, last.1.1.catalog⟩,
        run.2 ++ last.1.2), last.2) := by
  have hlast : ∀ s : Session, Session.handleAll store t s [⟨max rounds 1, true⟩] st =
      s.finish store st := by
    intro s
    simp only [Session.handleAll, Session.handle, if_true, bind_apply, pure_apply,
      List.append_nil]
    rfl
  unfold compile
  simp only [bind_apply, roundsOf, Session.handleAll_scans, hlast]
  rfl

/-- What a compilation reports and what it leaves: what its scans found, and the merge of that. -/
theorem SymbolTable.compile_outcome {σ : Type} (t : SymbolTable) (store : Store (StateM σ))
    (rounds : Nat) (o : Options) (st : σ) :
    let found := (Session.scanAll t (.start o) (List.range (max rounds 1))).1
    let merged := found.catalog.mergeInto o.debug store st
    let out := t.compile store rounds o st
    out.1.1 = ⟨max rounds 1, found.scans, merged.1.2.toOption, found.catalog⟩ ∧
      out.2 = merged.2 := by
  intro found merged out
  -- only the last round finishes a session and merges
  have hopen : found.finished = false ∧ found.merge = none := by
    simp only [found, Session.scanAll_eq, Session.start, and_self]
  -- scanning leaves the options as they are
  have hoptions : found.options = o := by
    simp only [found, Session.scanAll_eq, Session.start]
  rcases Session.finish_run store found st hopen.1 with ⟨hsession, hstore⟩
  have hout : out = t.compile store rounds o st := rfl
  rw [compile_eq] at hout
  simp only [hout]
  rw [show (Session.scanAll t (.start o) (List.range (max rounds 1))).1 = found from rfl,
    hsession, hstore]
  simp [merged, hopen.2, hoptions]

end ServiceCatalog
