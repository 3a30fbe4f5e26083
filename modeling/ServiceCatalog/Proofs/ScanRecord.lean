import ServiceCatalog.Proofs.QuietScan
import ServiceCatalog.Proofs.Scanning

/-!
# What a scan records

A scan changes the catalog, its counts and its journal while it goes along. What it has changed at
any point is what its findings up to there say: each pair that was registered is in the catalog and
counted, each rejection is reported and counted. This holds at every step of both loops, whether the
scan comes to its end or is ended by a look-up.

* `Adds`: what a state has more than another one, by the findings between them;
* `Records`: a part of a scan that adds its findings from wherever it is run, with a rule for each
  way of putting scans together;
* `scanPair_records`, `scanElement_records`, `scanRound_records`: the parts of the scan of a round;
* `SymbolTable.scan_eq`: the scan of a round, with notes and without, read off its findings, with
  `scan_eq_error_iff` and `scan_eq_ok_iff` for how it ends.
-/

namespace ServiceCatalog

namespace Scan

variable {s next : Scan}

/-! ## Findings one after another -/

theorem report_eq_followedBy (f : Finding) (s : Scan) :
    report f s = (report f done).followedBy s := rfl

/-- A scan that does not stop hands on to the next one, with the findings of both. -/
theorem followedBy_of_stop_eq_none (h : s.stop = none) (next : Scan) :
    s.followedBy next = ⟨s.findings ++ next.findings, next.stop⟩ := by
  rw [followedBy, h]

/-- A scan that stops is not followed by anything. -/
theorem followedBy_of_stop_ne_none (h : s.stop ≠ none) (next : Scan) : s.followedBy next = s := by
  obtain ⟨cause, hstop⟩ := Option.ne_none_iff_exists'.mp h
  rcases s with ⟨findings, stop⟩
  cases hstop
  rfl

/-- How a scan ends. -/
def ending (s : Scan) : Except SymbolError Unit :=
  match s.stop with
  | some cause => .error cause
  | none => .ok ()

end Scan

namespace Scanner

open Scan

/-! ## What findings add to a state -/

/-- Whether a state has what another one has and what the findings of a scan add to it: their pairs,
their diagnostics, and a count of each kind of them. The declarations are counted where they begin,
so their number is known of a scan that comes to its end. -/
structure Adds (s : Scan) (declarations : Nat) (st st' : ScanState) : Prop where
  catalog : st'.catalog = s.addTo st.catalog
  journal : st'.journal = st.journal ++ s.diagnostics
  registered : st'.summary.registered = st.summary.registered + s.pairs.length
  missing : st'.summary.missing = st.summary.missing + s.findings.countP Finding.isMissing
  rejected : st'.summary.rejected = st.summary.rejected + s.findings.countP Finding.isRejected
  declarations : s.stop = none → st'.summary.declarations = st.summary.declarations + declarations

variable {s next : Scan} {m n : Nat} {st st' st'' : ScanState}

/-- A state that stays as it is: nothing is found before a look-up that ends the scan. -/
theorem Adds.refl (stop : Option SymbolError) (st : ScanState) (h : stop = none → n = 0) :
    Adds ⟨[], stop⟩ n st st where
  catalog := rfl
  journal := (List.append_nil _).symm
  registered := rfl
  missing := rfl
  rejected := rfl
  declarations hstop := by rw [h hstop, Nat.add_zero]

/-- The step of every loop: what was added so far, and what comes next is added to it. -/
theorem Adds.trans (h : Adds s m st st') (h' : Adds next n st' st'') (hstop : s.stop = none) :
    Adds (s.followedBy next) (m + n) st st'' := by
  rw [followedBy_of_stop_eq_none hstop]
  constructor
  · -- what two parts add to the state is what their findings, one after the other, come to
    rw [h'.catalog, h.catalog]
    simp only [addTo, pairs, List.filterMap_append, List.foldl_append]
  · rw [h'.journal, h.journal]
    simp only [diagnostics, List.filterMap_append, List.append_assoc]
  · rw [h'.registered, h.registered]
    simp only [pairs, List.filterMap_append, List.length_append, Nat.add_assoc]
  · rw [h'.missing, h.missing, List.countP_append, Nat.add_assoc]
  · rw [h'.rejected, h.rejected, List.countP_append, Nat.add_assoc]
  · intro hnext
    rw [h'.declarations hnext, h.declarations hstop, Nat.add_assoc]

/-- The counts of a scan that comes to its end, if nothing was counted before it. -/
theorem Adds.summary_eq (h : Adds s n st st') (hstart : st.summary = .zero)
    (hstop : s.stop = none) :
    st'.summary = s.summary n := by
  have hdeclarations := h.declarations hstop
  have hregistered := h.registered
  have hmissing := h.missing
  have hrejected := h.rejected
  rw [hstart] at hdeclarations hregistered hmissing hrejected
  rcases st' with ⟨_, ⟨declarations, registered, missing, rejected⟩, _⟩
  simp only [ScanSummary.zero, Nat.zero_add] at hdeclarations hregistered hmissing hrejected
  rw [summary, hdeclarations, hregistered, hmissing, hrejected]

/-! ## Parts of a scan that record their findings -/

/-- Whether a part of a scan ends as its findings say and adds them to the state. -/
def Records (x : Scanner Unit) (s : Scan) (declarations : Nat) : Prop :=
  ∀ st, ∃ st', x.run st = (s.ending, st') ∧ Adds s declarations st st'

section Rules

variable {α : Type} {x y : Scanner Unit}

theorem Records.nothing : Records (pure ()) done 0 :=
  fun st => ⟨st, rfl, .refl none st fun _ => rfl⟩

/-- A look-up that is answered hands on; one that is not ends the scan with nothing found. -/
theorem Records.needs {answer : Except SymbolError α} {f : α → Scanner Unit} {found : α → Scan}
    (h : ∀ a, answer = .ok a → Records (f a) (found a) n) :
    Records (ask answer >>= f) (needs answer found) n := by
  cases answer with
  | ok a => exact h a rfl
  | error cause => exact fun st => ⟨st, rfl, .refl (some cause) st nofun⟩

theorem Records.followedBy (hx : Records x s m) (hy : Records y next n) :
    Records (x >>= fun _ => y) (s.followedBy next) (m + n) := by
  intro st
  obtain ⟨st', hrun, hadds⟩ := hx st
  rw [run_bind, hrun]
  -- either the first part ends the scan, or the second one goes on from what it leaves
  cases hstop : s.stop with
  | some cause =>
    have hne : s.stop ≠ none := by simp [hstop]
    rw [followedBy_of_stop_ne_none hne]
    refine ⟨st', ?_, { hadds with declarations := fun h => absurd h hne }⟩
    simp only [ending, hstop]
  | none =>
    obtain ⟨st'', hrun', hadds'⟩ := hy st'
    refine ⟨st'', ?_, hadds.trans hadds' hstop⟩
    simp only [ending, hstop, hrun', followedBy_of_stop_eq_none]

/-- A part that records one finding, and what comes after it. -/
theorem Records.report {f : Finding} (hx : Records x (Scan.report f done) 0)
    (hy : Records y next n) : Records (x >>= fun _ => y) (Scan.report f next) n := by
  rw [report_eq_followedBy, ← Nat.zero_add n]
  exact hx.followedBy hy

/-- A loop records what its rounds record, one after another. -/
theorem Records.forM {f : α → Scanner Unit} {found : α → Scan} (h : ∀ a, Records (f a) (found a) n)
    (as : List α) : Records (as.forM f) (sequence (as.map found)) (as.length * n) := by
  induction as with
  | nil =>
    rw [List.length_nil, Nat.zero_mul]
    exact .nothing
  | cons a as ih =>
    rw [List.map_cons, sequence_cons, List.length_cons, Nat.add_mul, Nat.one_mul, Nat.add_comm]
    exact (h a).followedBy ih

end Rules

/-! ## Single findings -/

theorem records_log (message : String) :
    Records (log true message) (Scan.report (.remark message) done) 0 :=
  fun _ => ⟨_, rfl, ⟨rfl, rfl, rfl, rfl, rfl, fun _ => rfl⟩⟩

/-- A pair that is registered is counted. -/
theorem records_registered (service provider : String) :
    Records (do
        register service provider
        count fun c => { c with registered := c.registered + 1 })
      (Scan.report (.registered service provider) done) 0 :=
  fun st => ⟨_, rfl, ⟨rfl, (List.append_nil st.journal).symm, rfl, rfl, rfl, fun _ => rfl⟩⟩

/-- A marker that names nothing is reported and counted. -/
theorem records_missing (element : DeclId) (name : String) :
    Records (do
        report (.atMarker (.missingService name) element)
        count fun c => { c with missing := c.missing + 1 })
      (Scan.report (.missing element name) done) 0 :=
  fun _ => ⟨_, rfl, ⟨rfl, rfl, rfl, rfl, rfl, fun _ => rfl⟩⟩

/-- A provider that is not a subtype is reported and counted. -/
theorem records_rejected (element : DeclId) (provider service : String) :
    Records (do
        report (.atMarker (.notImplemented provider service) element)
        count fun c => { c with rejected := c.rejected + 1 })
      (Scan.report (.rejected element provider service) done) 0 :=
  fun _ => ⟨_, rfl, ⟨rfl, rfl, rfl, rfl, rfl, fun _ => rfl⟩⟩

/-- A declaration is counted before it is looked at. -/
theorem records_begin :
    Records (count fun c => { c with declarations := c.declarations + 1 }) done 1 :=
  fun st => ⟨_, rfl, ⟨rfl, (List.append_nil st.journal).symm, rfl, rfl, rfl, fun _ => rfl⟩⟩

/-! ## The scan of a round -/

section Round

variable (t : SymbolTable) (verify : Bool)

theorem scanPair_records (element : DeclId) (binaryName : String) (ref : DeclId) :
    Records (scanPair t verify true element binaryName ref)
      (ofPair t verify element binaryName ref) 0 := by
  unfold scanPair ofPair
  refine .needs fun service _ => ?_
  refine .needs fun serviceName hservice => ?_
  refine (records_log _).report ?_
  refine .needs fun elementName helement => ?_
  refine (records_log _).report ?_
  refine .needs fun accepted _ => ?_
  -- the findings say which branch was taken; in either one a pair is counted or an error reported
  cases accepted with
  | true => exact .needs fun serviceBinaryName _ => records_registered _ _
  | false =>
    -- the names were found before, so looking them up again does not end the scan
    simp only [Bool.false_eq_true, if_false, hservice, helement]
    exact records_rejected element elementName serviceName

theorem scanElement_records (element : DeclId) :
    Records (scanElement t verify true element) (ofElement t verify element) 1 := by
  unfold scanElement ofElement
  refine records_begin.followedBy (n := 0) ?_
  refine .needs fun marker _ => ?_
  cases marker.services with
  | nil => exact .needs fun name _ => records_missing element name
  | cons ref refs =>
    refine .needs fun binaryName _ => ?_
    exact .forM (scanPair_records t verify element binaryName) (ref :: refs)

theorem scanRound_records (index : Nat) :
    Records (scanRound t verify true index) (ofRound t verify index)
      (t.markedIn index).length := by
  unfold scanRound ofRound
  refine (records_log _).report ?_
  rw [← Nat.mul_one (t.markedIn index).length]
  exact .forM (scanElement_records t verify) (t.markedIn index)

end Round

end Scanner

/-! ## The scan of a round into a catalog -/

/-- The scan of a round, read off its findings: its outcome, the catalog that it leaves and what it
reports. The counts in the summary are those of the findings. -/
theorem SymbolTable.scan_eq (t : SymbolTable) (verify debug : Bool) (index : Nat) (c : Catalog) :
    let scan := Scan.ofRound t verify index
    t.scan verify debug index c =
      (scan.outcome (t.markedIn index).length, scan.addTo c, scan.diagnostics.shown debug) := by
  intro scan
  have hloud : t.scan verify true index c =
      (scan.outcome (t.markedIn index).length, scan.addTo c, scan.diagnostics) := by
    obtain ⟨st, hrun, hadds⟩ := Scanner.scanRound_records t verify index ⟨c, .zero, []⟩
    have hsummary : scan.ending.map (fun _ => st.summary) =
        scan.outcome (t.markedIn index).length := by
      unfold Scan.ending Scan.outcome
      -- a scan that comes to its end has counted what its findings say
      cases hstop : scan.stop with
      | some cause => rfl
      | none => exact congrArg Except.ok (hadds.summary_eq rfl hstop)
    have hjournal : st.journal = scan.diagnostics := hadds.journal
    rw [SymbolTable.scan, hrun, ← hsummary, ← hadds.catalog, ← hjournal]
  cases debug with
  | true => exact hloud
  | false =>
    -- without notes it is the same scan, with the notes left out
    have hsilent := t.scan_quiet verify true index c
    simp only [hloud] at hsilent
    exact hsilent

namespace SymbolTable

variable {t : SymbolTable} {verify debug : Bool} {index : Nat} {c : Catalog}

theorem scan_eq_error_iff {cause : SymbolError} :
    (t.scan verify debug index c).1 = .error cause ↔
      (Scan.ofRound t verify index).stop = some cause := by
  rw [scan_eq, Scan.outcome]
  cases (Scan.ofRound t verify index).stop <;> simp

theorem scan_eq_ok_iff {summary : ScanSummary} :
    (t.scan verify debug index c).1 = .ok summary ↔
      (Scan.ofRound t verify index).stop = none ∧
        summary = (Scan.ofRound t verify index).summary (t.markedIn index).length := by
  rw [scan_eq, Scan.outcome]
  cases (Scan.ofRound t verify index).stop <;> simp [eq_comm]

end SymbolTable

end ServiceCatalog
