import ServiceCatalog.Scan

/-!
# Scans that report no notes

A scan logs messages while it goes along, and what it logs becomes a note if notes are asked for.
The names in a message are looked up either way, and such a look-up can end the scan. So two scans
that differ in the notes alone are followed step by step: from the same catalog, the same counts and
the same diagnostics apart from notes, both come to the same answer or the same failure, and what
they leave is again the same apart from notes.

* `Journal.shown`: a journal with its notes or without them;
* `Scanner.Quiet`: what two such parts of a scan have in common, with a rule for each kind of step;
* `scanPair_quiet`, `scanElement_quiet`, `scanRound_quiet`: the parts of the scan of a round;
* `SymbolTable.scan_quiet`: the scan of a round into a catalog.
-/

namespace ServiceCatalog

/-! ## Journals without notes -/

namespace Journal

/-- What is shown of a journal: its notes only when asked for. -/
def shown (debug : Bool) (j : Journal) : Journal :=
  if debug then j else j.filter fun d => d.severity ≠ .note

theorem shown_append (debug : Bool) (j k : Journal) :
    shown debug (j ++ k) = j.shown debug ++ k.shown debug := by
  cases debug with
  | true => rfl
  | false => exact List.filter_append j k

theorem severity_of_mem_shown {j : Journal} {d : Diagnostic} (h : d ∈ j.shown false) :
    d.severity ≠ .note := by
  have hkept := (List.mem_filter.mp h).2
  simpa only [decide_eq_true_eq] using hkept

/-- A journal without notes is shown as it is. -/
theorem shown_eq_self {j : Journal} (h : ∀ d ∈ j, d.severity ≠ .note) : j.shown false = j :=
  List.filter_eq_self.mpr fun d hd => decide_eq_true (h d hd)

theorem log_false (message : String) : log false message = [] := rfl

/-- What is logged with notes is left out without them. -/
theorem shown_log (debug : Bool) (message : String) :
    (log debug message).shown false = log false message := by
  cases debug <;> rfl

end Journal

/-! ## Parts of a scan -/

/-- The state of a scan without the notes that it has reported. -/
def ScanState.quiet (st : ScanState) : ScanState := { st with journal := st.journal.shown false }

namespace Scanner

/-- Whether a part of a scan is another one without its notes: wherever the other one is run, it has
the same answer or ends the scan for the same cause, and leaves the same state apart from notes. -/
def Quiet {α : Type} (loud silent : Scanner α) : Prop :=
  ∀ st, silent.run st.quiet = ((loud.run st).1, (loud.run st).2.quiet)

section Rules

variable {α β : Type}

theorem Quiet.pure (a : α) : Quiet (pure a) (pure a) := fun _ => rfl

/-- A look-up does not depend on the state, and it ends both scans or neither. -/
theorem Quiet.ask (answer : Except SymbolError α) : Quiet (ask answer) (ask answer) := fun _ => rfl

theorem Quiet.bind {x y : Scanner α} {f g : α → Scanner β} (h : Quiet x y)
    (hf : ∀ a, Quiet (f a) (g a)) : Quiet (x >>= f) (y >>= g) := by
  intro st
  rw [run_bind, run_bind, h st]
  rcases x.run st with ⟨cause | a, st'⟩
  · rfl
  · exact hf a st'

/-- The one step that can differ: a note that is reported is left out, and nothing else changes. -/
theorem quiet_log (debug : Bool) (message : String) :
    Quiet (log debug message) (log false message) := by
  intro st
  cases debug with
  | false => rfl
  | true =>
    -- a note at the end of the journal is the first thing that is left out
    have hnote : Journal.shown false (st.journal ++ [.note message]) = st.journal.shown false := by
      rw [Journal.shown_append]
      exact List.append_nil _
    change (Except.ok (), st.quiet) =
      (Except.ok (), { st with journal := Journal.shown false (st.journal ++ [.note message]) })
    rw [hnote]
    rfl

theorem quiet_report {d : Diagnostic} (h : d.severity ≠ .note) : Quiet (report d) (report d) := by
  intro st
  have hkept : Journal.shown false (st.journal ++ [d]) = st.journal.shown false ++ [d] := by
    rw [Journal.shown_append, Journal.shown_eq_self (j := [d]) (by simpa using h)]
  change (Except.ok (), { st with journal := st.journal.shown false ++ [d] }) =
    (Except.ok (), { st with journal := Journal.shown false (st.journal ++ [d]) })
  rw [hkept]

theorem quiet_register (service provider : String) :
    Quiet (register service provider) (register service provider) := fun _ => rfl

theorem quiet_count (change : ScanSummary → ScanSummary) : Quiet (count change) (count change) :=
  fun _ => rfl

theorem Quiet.forM {f g : α → Scanner Unit} (h : ∀ a, Quiet (f a) (g a)) (as : List α) :
    Quiet (as.forM f) (as.forM g) := by
  induction as with
  | nil => exact .pure ()
  | cons a as ih => exact (h a).bind fun _ => ih

end Rules

/-! ## The scan of a round -/

section Round

variable (t : SymbolTable) (verify debug : Bool)

theorem scanPair_quiet (element : DeclId) (binaryName : String) (ref : DeclId) :
    Quiet (scanPair t verify debug element binaryName ref)
      (scanPair t verify false element binaryName ref) := by
  unfold scanPair
  refine (Quiet.ask _).bind fun service => ?_
  -- the name in a message is looked up before the message is logged, by both scans
  refine (Quiet.ask _).bind fun serviceName => ?_
  refine (quiet_log debug _).bind fun _ => ?_
  refine (Quiet.ask _).bind fun providerName => ?_
  refine (quiet_log debug _).bind fun _ => ?_
  refine (Quiet.ask _).bind fun accepted => ?_
  -- both scans take the same branch, and what they report there is no note
  split
  · refine (Quiet.ask _).bind fun serviceBinaryName => ?_
    exact (quiet_register _ _).bind fun _ => quiet_count _
  · refine (Quiet.ask _).bind fun rejectedName => ?_
    refine (Quiet.ask _).bind fun serviceName => ?_
    exact (quiet_report Severity.noConfusion).bind fun _ => quiet_count _

theorem scanElement_quiet (element : DeclId) :
    Quiet (scanElement t verify debug element) (scanElement t verify false element) := by
  unfold scanElement
  refine (quiet_count _).bind fun _ => ?_
  refine (Quiet.ask _).bind fun marker => ?_
  split
  · refine (Quiet.ask _).bind fun name => ?_
    exact (quiet_report Severity.noConfusion).bind fun _ => quiet_count _
  · refine (Quiet.ask _).bind fun binaryName => ?_
    exact .forM (scanPair_quiet t verify debug element binaryName) _

theorem scanRound_quiet (index : Nat) :
    Quiet (scanRound t verify debug index) (scanRound t verify false index) :=
  (quiet_log debug _).bind fun _ => .forM (scanElement_quiet t verify debug) _

end Round

end Scanner

/-- The scan of a round without notes and the same one with them: both have the same outcome and
leave the same catalog, and the one without notes reports what the other does apart from these. -/
theorem SymbolTable.scan_quiet (t : SymbolTable) (verify debug : Bool) (index : Nat)
    (c : Catalog) :
    let loud := t.scan verify debug index c
    t.scan verify false index c = (loud.1, loud.2.1, loud.2.2.shown false) := by
  intro loud
  -- nothing is reported before the scan, so both start from the same state
  have hrun := Scanner.scanRound_quiet t verify debug index ⟨c, .zero, []⟩
  have hstart : (ScanState.mk c .zero []).quiet = ⟨c, .zero, []⟩ := rfl
  rw [hstart] at hrun
  rw [scan, hrun]
  rfl

end ServiceCatalog
