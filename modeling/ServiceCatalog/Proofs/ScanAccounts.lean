import Mathlib.Algebra.BigOperators.Group.List.Basic
import Mathlib.Algebra.GroupWithZero.Nat
import Mathlib.Data.Finset.Card
import Mathlib.Data.List.Forall2
import ServiceCatalog.Proofs.ScanCourse

/-!
# Accounts of a scan

A scan counts what it finds and reports what it rejects. Both are read off the same findings, and
what is found at a point of its course is known: a declaration is rejected if its marker names
nothing, and a service is either registered or rejected. So the counts in a summary are counts of
the declarations and services of the round, and the errors that are reported are those of the points
that were rejected, one each and in order. A scan that fails has reported the points before the
failure in the same way.

* `Rejects`, `Reports`: which points are rejected, and what an error says about one;
* `reports_ofPoint`, `reports_findings`: the errors at one point, and at all points that are passed;
* `length_errors`, `count_missing`, `count_services`: the counts;
* `scanRound_accounts`: what the summary and the journal of a round say.
-/

namespace ServiceCatalog

namespace SymbolTable

/-- Whether the marker of a declaration has no leaf. -/
def namesNothing (t : SymbolTable) (e : DeclId) : Bool :=
  match t.marker e with
  | .ok m => m.leaves.isEmpty
  | .error _ => false

/-- The number of different types at the leaves of the marker of a declaration. -/
def serviceCount (t : SymbolTable) (e : DeclId) : Nat :=
  match t.marker e with
  | .ok m => m.leaves.toFinset.card
  | .error _ => 0

end SymbolTable

namespace Marker

variable {m : Marker}

theorem length_services : m.services.length = m.leaves.toFinset.card := by
  have hsame : m.services.toFinset = m.leaves.toFinset := by
    ext ref
    rw [List.mem_toFinset, List.mem_toFinset, mem_services]
  rw [← hsame]
  exact (List.toFinset_card_of_nodup m.nodup_services).symm

end Marker

namespace Journal

theorem ofSeverity_append (j k : Journal) (severity : Severity) :
    ofSeverity (j ++ k) severity = j.ofSeverity severity ++ k.ofSeverity severity :=
  List.filter_append ..

/-- Leaving notes out leaves the errors as they are. -/
theorem errors_shown (debug : Bool) (j : Journal) :
    (j.shown debug).ofSeverity .error = j.ofSeverity .error := by
  cases debug with
  | true => rfl
  | false =>
    -- a diagnostic that is an error is kept by both filters, any other by neither
    simp only [shown, ofSeverity, Bool.false_eq_true, if_false, List.filter_filter]
    apply List.filter_congr
    intro d _
    cases d.severity <;> rfl

end Journal

namespace Scan

variable {t : SymbolTable} {verify : Bool} {e : DeclId} {p : Point} {index : Nat}

/-! ## Rejected points -/

/-- Whether a scan rejects what it comes to at a point: a declaration whose marker names nothing, or
a service that is checked and found not to be a supertype. -/
def rejects (t : SymbolTable) (verify : Bool) (p : Point) : Bool :=
  match p.service with
  | none => t.namesNothing p.element
  | some ref =>
    match t.isSubtype p.element ref with
    | .ok answer => verify && !answer
    | .error _ => false

/-- Whether a diagnostic is an error at the marker of the declaration of a point that says why the
point is rejected. -/
structure Reports (t : SymbolTable) (p : Point) (d : Diagnostic) : Prop where
  severity : d.severity = .error
  element : d.element = some p.element
  onMarker : d.onMarker = true
  message : ∃ name, t.qualifiedName p.element = .ok name ∧
    match p.service with
    | none => d.message = (Failure.missingService name).message
    | some ref => ∃ service, t.qualifiedName ref = .ok service ∧
        d.message = (Failure.notImplemented name service).message

/-- At a point that is passed, the errors are one for its rejection or none. -/
theorem reports_ofPoint (verify : Bool) (h : failureAt t p = none) :
    List.Forall₂ (Reports t) ([p].filter (rejects t verify))
      ((ofPoint t verify p).diagnostics.ofSeverity .error) := by
  rcases p with ⟨e, _ | ref⟩
  · obtain ⟨m, provider, name, hm, -, hname, hfound⟩ := ofPoint_element verify h
    have hrejects : rejects t verify ⟨e, none⟩ = m.leaves.isEmpty := by
      simp only [rejects, SymbolTable.namesNothing, hm]
    rw [hfound, List.filter_singleton, hrejects]
    -- a declaration by itself is rejected exactly if it names nothing
    by_cases hnil : m.leaves = []
    · rw [if_pos (Marker.services_eq_nil_iff.mpr hnil), hnil]
      exact .cons ⟨rfl, rfl, rfl, name, hname, rfl⟩ .nil
    · rw [if_neg (Marker.services_eq_nil_iff.not.mpr hnil), List.isEmpty_eq_false_iff.mpr hnil]
      exact .nil
  · obtain ⟨d, provider, name, service, serviceName, answer, -, -, hname, -, hservice, hanswer,
      hfound⟩ := ofPoint_service verify h
    have hrejects : rejects t verify ⟨e, some ref⟩ = (verify && !answer) := by
      simp only [rejects, hanswer]
    rw [hfound, List.filter_singleton, hrejects]
    -- a service is rejected only if the check is made and its answer is no
    by_cases hrejected : verify = true ∧ answer = false
    · obtain ⟨rfl, rfl⟩ := hrejected
      exact .cons ⟨rfl, rfl, rfl, name, hname, serviceName, hservice, rfl⟩ .nil
    · rw [if_neg hrejected]
      have haccepted : (verify && !answer) = false := by
        cases verify <;> cases answer <;> simp_all
      rw [haccepted]
      exact .nil

/-- At points that are passed one after another, the errors are one for each that is rejected, in
order. -/
theorem reports_findings (verify : Bool) {ps : List Point} (h : ∀ p ∈ ps, failureAt t p = none) :
    List.Forall₂ (Reports t) (ps.filter (rejects t verify))
      (Journal.ofSeverity
        ((ps.flatMap fun p => (ofPoint t verify p).findings).filterMap Finding.diagnostic?)
        .error) := by
  induction ps with
  | nil => exact .nil
  | cons p ps ih =>
    rcases List.forall_mem_cons.mp h with ⟨hp, hps⟩
    -- split off the first point on both sides, so that the two lists are related part by part
    rw [← List.singleton_append, List.filter_append, List.flatMap_append, List.flatMap_singleton,
      List.filterMap_append, Journal.ofSeverity_append]
    exact List.rel_append (reports_ofPoint verify hp) (ih hps)

/-! ## Counts -/

/-- As many errors are reported as declarations and pairs are rejected. -/
theorem length_errors (s : Scan) : (s.diagnostics.ofSeverity .error).length =
    s.findings.countP Finding.isMissing + s.findings.countP Finding.isRejected := by
  unfold diagnostics
  induction s.findings with
  | nil => rfl
  | cons f fs ih =>
    rw [← List.singleton_append, List.filterMap_append, Journal.ofSeverity_append,
      List.length_append, ih, List.countP_append, List.countP_append]
    -- each kind of finding is counted once, or is no error
    have hone : (Journal.ofSeverity ([f].filterMap Finding.diagnostic?) .error).length =
        [f].countP Finding.isMissing + [f].countP Finding.isRejected := by
      cases f <;> rfl
    omega

/-- Whether a point is a declaration whose marker names nothing. -/
def isEmptyElement (t : SymbolTable) (p : Point) : Bool :=
  p.service.isNone && t.namesNothing p.element

/-- Declarations by themselves are counted as missing if they name nothing, and each service is
counted once, as registered or as rejected. -/
theorem counts_ofPoint (verify : Bool) (h : failureAt t p = none) :
    (ofPoint t verify p).findings.countP Finding.isMissing = [p].countP (isEmptyElement t) ∧
    (ofPoint t verify p).pairs.length + (ofPoint t verify p).findings.countP Finding.isRejected =
      [p].countP fun p => p.service.isSome := by
  rcases p with ⟨e, _ | ref⟩
  · obtain ⟨m, provider, name, hm, -, -, hfound⟩ := ofPoint_element verify h
    have hempty : isEmptyElement t ⟨e, none⟩ = m.leaves.isEmpty := by
      simp only [isEmptyElement, SymbolTable.namesNothing, hm, Option.isNone_none, Bool.true_and]
    rw [hfound, List.countP_singleton, hempty]
    by_cases hnil : m.leaves = []
    · rw [if_pos (Marker.services_eq_nil_iff.mpr hnil), hnil]
      exact ⟨rfl, rfl⟩
    · rw [if_neg (Marker.services_eq_nil_iff.not.mpr hnil), List.isEmpty_eq_false_iff.mpr hnil]
      exact ⟨rfl, rfl⟩
  · obtain ⟨d, provider, name, service, serviceName, answer, -, -, -, -, -, -, hfound⟩ :=
      ofPoint_service verify h
    rw [hfound]
    split <;> exact ⟨rfl, rfl⟩

theorem counts_findings (verify : Bool) {ps : List Point} (h : ∀ p ∈ ps, failureAt t p = none) :
    let found := ps.flatMap fun p => (ofPoint t verify p).findings
    found.countP Finding.isMissing = ps.countP (isEmptyElement t) ∧
    (found.filterMap Finding.pair?).length + found.countP Finding.isRejected =
      ps.countP fun p => p.service.isSome := by
  intro found
  induction ps with
  | nil => exact ⟨rfl, rfl⟩
  | cons p ps ih =>
    rcases List.forall_mem_cons.mp h with ⟨hp, hps⟩
    obtain ⟨hmissing, hservices⟩ := counts_ofPoint verify hp
    obtain ⟨hmissing', hservices'⟩ := ih hps
    rw [pairs] at hservices
    simp only [found, List.flatMap_cons, List.countP_append, List.filterMap_append,
      List.length_append]
    -- the counts of the first point and of the others add up
    rw [← List.singleton_append, List.countP_append, List.countP_append]
    constructor <;> omega

/-- Of the points at a declaration, the first is counted as missing if it names nothing. -/
theorem count_missing_pointsAt (t : SymbolTable) (e : DeclId) :
    (pointsAt t e).countP (isEmptyElement t) = if t.namesNothing e then 1 else 0 := by
  -- the points after the first are services, which are never counted as missing
  have hservices : ∀ p ∈ (pointsAt t e).tail, ¬ isEmptyElement t p = true := by
    intro p hp
    unfold pointsAt at hp
    cases hm : t.marker e with
    | error cause => simp [hm] at hp
    | ok m =>
      simp only [hm, List.tail_cons, List.mem_map] at hp
      obtain ⟨ref, -, rfl⟩ := hp
      exact Bool.false_ne_true
  have hsplit : pointsAt t e = ⟨e, none⟩ :: (pointsAt t e).tail := rfl
  rw [hsplit, List.countP_cons, List.countP_eq_zero.mpr hservices, Nat.zero_add]
  rfl

/-- Of the points of a round, one is counted as missing for each declaration that names nothing. -/
theorem count_missing (t : SymbolTable) (es : List DeclId) :
    (es.flatMap (pointsAt t)).countP (isEmptyElement t) = es.countP t.namesNothing := by
  induction es with
  | nil => rfl
  | cons e es ih =>
    rw [List.flatMap_cons, List.countP_append, count_missing_pointsAt, ih, List.countP_cons,
      Nat.add_comm]

/-- Of the points at a declaration, one stands for each of the different types that it names. -/
theorem count_services_pointsAt (t : SymbolTable) (e : DeclId) :
    (pointsAt t e).countP (fun p => p.service.isSome) = t.serviceCount e := by
  unfold pointsAt SymbolTable.serviceCount
  cases t.marker e with
  | error cause => rfl
  | ok m =>
    simp only [List.countP_cons, List.countP_map, Function.comp_def, Option.isSome_some,
      Option.isSome_none, ← Marker.length_services]
    simp

theorem count_services (t : SymbolTable) (es : List DeclId) :
    (es.flatMap (pointsAt t)).countP (fun p => p.service.isSome) =
      (es.map t.serviceCount).sum := by
  -- the count of a list of lists is the sum of the counts, declaration by declaration
  rw [List.countP_flatMap]
  congr 1
  apply List.map_congr_left
  intro e _
  exact count_services_pointsAt t e

/-- A scan reports no warnings. -/
theorem severity_diagnostics (s : Scan) {d : Diagnostic} (hd : d ∈ s.diagnostics) :
    d.severity ≠ .warning := by
  obtain ⟨f, -, hf⟩ := List.mem_filterMap.mp hd
  cases f <;> cases hf <;> exact Severity.noConfusion

end Scan

/-! ## Main statement -/

/-- If the scan of a round ends with a summary, then the summary counts the marked declarations of
the round, those of them that name nothing, and, as registered or rejected, the different types that
they name; and as many errors are reported as were counted as missing or rejected. Whether it ends
with a summary or fails, exactly one error is reported for each point that was passed and rejected,
in the order of the scan and at the marker of the declaration that it is about, and no warning. A
session keeps the summary, and reports the failure if there is one; nothing of this depends on what
it has found before. -/
theorem Session.scanRound_accounts (t : SymbolTable) (s : Session) (index : Nat) :
    let scan := t.scan s.options.verify s.options.debug index s.catalog
    let marked := t.markedIn index
    let reported := scan.2.2
    let errors := reported.ofSeverity .error
    let found := { s with catalog := scan.2.1 }
    (∀ summary, scan.1 = .ok summary →
      s.scanRound t index = ({ found with scans := s.scans ++ [summary] }, reported) ∧
      summary.declarations = marked.length ∧
      summary.missing = marked.countP t.namesNothing ∧
      summary.registered + summary.rejected = (marked.map t.serviceCount).sum ∧
      errors.length = summary.missing + summary.rejected ∧
      List.Forall₂ (Scan.Reports t)
        ((Scan.course t index).filter (Scan.rejects t s.options.verify)) errors) ∧
    (∀ cause, scan.1 = .error cause →
      s.scanRound t index = (found, reported ++ [.fatal (.symbol cause)])) ∧
    List.Forall₂ (Scan.Reports t)
      ((Scan.passed t index).filter (Scan.rejects t s.options.verify)) errors ∧
    ∀ d ∈ reported, d.severity ≠ .warning := by
  intro scan marked reported errors found
  let account := Scan.ofRound t s.options.verify index
  have hreported : reported = account.diagnostics.shown s.options.debug := by
    simp only [reported, scan, SymbolTable.scan_eq, account]
  have hpassed : ∀ p ∈ Scan.passed t index, Scan.failureAt t p = none :=
    fun p hp => Scan.failureAt_of_passed hp
  have herrors : errors = account.diagnostics.ofSeverity .error := by
    rw [← Journal.errors_shown s.options.debug, ← hreported]
  have hreports : List.Forall₂ (Scan.Reports t)
      ((Scan.passed t index).filter (Scan.rejects t s.options.verify)) errors := by
    -- the opening remark is no error
    rw [herrors, Scan.diagnostics, Scan.findings_ofRound]
    exact Scan.reports_findings s.options.verify hpassed
  refine ⟨?_, ?_, hreports, ?_⟩
  · intro summary hok
    -- the counts that the scan has kept are those of its findings
    obtain ⟨hstop, hsummary⟩ := SymbolTable.scan_eq_ok_iff.mp hok
    have hall : Scan.passed t index = Scan.course t index := Scan.passed_eq_course hstop
    obtain ⟨hmissing, hservices⟩ := Scan.counts_findings s.options.verify hpassed
    rw [hall, Scan.course] at hmissing hservices
    rw [Scan.count_missing] at hmissing
    rw [Scan.count_services] at hservices
    have hfindings := Scan.findings_ofRound t s.options.verify index
    rw [hall, Scan.course] at hfindings
    refine ⟨?_, ?_, ?_, ?_, ?_, hall ▸ hreports⟩
    · simp only [scanRound, scan, reported, found] at hok ⊢
      rw [hok]
    · rw [hsummary]
      rfl
    · rw [hsummary, Scan.summary, hfindings]
      exact hmissing
    · rw [hsummary, Scan.summary, Scan.pairs, hfindings]
      exact hservices
    · rw [herrors, Scan.length_errors, hsummary]
      rfl
  · intro cause herror
    simp only [scanRound, scan, reported, found] at herror ⊢
    rw [herror]
  · intro d hd
    have hmem : d ∈ account.diagnostics := by
      simp only [hreported, Journal.shown] at hd
      split at hd
      · exact hd
      · exact (List.mem_filter.mp hd).1
    exact account.severity_diagnostics hmem

/-- A table with a provider that names two types, one of them twice, and implements one of them, and
with a declaration that names nothing. -/
def mixedTable : SymbolTable where
  declarations :=
    [⟨⟨"S"⟩, "Greeter", .interfaceType, .topLevel "svc", [], none⟩,
      ⟨⟨"T"⟩, "Closer", .interfaceType, .topLevel "svc", [], none⟩,
      ⟨⟨"P"⟩, "English", .classType, .topLevel "impl", [⟨"S"⟩],
        some (.list [.ref ⟨"S"⟩, .list [.ref ⟨"T"⟩, .ref ⟨"S"⟩]])⟩,
      ⟨⟨"N"⟩, "Nothing", .classType, .topLevel "impl", [], some (.list [.list []])⟩]
  rounds := none

/-- In the scan of this table one type is registered and one rejected, one declaration is missing
its services, and two errors are reported. -/
theorem Session.scanRound_accounts_mixed :
    (mixedTable.scan true false 0 ∅).1 = .ok ⟨2, 1, 1, 1⟩ ∧
    (mixedTable.markedIn 0).countP mixedTable.namesNothing = 1 ∧
    ((mixedTable.markedIn 0).map mixedTable.serviceCount).sum = 2 ∧
    ((Session.start ⟨true, false⟩).scanRound mixedTable 0).2.errorCount = 2 := by
  -- the findings are evaluated, not the catalog that the pairs go to
  have hfound : (Scan.ofRound mixedTable true 0).outcome (mixedTable.markedIn 0).length =
      .ok ⟨2, 1, 1, 1⟩ := by cbv
  have hrun : (mixedTable.scan true false 0 ∅).1 = .ok ⟨2, 1, 1, 1⟩ := by
    rw [SymbolTable.scan_eq]
    exact hfound
  obtain ⟨hok, -, -, -⟩ := scanRound_accounts mixedTable (.start ⟨true, false⟩) 0
  obtain ⟨hjournal, -, hmissing, hservices, herrors, -⟩ := hok ⟨2, 1, 1, 1⟩ hrun
  refine ⟨hrun, hmissing.symm, hservices.symm, ?_⟩
  rw [hjournal]
  exact herrors

end ServiceCatalog
