import ServiceCatalog.Proofs.MergeOrder
import ServiceCatalog.Proofs.ScanCourse

/-!
# Compilations without errors

A compilation that reports no error has done all that its table asks for: every scan was clean and
the merge succeeded, and so every marked declaration can be found in the resource of each service
that its marker names.

* `of_compile`: what a compilation reports, and when it reports no error;
* `compile_persists`: the summaries and the report tell whether errors were reported, and without
  errors every provider is in the resource of its services.
-/

namespace ServiceCatalog

namespace Session

variable {t : SymbolTable} {o : Options} {s : Session}

/-! ## Rounds -/

/-- A round reports no error exactly when its scan is clean. -/
theorem hasErrors_roundJournal {index : Nat} :
    (roundJournal t o index).hasErrors = false ↔ (Scan.ofRound t o.verify index).Clean := by
  rw [roundJournal, Journal.hasErrors_append, Journal.hasErrors_shown,
    Scan.hasErrors_diagnostics]
  cases hstop : (Scan.ofRound t o.verify index).stop with
  | none =>
    constructor
    · rintro ⟨hfaults, -⟩
      exact ⟨hstop, hfaults⟩
    · intro h
      exact ⟨h.faults, rfl⟩
  | some cause =>
    -- a scan that stopped reports why
    constructor
    · rintro ⟨-, h⟩
      cases h
    · rintro ⟨h, -⟩
      rw [hstop] at h
      cases h

/-- A scan is clean exactly when it has a summary that counts no fault. -/
theorem clean_iff_summary {index : Nat} :
    (Scan.ofRound t o.verify index).Clean ↔
      (roundSummary? t o index).isSome = true ∧ ∀ summary,
        roundSummary? t o index = some summary → summary.missing = 0 ∧ summary.rejected = 0 := by
  unfold roundSummary?
  -- a round has a summary if its scan did not stop
  cases hstop : (Scan.ofRound t o.verify index).stop with
  | some cause =>
    constructor
    · intro h
      exact absurd (hstop.symm.trans h.stop) (Option.some_ne_none cause)
    · rintro ⟨h, -⟩
      exact absurd h Bool.false_ne_true
  | none =>
    constructor
    · rintro ⟨-, hfaults⟩
      refine ⟨rfl, ?_⟩
      intro summary hsummary
      cases hsummary
      exact Scan.summary_eq_zero_iff.mpr hfaults
    · rintro ⟨-, hsummary⟩
      exact ⟨hstop, Scan.summary_eq_zero_iff.mp (hsummary _ rfl)⟩

/-- All scans are clean exactly when each of them has a summary and no summary counts a fault. -/
theorem clean_iff_summaries {indices : List Nat} :
    (∀ index ∈ indices, (Scan.ofRound t o.verify index).Clean) ↔
      (indices.filterMap (roundSummary? t o)).length = indices.length ∧
        ∀ summary ∈ indices.filterMap (roundSummary? t o),
          summary.missing = 0 ∧ summary.rejected = 0 := by
  rw [List.filterMap_length_eq_length, List.forall_mem_filterMap]
  simp only [clean_iff_summary, ← forall₂_and]

/-- A run of scans reports no error exactly when all of them are clean. -/
theorem hasErrors_scanAll {indices : List Nat} :
    (scanAll t s indices).2.hasErrors = false ↔
      ∀ index ∈ indices, (Scan.ofRound t s.options.verify index).Clean := by
  simp only [scanAll_eq, ← hasErrors_roundJournal, Journal.hasErrors_eq_false_iff,
    List.mem_flatMap]
  constructor
  · intro h index hindex d hd
    exact h d ⟨index, hindex, hd⟩
  · rintro h d ⟨index, hindex, hd⟩
    exact h index hindex d hd

/-! ## The last round -/

/-- The first last round merges the catalog: it reports an error exactly when the merge fails. -/
theorem finish_eq (st : MemoryStore) (h : s.finished = false) :
    ∃ journal : Journal, journal.hasErrors = false ∧
      s.finish MemoryStore.store st =
        match s.catalog.mergeInto s.options.debug MemoryStore.store st with
        | ((_, .ok report), st') =>
          (({ s with finished := true, merge := some report }, journal), st')
        | ((_, .error failure), st') =>
          (({ s with finished := true }, journal ++ [.fatal failure]), st') := by
  rcases s.catalog.mergeInto_eq s.options.debug st with ⟨merging, hmerging, heq⟩
  refine ⟨merging, Journal.hasErrors_eq_false_iff.mpr hmerging, ?_⟩
  rw [finish, if_neg (by rw [h]; exact Bool.false_ne_true), bind_apply, heq]
  -- the journal of the merge has no error by itself; only the failure adds one
  cases st.failure? s.catalog.services.entries <;> rfl

end Session

namespace SymbolTable

open Session

variable {t : SymbolTable} {o : Options} {rounds : Nat} {s s' : MemoryStore}
  {report : CompilationReport} {journal : Journal}

/-! ## Compilations -/

/-- What a compilation reports: the summaries and the pairs of all of its rounds, errors unless all
scans were clean and the merge succeeded, and the merge of what was found. -/
theorem of_compile (h : t.compile MemoryStore.store rounds o s = ((report, journal), s')) :
    report.rounds = max rounds 1 ∧
    report.scans = (List.range report.rounds).filterMap (roundSummary? t o) ∧
    (∀ i p, report.catalog.lists i p = true ↔
      ∃ index < report.rounds, (i, p) ∈ (Scan.ofRound t o.verify index).pairs) ∧
    (journal.hasErrors = false ↔ report.merge ≠ none ∧
      ∀ index < report.rounds, (Scan.ofRound t o.verify index).Clean) ∧
    ∀ merged, report.merge = some merged →
      ∃ merging,
        report.catalog.mergeInto o.debug MemoryStore.store s = ((merging, .ok merged), s') := by
  rw [compile_eq] at h
  have hlists : ∀ i p, (scanAll t (.start o) (List.range (max rounds 1))).1.catalog.lists i p =
      true ↔ ∃ index < max rounds 1, (i, p) ∈ (Scan.ofRound t o.verify index).pairs := by
    intro i p
    simp only [lists_scanAll, List.mem_range, start, Catalog.lists_empty, Bool.false_eq_true,
      false_or]
  have herrors : (scanAll t (.start o) (List.range (max rounds 1))).2.hasErrors = false ↔
      ∀ index < max rounds 1, (Scan.ofRound t o.verify index).Clean := by
    simp only [hasErrors_scanAll, List.mem_range, start]
  have hscans : (scanAll t (.start o) (List.range (max rounds 1))).1.scans =
      (List.range (max rounds 1)).filterMap (roundSummary? t o) := by
    simp only [scanAll_eq, start, List.nil_append]
  have hstart : (scanAll t (.start o) (List.range (max rounds 1))).1.finished = false ∧
      (scanAll t (.start o) (List.range (max rounds 1))).1.merge = none ∧
      (scanAll t (.start o) (List.range (max rounds 1))).1.options = o := by
    simp only [scanAll_eq, start, and_self]
  -- from here on only these four facts about the scans matter
  generalize scanAll t (.start o) (List.range (max rounds 1)) = run
    at h hlists herrors hscans hstart
  rcases finish_eq s hstart.1 with ⟨last, hlast, hfinish⟩
  simp only [hfinish, hstart.2.2] at h
  rcases hmerge : run.1.catalog.mergeInto o.debug MemoryStore.store s with
    ⟨⟨merging, failure | merged⟩, st⟩
  · -- the merge failed, and its failure is the last error
    simp only [hmerge] at h
    cases h
    refine ⟨rfl, hscans, hlists, ?_, ?_⟩
    · simp [Journal.hasErrors_append, Journal.hasErrors_fatal, hstart.2.1]
    · intro merged heq
      simp [hstart.2.1] at heq
  · -- the merge succeeded, so the errors are those of the scans
    simp only [hmerge] at h
    cases h
    refine ⟨rfl, hscans, hlists, ?_, ?_⟩
    · simp [Journal.hasErrors_append, hlast, herrors]
    · intro merged heq
      cases heq
      exact ⟨merging, hmerge⟩

/-! ## Main statement -/

/-- The report of a compilation tells whether errors were reported: there are none exactly when
every round has a summary, no summary counts a fault, and the merge succeeded. Without errors, every
marked declaration names a service, and each service that it names was resolved and accepted and has
a resource that can be read and names the declaration. -/
theorem compile_persists
    (h : t.compile MemoryStore.store t.roundCount o s = ((report, journal), s')) :
    (journal.hasErrors = false ↔
      report.scans.length = report.rounds ∧
      (∀ summary ∈ report.scans, summary.missing = 0 ∧ summary.rejected = 0) ∧
      report.merge ≠ none) ∧
    (journal.hasErrors = false → ∀ r < t.roundCount, ∀ e ∈ t.markedIn r,
      ∃ m provider, t.marker e = .ok m ∧ m.services ≠ [] ∧ t.binaryName e = .ok provider ∧
        ∀ p ∈ m.services, ∃ d service content names,
          t.resolve p = .ok d ∧ t.binaryName p = .ok service ∧
          (o.verify = true → t.isSubtype e p = .ok true) ∧
          s'.resources.find? (Service.resourceName service) = some content ∧
          Service.readEntries? content = some names ∧ provider ∈ names) := by
  rcases of_compile h with ⟨hrounds, hscans, hlists, herrors, hmerge⟩
  have hclean : (∀ index < report.rounds, (Scan.ofRound t o.verify index).Clean) ↔
      report.scans.length = report.rounds ∧
        ∀ summary ∈ report.scans, summary.missing = 0 ∧ summary.rejected = 0 := by
    have hsummaries : (∀ index ∈ List.range report.rounds,
        (Scan.ofRound t o.verify index).Clean) ↔ _ := clean_iff_summaries
    simpa only [List.mem_range, List.length_range, ← hscans] using hsummaries
  constructor
  · rw [herrors, hclean, and_comm, and_assoc]
  · intro hnone r hr e he
    rcases herrors.mp hnone with ⟨hmerged, hscan⟩
    -- at least one round is scanned, so a round of the table is one of the report
    have hr' : r < report.rounds := by omega
    rcases Scan.of_clean_ofRound (hscan r hr') he with ⟨m, provider, hm, hne, hprovider, hrefs⟩
    refine ⟨m, provider, hm, hne, hprovider, ?_⟩
    intro p hp
    rcases hrefs p hp with ⟨d, service, hd, hservice, hsubtype, hpair⟩
    -- the merge succeeded, so it has settled the resource of every service of the catalog
    rcases Option.ne_none_iff_exists'.mp hmerged with ⟨merged, hsome⟩
    rcases hmerge merged hsome with ⟨merging, hok⟩
    rcases Catalog.settled_of_mergeInto hok with ⟨hclear, hsettled⟩
    -- the pair was found, so the merge has put the provider into the resource of the service
    have hmem : provider ∈ report.catalog.providersOf service :=
      Catalog.mem_providersOf.mpr ((hlists service provider).mpr ⟨r, hr', hpair⟩)
    have hempty : report.catalog.providersOf service ≠ ∅ := by
      intro heq
      rw [heq] at hmem
      exact NameSet.not_mem_empty provider hmem
    rcases MemoryStore.readEntries?_settled (hclear service hempty) hempty with
      ⟨content, hcontent, hnames⟩
    have hfind : s'.resources.find? (Service.resourceName service) = some content := by
      rw [hsettled.service service, hcontent]
    exact ⟨d, service, content, _, hd, hservice, hsubtype, hfind, hnames,
      NameSet.subset_union_right _ _ provider hmem⟩

/-- A table with a service and one provider of it. -/
def oneProvider : SymbolTable where
  declarations :=
    [⟨⟨"S"⟩, "Greeter", .interfaceType, .topLevel "svc", [], none⟩,
      ⟨⟨"P"⟩, "English", .classType, .topLevel "impl", [⟨"S"⟩], some (.list [.ref ⟨"S"⟩])⟩]
  rounds := none

/-- The only scan of the table registers the provider. The search for supertypes does not reduce in
the kernel, so runs over the table are evaluated from here on. -/
theorem scan_oneProvider :
    Scan.ofRound oneProvider true 0 =
      ⟨[.remark "Round 0: marked declarations [DeclId(\"P\")]",
        .remark "provider interface: svc.Greeter", .remark "provider implementer: impl.English",
        .registered "svc.Greeter" "impl.English"], none⟩ := by cbv

/-- The provider of the table is found in the resource of the service. -/
theorem compile_persists_oneProvider :
    let out := oneProvider.compile MemoryStore.store oneProvider.roundCount ⟨true, true⟩ ∅
    out.1.2.hasErrors = false ∧ out.1.1.scans.length = out.1.1.rounds ∧
      ∃ content names,
        out.2.resources.find? (Service.resourceName "svc.Greeter") = some content ∧
        Service.readEntries? content = some names ∧ "impl.English" ∈ names := by
  intro out
  have hrun : oneProvider.compile MemoryStore.store oneProvider.roundCount ⟨true, true⟩ ∅ =
      ((out.1.1, out.1.2), out.2) := rfl
  rcases compile_persists hrun with ⟨herrors, hpersist⟩
  have hround : List.range (max oneProvider.roundCount 1) = [0] := rfl
  have hnone : out.1.2.hasErrors = false := by
    simp only [out, compile_eq, hround, scanAll_eq, start, List.foldl_cons, List.foldl_nil,
      List.filterMap_cons, List.filterMap_nil, List.flatMap_cons, List.flatMap_nil, roundJournal,
      roundSummary?, scan_oneProvider]
    decide +kernel
  rcases hpersist hnone 0 (by decide) ⟨"P"⟩ (by decide) with
    ⟨m, provider, hm, -, hprovider, hrefs⟩
  -- the marker is known, and by it the service and the names that the result is about
  have hmarker : oneProvider.marker ⟨"P"⟩ = .ok (.list [.ref ⟨"S"⟩]) := rfl
  obtain rfl : Marker.list [.ref ⟨"S"⟩] = m := Except.ok.inj (hmarker.symm.trans hm)
  have hservices : (⟨"S"⟩ : DeclId) ∈ (Marker.list [.ref ⟨"S"⟩]).services := by decide
  rcases hrefs _ hservices with ⟨_, service, content, names, -, hservice, -, hfind, hread, hmem⟩
  have hproviderName : oneProvider.binaryName ⟨"P"⟩ = .ok "impl.English" := by cbv
  have hserviceName : oneProvider.binaryName ⟨"S"⟩ = .ok "svc.Greeter" := by cbv
  obtain rfl : "impl.English" = provider := Except.ok.inj (hproviderName.symm.trans hprovider)
  obtain rfl : "svc.Greeter" = service := Except.ok.inj (hserviceName.symm.trans hservice)
  exact ⟨hnone, (herrors.mp hnone).1, content, names, hfind, hread, hmem⟩

end SymbolTable

end ServiceCatalog
