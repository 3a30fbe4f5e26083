import ServiceCatalog.Proofs.ServiceMerge

/-!
# Merging a catalog into a store in memory

A merge goes through the services of a catalog in their order. Since different services have
different resources, what it finds for a service is what was there before the merge, and so the
outcome can be read off the store at the start.

* `mergeServices_eq`: the result and the store after merging a list of services;
* `mergeInto_ok_union`: after a merge that succeeds, every resource of a service names the union of
  what it named before and the providers of the catalog, and nothing else has changed;
* `mergeInto_error_blocked`: a merge fails exactly when a service is blocked, and then the least
  blocked service, those after it and all other resources are left as they were.
-/

namespace ServiceCatalog

namespace MemoryStore

/-! ## The outcome, read off the store at the start -/

/-- The failure of the first service that is blocked. -/
def failure? (s : MemoryStore) (es : List (String × NameSet)) : Option Failure :=
  es.findSome? fun e =>
    (s.obstacle? e.1 e.2).map fun cause => .unwritable (Service.resourceName e.1) cause

/-- The services before the first one that is blocked. -/
def clear (s : MemoryStore) (es : List (String × NameSet)) : List (String × NameSet) :=
  es.takeWhile fun e => s.obstacle? e.1 e.2 = none

/-- The services that have something to write, and those that have not. -/
def reportOn (s : MemoryStore) (es : List (String × NameSet)) : MergeReport where
  written := (es.filter fun e => ¬ e.2 ⊆ s.listed e.1).map Prod.fst
  unchanged := (es.filter fun e => e.2 ⊆ s.listed e.1).map Prod.fst

/-- The store after services were merged one after another. -/
def settleAll (s : MemoryStore) (es : List (String × NameSet)) : MemoryStore :=
  es.foldl (fun s e => s.settle e.1 e.2) s

/-! ## Stores that agree on the resources of services -/

section Agree

variable {s t : MemoryStore} {es : List (String × NameSet)}

theorem failure?_congr (h : ∀ e ∈ es, s.AgreeOn t (Service.resourceName e.1)) :
    s.failure? es = t.failure? es := by
  induction es with
  | nil => rfl
  | cons e es ih =>
    rcases List.forall_mem_cons.mp h with ⟨he, hes⟩
    simp only [failure?, List.findSome?_cons, he.obstacle?]
    rw [← failure?, ← failure?, ih hes]

theorem clear_congr (h : ∀ e ∈ es, s.AgreeOn t (Service.resourceName e.1)) :
    s.clear es = t.clear es := by
  induction es with
  | nil => rfl
  | cons e es ih =>
    rcases List.forall_mem_cons.mp h with ⟨he, hes⟩
    simp only [clear, List.takeWhile_cons, he.obstacle?]
    rw [← clear, ← clear, ih hes]

theorem reportOn_congr (h : ∀ e ∈ es, s.AgreeOn t (Service.resourceName e.1)) :
    s.reportOn es = t.reportOn es := by
  -- both stores hold the same names for each service, and the report looks at nothing else
  have hlisted : ∀ e ∈ es, s.listed e.1 = t.listed e.1 := by
    intro e he
    exact (h e he).listed
  unfold reportOn
  congr 2
  · apply List.filter_congr
    intro e he
    rw [hlisted e he]
  · apply List.filter_congr
    intro e he
    rw [hlisted e he]

end Agree

/-- After one service was merged, the store agrees with the one before on all others. -/
theorem agreeOn_settle_of_nodup {s : MemoryStore} {e : String × NameSet}
    {es : List (String × NameSet)} (h : ((e :: es).map Prod.fst).Nodup) :
    ∀ d ∈ es, (s.settle e.1 e.2).AgreeOn s (Service.resourceName d.1) := by
  intro d hd
  rw [List.map_cons, List.nodup_cons] at h
  apply agreeOn_settle
  intro hname
  apply h.1
  rw [← Service.resourceName_inj.mp hname]
  exact List.mem_map_of_mem hd

/-! ## What a run of services leaves -/

section Run

variable {s : MemoryStore} {es : List (String × NameSet)}

theorem refusedReads_settleAll (s : MemoryStore) (es : List (String × NameSet)) :
    (s.settleAll es).refusedReads = s.refusedReads := by
  induction es generalizing s with
  | nil => rfl
  | cons e es ih => exact (ih (s.settle e.1 e.2)).trans (refusedReads_settle s e.1 e.2)

theorem refusedWrites_settleAll (s : MemoryStore) (es : List (String × NameSet)) :
    (s.settleAll es).refusedWrites = s.refusedWrites := by
  induction es generalizing s with
  | nil => rfl
  | cons e es ih => exact (ih (s.settle e.1 e.2)).trans (refusedWrites_settle s e.1 e.2)

/-- Resources of no service in the run stay as they are. -/
theorem find?_settleAll_of_ne {name : String}
    (h : ∀ e ∈ es, name ≠ Service.resourceName e.1) :
    (s.settleAll es).resources.find? name = s.resources.find? name := by
  -- the induction is on the services; the first one is settled before the rest is merged
  induction es generalizing s with
  | nil => rfl
  | cons e es ih =>
    rcases List.forall_mem_cons.mp h with ⟨he, hes⟩
    calc ((s.settle e.1 e.2).settleAll es).resources.find? name
        = (s.settle e.1 e.2).resources.find? name := ih hes
      _ = s.resources.find? name := by rw [find?_settle, if_neg he]

/-- The resource of each service in the run ends settled. -/
theorem find?_settleAll_of_mem (hes : (es.map Prod.fst).Nodup) {i : String} {ps : NameSet}
    (h : (i, ps) ∈ es) :
    (s.settleAll es).resources.find? (Service.resourceName i) = s.settled i ps := by
  induction es generalizing s with
  | nil => exact absurd h List.not_mem_nil
  | cons e es ih =>
    -- the services have different names, so settling the first one leaves what the others find
    have hagree := agreeOn_settle_of_nodup (s := s) hes
    rw [List.map_cons, List.nodup_cons] at hes
    rcases List.mem_cons.mp h with rfl | hmem
    · -- the services after it do not touch its resource
      have hrest : ∀ d ∈ es, Service.resourceName i ≠ Service.resourceName d.1 := by
        intro d hd hname
        exact hes.1 (List.mem_map.mpr ⟨d, hd, (Service.resourceName_inj.mp hname).symm⟩)
      calc ((s.settle i ps).settleAll es).resources.find? (Service.resourceName i)
          = (s.settle i ps).resources.find? (Service.resourceName i) :=
            find?_settleAll_of_ne hrest
        _ = s.settled i ps := by rw [find?_settle, if_pos rfl]
    · calc ((s.settle e.1 e.2).settleAll es).resources.find? (Service.resourceName i)
          = (s.settle e.1 e.2).settled i ps := ih hes.2 hmem
        _ = s.settled i ps := (hagree _ hmem).settled ps

theorem writeCount_settleAll (hes : (es.map Prod.fst).Nodup) :
    (s.settleAll es).writeCount = s.writeCount + (s.reportOn es).written.length := by
  induction es generalizing s with
  | nil => rfl
  | cons e es ih =>
    have hagree := agreeOn_settle_of_nodup (s := s) hes
    rw [List.map_cons, List.nodup_cons] at hes
    have hrest : ((s.settle e.1 e.2).settleAll es).writeCount =
        (s.settle e.1 e.2).writeCount + (s.reportOn es).written.length := by
      rw [ih hes.2, reportOn_congr hagree]
    -- the first service is counted if it has something to write
    have hhead : (s.reportOn (e :: es)).written.length =
        (if e.2 ⊆ s.listed e.1 then 0 else 1) + (s.reportOn es).written.length := by
      simp only [reportOn, List.length_map, List.filter_cons]
      by_cases hold : e.2 ⊆ s.listed e.1
      · simp [hold]
      · simp only [hold, not_false_eq_true, decide_true, if_true, List.length_cons, if_false]
        omega
    rw [hhead, ← Nat.add_assoc, ← writeCount_settle]
    exact hrest

/-! ## The report of a run -/

theorem mem_written_iff {i : String} :
    i ∈ (s.reportOn es).written ↔ ∃ ps, (i, ps) ∈ es ∧ ¬ ps ⊆ s.listed i := by
  simp [reportOn]

theorem mem_unchanged_iff {i : String} :
    i ∈ (s.reportOn es).unchanged ↔ ∃ ps, (i, ps) ∈ es ∧ ps ⊆ s.listed i := by
  simp [reportOn]

theorem pairwise_filter_names (p : String × NameSet → Bool)
    (hes : (es.map Prod.fst).Pairwise (· < ·)) :
    ((es.filter p).map Prod.fst).Pairwise (· < ·) :=
  hes.sublist (List.filter_sublist.map Prod.fst)

/-- Only the resources that the report calls written change. -/
theorem find?_settleAll_of_not_written (hes : (es.map Prod.fst).Nodup) {name : String}
    (h : ∀ i ∈ (s.reportOn es).written, name ≠ Service.resourceName i) :
    (s.settleAll es).resources.find? name = s.resources.find? name := by
  by_cases hname : ∃ e ∈ es, name = Service.resourceName e.1
  · rcases hname with ⟨⟨i, ps⟩, hmem, rfl⟩
    -- the service has nothing to write, for else the report would call it written
    have hold : ps ⊆ s.listed i := by
      by_contra hnew
      exact h i (mem_written_iff.mpr ⟨ps, hmem, hnew⟩) rfl
    rw [find?_settleAll_of_mem hes hmem, settled, if_pos hold]
  · apply find?_settleAll_of_ne
    intro e he heq
    exact hname ⟨e, he, heq⟩

end Run

end MemoryStore

namespace Merge

open MemoryStore

/-! ## The run itself -/

/-- Merging a list of services into a store in memory: the first obstacle ends the run with the
services before it merged, and without one all of them are. No error is reported on the way. -/
theorem mergeServices_eq {es : List (String × NameSet)} (hes : (es.map Prod.fst).Nodup)
    (debug : Bool) (s : MemoryStore) :
    ∃ journal : Journal, (∀ d ∈ journal, d.severity ≠ .error) ∧
      mergeServices debug MemoryStore.store es s =
        ((journal, match s.failure? es with
          | some failure => .error failure
          | none => .ok (s.reportOn es)), s.settleAll (s.clear es)) := by
  -- the induction is on the services; each step starts from the store that the step before left
  induction es generalizing s with
  | nil => exact ⟨[], by simp, rfl⟩
  | cons e es ih =>
    rcases e with ⟨i, ps⟩
    have hagree := agreeOn_settle_of_nodup (s := s) hes
    rw [List.map_cons, List.nodup_cons] at hes
    rcases mergeService_eq debug s i ps with ⟨journal, hjournal, hstep⟩
    rcases ih hes.2 (s.settle i ps) with ⟨later, hlater, hrest⟩
    rw [mergeServices, bind_apply, hstep]
    cases hobstacle : s.obstacle? i ps with
    | some cause =>
      -- the first service has an obstacle: nothing is settled, and the rest is not reached
      refine ⟨journal, hjournal, ?_⟩
      have hfailure : s.failure? ((i, ps) :: es) =
          some (.unwritable (Service.resourceName i) cause) := by
        simp only [failure?, List.findSome?_cons, hobstacle, Option.map_some]
      have hclear : s.clear ((i, ps) :: es) = [] := by
        simp only [clear, List.takeWhile_cons, hobstacle, reduceCtorEq, decide_false,
          Bool.false_eq_true, if_false]
      rw [hfailure, hclear]
      rfl
    | none =>
      -- without one it is settled, and the failure and the report are those of the rest
      refine ⟨journal ++ later, ?_, ?_⟩
      · intro d hd
        rcases List.mem_append.mp hd with hd | hd
        · exact hjournal d hd
        · exact hlater d hd
      have hfailure : s.failure? ((i, ps) :: es) = s.failure? es := by
        simp only [failure?, List.findSome?_cons, hobstacle, Option.map_none]
      have hclear : s.clear ((i, ps) :: es) = (i, ps) :: s.clear es := by
        simp only [clear, List.takeWhile_cons, hobstacle, decide_true, if_true]
      have hreport : s.reportOn ((i, ps) :: es) =
          (s.change i ps).record i (s.reportOn es) := by
        by_cases hold : ps ⊆ s.listed i
        · simp [reportOn, change, Change.record, hold]
        · simp [reportOn, change, Change.record, hold]
      -- what the rest of the run finds is what was there at the start
      rw [failure?_congr hagree, reportOn_congr hagree, clear_congr hagree] at hrest
      simp only [bind_apply, hrest, hfailure, hclear, hreport]
      cases s.failure? es <;> rfl

end Merge

namespace MemoryStore

variable {s : MemoryStore} {es : List (String × NameSet)}

theorem failure?_eq_none_iff :
    s.failure? es = none ↔ ∀ e ∈ es, ¬ s.Blocked e.1 e.2 := by
  simp only [failure?, List.findSome?_eq_none_iff, Option.map_eq_none_iff, obstacle?_eq_none_iff]

theorem clear_eq_self (h : ∀ e ∈ es, ¬ s.Blocked e.1 e.2) : s.clear es = es := by
  rw [clear, List.takeWhile_eq_self_iff]
  intro e he
  exact decide_eq_true (obstacle?_eq_none_iff.mpr (h e he))

/-- A failure is that of the first service that is blocked. -/
theorem split_of_failure? {failure : Failure} (h : s.failure? es = some failure) :
    ∃ k ps after cause, es = s.clear es ++ (k, ps) :: after ∧
      failure = .unwritable (Service.resourceName k) cause ∧ s.Blocked k ps ∧
        ∀ e ∈ s.clear es, ¬ s.Blocked e.1 e.2 := by
  rcases List.findSome?_eq_some_iff.mp h with ⟨before, ⟨k, ps⟩, after, rfl, hk, hbefore⟩
  rcases Option.map_eq_some_iff.mp hk with ⟨cause, hcause, rfl⟩
  have hnone : ∀ e ∈ before, s.obstacle? e.1 e.2 = none := by
    intro e he
    exact Option.map_eq_none_iff.mp (hbefore e he)
  -- the services before the failure are exactly those that the run gets through
  have hclear : s.clear (before ++ (k, ps) :: after) = before := by
    rw [clear, List.takeWhile_append_of_pos (fun e he => decide_eq_true (hnone e he)),
      List.takeWhile_cons, hcause]
    simp
  have hblocked : s.Blocked k ps := by
    rw [blocked_iff, hcause]
    exact Option.some_ne_none cause
  rw [hclear]
  refine ⟨k, ps, after, cause, rfl, rfl, hblocked, ?_⟩
  intro e he
  exact obstacle?_eq_none_iff.mp (hnone e he)

end MemoryStore

namespace Catalog

open MemoryStore

/-- Merging a catalog into a store in memory, without the requests that it makes. -/
theorem mergeInto_eq (c : Catalog) (debug : Bool) (s : MemoryStore) :
    ∃ journal : Journal, (∀ d ∈ journal, d.severity ≠ .error) ∧
      c.mergeInto debug MemoryStore.store s =
        ((journal, match s.failure? c.services.entries with
          | some failure => .error failure
          | none => .ok (s.reportOn c.services.entries)),
          s.settleAll (s.clear c.services.entries)) :=
  Merge.mergeServices_eq c.names_nodup debug s

/-- A merge that succeeds: no service was blocked, and all of them were merged. -/
theorem of_mergeInto_ok {c : Catalog} {debug : Bool} {s s' : MemoryStore} {journal : Journal}
    {report : MergeReport}
    (h : c.mergeInto debug MemoryStore.store s = ((journal, .ok report), s')) :
    (∀ i ps, c.providers? i = some ps → ¬ s.Blocked i ps) ∧
      report = s.reportOn c.services.entries ∧ s' = s.settleAll c.services.entries ∧
        ∀ d ∈ journal, d.severity ≠ .error := by
  rcases c.mergeInto_eq debug s with ⟨j, hj, heq⟩
  rw [heq] at h
  -- either way a merge ends is decided by the search for a failure; this end leaves one of them
  cases hfailure : s.failure? c.services.entries with
  | some failure =>
    rw [hfailure] at h
    cases h
  | none =>
    rw [hfailure] at h
    cases h
    have hclear := failure?_eq_none_iff.mp hfailure
    refine ⟨?_, rfl, ?_, hj⟩
    · intro i ps hps
      exact hclear (i, ps) (mem_entries_iff.mpr hps)
    · rw [clear_eq_self hclear]

/-- A merge that fails: some service is the first that was blocked, and those before it were
merged. -/
theorem of_mergeInto_error {c : Catalog} {debug : Bool} {s s' : MemoryStore} {journal : Journal}
    {failure : Failure}
    (h : c.mergeInto debug MemoryStore.store s = ((journal, .error failure), s')) :
    ∃ before k ps after cause, c.services.entries = before ++ (k, ps) :: after ∧
      failure = .unwritable (Service.resourceName k) cause ∧ s.Blocked k ps ∧
        (∀ e ∈ before, ¬ s.Blocked e.1 e.2) ∧ s' = s.settleAll before := by
  rcases c.mergeInto_eq debug s with ⟨j, -, heq⟩
  rw [heq] at h
  cases hfailure : s.failure? c.services.entries with
  | none =>
    rw [hfailure] at h
    cases h
  | some f =>
    rw [hfailure] at h
    cases h
    rcases split_of_failure? hfailure with ⟨k, ps, after, cause, hsplit, hf, hblocked, hbefore⟩
    exact ⟨_, k, ps, after, cause, hsplit, hf, hblocked, hbefore, rfl⟩

/-! ## Merges that succeed -/

/-- A merge that succeeds makes the resource of every service name the union of what it named and
the providers of the catalog. It writes the resources that did not name all of these, one name a
line in increasing order, and nothing else. -/
theorem mergeInto_ok_union {c : Catalog} {debug : Bool} {s s' : MemoryStore} {journal : Journal}
    {report : MergeReport}
    (h : c.mergeInto debug MemoryStore.store s = ((journal, .ok report), s')) :
    report.written.Pairwise (· < ·) ∧ report.unchanged.Pairwise (· < ·) ∧
    (∀ i, i ∈ report.written ↔ ∃ ps, c.providers? i = some ps ∧ ¬ ps ⊆ s.listed i) ∧
    (∀ i, i ∈ report.unchanged ↔ ∃ ps, c.providers? i = some ps ∧ ps ⊆ s.listed i) ∧
    (∀ i ∈ report.written, ∃ content,
      s'.resources.find? (Service.resourceName i) = some content ∧
      content = (s.listed i ∪ c.providersOf i).toList.flatMap
        (fun n => Utf8.encode n ++ [Service.lineFeed]) ∧
      Service.readEntries? content = some (s.listed i ∪ c.providersOf i)) ∧
    (∀ name, (∀ i ∈ report.written, name ≠ Service.resourceName i) →
      s'.resources.find? name = s.resources.find? name) ∧
    (∀ name, s.resources.find? name ≠ none → s'.resources.find? name ≠ none) ∧
    s'.writeCount = s.writeCount + report.written.length ∧
    s'.refusedReads = s.refusedReads ∧ s'.refusedWrites = s.refusedWrites := by
  rcases of_mergeInto_ok h with ⟨hclear, rfl, rfl, -⟩
  have hother : ∀ name, (∀ i ∈ (s.reportOn c.services.entries).written,
      name ≠ Service.resourceName i) →
      (s.settleAll c.services.entries).resources.find? name = s.resources.find? name := by
    intro name hname
    exact find?_settleAll_of_not_written c.names_nodup hname
  have hcontent : ∀ i ∈ (s.reportOn c.services.entries).written, ∃ content,
      (s.settleAll c.services.entries).resources.find? (Service.resourceName i) =
        some content ∧
      content = Service.writeLines (s.listed i ∪ c.providersOf i).toList ∧
      Service.readEntries? content = some (s.listed i ∪ c.providersOf i) := by
    intro i hi
    rcases mem_written_iff.mp hi with ⟨ps, hmem, hnew⟩
    have hps : c.providers? i = some ps := mem_entries_iff.mp hmem
    -- the service is clear although it has something to write, so all names of the union are fit
    have hentries := isEntry_of_not_blocked (hclear i ps hps) hnew
    refine ⟨_, ?_, rfl, ?_⟩
    · rw [find?_settleAll_of_mem c.names_nodup hmem, settled, if_neg hnew, providersOf_eq hps]
    · rw [providersOf_eq hps]
      exact Service.readEntries?_writeLines hentries
  have hkept : ∀ name, s.resources.find? name ≠ none →
      (s.settleAll c.services.entries).resources.find? name ≠ none := by
    intro name hname
    -- a resource that is not left alone was written, so it exists
    by_cases hwritten : ∃ i ∈ (s.reportOn c.services.entries).written,
        name = Service.resourceName i
    · rcases hwritten with ⟨i, hi, rfl⟩
      rcases hcontent i hi with ⟨content, hfind, -⟩
      rw [hfind]
      exact Option.some_ne_none content
    · rwa [hother name fun i hi heq => hwritten ⟨i, hi, heq⟩]
  refine ⟨pairwise_filter_names _ c.services.sorted, pairwise_filter_names _ c.services.sorted,
    ?_, ?_, hcontent, hother, hkept, writeCount_settleAll c.names_nodup,
    refusedReads_settleAll s _, refusedWrites_settleAll s _⟩
  · intro i
    simp only [mem_written_iff, mem_entries_iff]
  · intro i
    simp only [mem_unchanged_iff, mem_entries_iff]

/-- A resource that lacks a provider is rewritten without its comment, and one that names all
providers keeps its comment. -/
theorem mergeInto_ok_union_mixed :
    let c := Catalog.ofPairs [("a", "p"), ("b", "q")]
    let s := ((∅ : MemoryStore).put "META-INF/services/a" (Utf8.encode "z # old\n")).put
      "META-INF/services/b" (Utf8.encode "# kept\nq")
    ∃ journal s', c.mergeInto true MemoryStore.store s = ((journal, .ok ⟨["a"], ["b"]⟩), s') ∧
      (∃ content, s'.resources.find? (Service.resourceName "a") = some content ∧
        Service.readEntries? content = some (NameSet.ofList ["p", "z"])) ∧
      s'.resources.find? (Service.resourceName "b") = some (Utf8.encode "# kept\nq") ∧
      s'.writeCount = 1 := by
  intro c s
  rcases @mergeInto_ok_union c true s _ _ ⟨["a"], ["b"]⟩ rfl with
    ⟨-, -, -, -, hwritten, hother, -, hcount, -⟩
  rcases hwritten "a" List.mem_cons_self with ⟨content, hfind, -, hread⟩
  have hkept : ∀ i ∈ ["a"], Service.resourceName "b" ≠ Service.resourceName i := by decide
  exact ⟨_, _, rfl, ⟨content, hfind, hread⟩, hother _ hkept, hcount⟩

/-! ## Merges that fail -/

/-- The first service of a catalog that is blocked. -/
def LeastBlocked (c : Catalog) (s : MemoryStore) (k : String) : Prop :=
  (∃ ps, c.providers? k = some ps ∧ s.Blocked k ps) ∧
    ∀ i ps, c.providers? i = some ps → s.Blocked i ps → k ≤ i

/-- Any service that stands in the list of a catalog is listed. -/
theorem providers?_of_split {c : Catalog} {before after : List (String × NameSet)} {k : String}
    {ps : NameSet} (h : c.services.entries = before ++ (k, ps) :: after) :
    c.providers? k = some ps := by
  rw [← mem_entries_iff, h]
  exact List.mem_append_right _ List.mem_cons_self

/-- A merge succeeds exactly if no service is blocked. -/
theorem mergeInto_ok_iff {c : Catalog} {debug : Bool} {s : MemoryStore} :
    (∃ journal report s', c.mergeInto debug MemoryStore.store s = ((journal, .ok report), s')) ↔
      ∀ i ps, c.providers? i = some ps → ¬ s.Blocked i ps := by
  constructor
  · rintro ⟨journal, report, s', h⟩
    exact (of_mergeInto_ok h).1
  · intro hclear
    rcases h : c.mergeInto debug MemoryStore.store s with ⟨⟨journal, failure | report⟩, s'⟩
    · obtain ⟨before, k, ps, after, cause, hsplit, -, hblocked, -⟩ := of_mergeInto_error h
      exact absurd hblocked (hclear k ps (providers?_of_split hsplit))
    · exact ⟨journal, report, s', rfl⟩

/-- The services of a catalog before one of them, and those after it. -/
theorem lt_of_split {c : Catalog} {before after : List (String × NameSet)} {k : String}
    {ps : NameSet} (h : c.services.entries = before ++ (k, ps) :: after) :
    (∀ e ∈ before, e.1 < k) ∧ ∀ e ∈ after, k < e.1 := by
  have hsorted := List.pairwise_map.mp c.services.sorted
  rw [h, List.pairwise_append, List.pairwise_cons] at hsorted
  rcases hsorted with ⟨-, ⟨hafter, -⟩, hbefore⟩
  refine ⟨?_, hafter⟩
  intro e he
  exact hbefore e he (k, ps) List.mem_cons_self

/-- A service of a catalog that comes before another one stands before it. -/
theorem mem_before_iff {c : Catalog} {before after : List (String × NameSet)} {k : String}
    {ps : NameSet} (h : c.services.entries = before ++ (k, ps) :: after) {i : String}
    {qs : NameSet} : (i, qs) ∈ before ↔ i < k ∧ c.providers? i = some qs := by
  rcases lt_of_split h with ⟨hbefore, hafter⟩
  -- the list is the services before, the service itself and those after; the order tells which
  rw [← mem_entries_iff, h, List.mem_append, List.mem_cons]
  constructor
  · intro hmem
    exact ⟨hbefore _ hmem, .inl hmem⟩
  · rintro ⟨hik, hmem | heq | hmem⟩
    · exact hmem
    · cases heq
      exact absurd hik (String.lt_irrefl k)
    · exact absurd (hafter _ hmem) (String.lt_asymm hik)

/-- What the report on the services before another one calls written. -/
theorem written_before {c : Catalog} {s : MemoryStore} {before after : List (String × NameSet)}
    {k : String} {ps : NameSet} (h : c.services.entries = before ++ (k, ps) :: after) :
    (s.reportOn before).written =
      c.serviceNames.filter fun i => i < k ∧ ¬ c.providersOf i ⊆ s.listed i := by
  have hnames : c.serviceNames.Pairwise (· < ·) := c.services.sorted
  -- both lists are sorted, so the same members make them equal
  have hsorted : (before.map Prod.fst).Pairwise (· < ·) := by
    have hall := c.services.sorted
    rw [h, List.map_append] at hall
    exact (List.pairwise_append.mp hall).1
  refine eq_of_pairwise String.lt_asymm (pairwise_filter_names _ hsorted) (hnames.filter _) ?_
  intro i
  rw [mem_written_iff, List.mem_filter, mem_serviceNames_iff, decide_eq_true_eq]
  constructor
  · rintro ⟨qs, hqs, hnew⟩
    rcases (mem_before_iff h).mp hqs with ⟨hik, hi⟩
    exact ⟨⟨qs, hi⟩, hik, by rwa [providersOf_eq hi]⟩
  · rintro ⟨⟨qs, hi⟩, hik, hnew⟩
    exact ⟨qs, (mem_before_iff h).mpr ⟨hik, hi⟩, by rwa [← providersOf_eq hi]⟩

/-- A merge fails exactly when some service is blocked. Then the failure is that of the least
blocked service. The services before it are merged as they would be by a merge that succeeds; its
own resource, those of the services after it and all other resources stay as they were. -/
theorem mergeInto_error_blocked (c : Catalog) (debug : Bool) (s : MemoryStore) :
    ((∃ journal failure s',
      c.mergeInto debug MemoryStore.store s = ((journal, .error failure), s')) ↔
      ∃ i ps, c.providers? i = some ps ∧ s.Blocked i ps) ∧
    ∀ journal failure s',
      c.mergeInto debug MemoryStore.store s = ((journal, .error failure), s') →
      ∃ k cause, c.LeastBlocked s k ∧
        failure = .unwritable (Service.resourceName k) cause ∧
        (∀ i ps, i < k → c.providers? i = some ps →
          s'.resources.find? (Service.resourceName i) = s.settled i ps) ∧
        (∀ i, k ≤ i → s'.resources.find? (Service.resourceName i) =
          s.resources.find? (Service.resourceName i)) ∧
        (∀ name, (∀ i, i < k → c.providersOf i ≠ ∅ → name ≠ Service.resourceName i) →
          s'.resources.find? name = s.resources.find? name) ∧
        s'.writeCount = s.writeCount +
          (c.serviceNames.filter fun i => i < k ∧ ¬ c.providersOf i ⊆ s.listed i).length ∧
        s'.refusedReads = s.refusedReads ∧ s'.refusedWrites = s.refusedWrites := by
  constructor
  · constructor
    · rintro ⟨journal, failure, s', h⟩
      rcases of_mergeInto_error h with ⟨_, k, ps, _, _, hsplit, -, hblocked, -⟩
      exact ⟨k, ps, providers?_of_split hsplit, hblocked⟩
    · rintro ⟨i, ps, hps, hblocked⟩
      rcases h : c.mergeInto debug MemoryStore.store s with ⟨⟨journal, failure | report⟩, s'⟩
      · exact ⟨journal, failure, s', rfl⟩
      · exact absurd hblocked ((of_mergeInto_ok h).1 i ps hps)
  · intro journal failure s' h
    rcases of_mergeInto_error h with
      ⟨before, k, ps, after, cause, hsplit, rfl, hblocked, hbefore, rfl⟩
    have hnodup : (before.map Prod.fst).Nodup := by
      have hall := c.names_nodup
      rw [hsplit, List.map_append] at hall
      exact (List.nodup_append.mp hall).1
    have hleast : c.LeastBlocked s k := by
      refine ⟨⟨ps, providers?_of_split hsplit, hblocked⟩, ?_⟩
      intro i qs hqs hi
      -- a service before `k` is not blocked
      apply String.not_lt.mp
      intro hik
      exact hbefore (i, qs) ((mem_before_iff hsplit).mpr ⟨hik, hqs⟩) hi
    -- only services before `k` have been settled, and those have providers
    have hother : ∀ name, (∀ i, i < k → c.providersOf i ≠ ∅ → name ≠ Service.resourceName i) →
        (s.settleAll before).resources.find? name = s.resources.find? name := by
      intro name hname
      apply find?_settleAll_of_ne
      intro e he
      rcases (mem_before_iff hsplit).mp he with ⟨hik, hqs⟩
      apply hname e.1 hik
      rw [providersOf_eq hqs]
      exact ne_empty_of_providers? hqs
    refine ⟨k, cause, hleast, rfl, ?_, ?_, hother, ?_, refusedReads_settleAll s before,
      refusedWrites_settleAll s before⟩
    · intro i qs hik hqs
      exact find?_settleAll_of_mem hnodup ((mem_before_iff hsplit).mpr ⟨hik, hqs⟩)
    · intro i hki
      apply hother
      -- services have resources of their own
      intro j hjk _ hname
      rw [← Service.resourceName_inj.mp hname] at hjk
      exact String.not_lt.mpr hki hjk
    · rw [writeCount_settleAll hnodup, written_before hsplit]

/-- A service whose resource must not be written keeps it, and so does the service after it, while
the one before it was merged. -/
theorem mergeInto_error_blocked_second :
    let c := Catalog.ofPairs [("c", "r"), ("b", "q"), ("a", "p")]
    let s := ((∅ : MemoryStore).put "META-INF/services/b" (Utf8.encode "z # old\n")).refuseWrite
      "META-INF/services/b"
    ∃ journal failure s', c.mergeInto false MemoryStore.store s = ((journal, .error failure), s') ∧
      ∃ k, c.LeastBlocked s k ∧ ∀ i, k ≤ i →
        s'.resources.find? (Service.resourceName i) =
          s.resources.find? (Service.resourceName i) := by
  intro c s
  rcases (mergeInto_error_blocked c false s).2 _ _ _ rfl with ⟨k, cause, hleast, -, -, hrest, -⟩
  exact ⟨_, _, _, rfl, k, hleast, hrest⟩

end Catalog

end ServiceCatalog
