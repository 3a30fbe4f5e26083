import ServiceCatalog.Proofs.CleanCompilation

/-!
# Merging the same catalog again

After a merge the store is at rest for the services that were merged: their resources name all of
their providers, so merging them again writes nothing. A service that was blocked has kept its
resource, so it is blocked by the same obstacle again.

* `atRest_settleAll`: services that were merged are at rest;
* `mergeInto_again`: the result and the store of a second merge;
* `rerun_keeps_store`: neither a second merge nor a second compilation changes the store.
-/

namespace ServiceCatalog

namespace MemoryStore

variable {s : MemoryStore} {es before : List (String × NameSet)}

/-! ## Stores at rest -/

/-- Whether merging services would succeed without writing anything. -/
def AtRest (s : MemoryStore) (es : List (String × NameSet)) : Prop :=
  ∀ e ∈ es, Service.nameFault? e.1 = none ∧ e.2 ⊆ s.listed e.1

theorem AtRest.not_blocked (h : s.AtRest es) : ∀ e ∈ es, ¬ s.Blocked e.1 e.2 := by
  rintro e he (hname | ⟨hnew, -⟩)
  · exact hname (h e he).1
  · exact hnew (h e he).2

theorem AtRest.settleAll_eq (h : s.AtRest es) : s.settleAll es = s := by
  induction es with
  | nil => rfl
  | cons e es ih =>
    rcases List.forall_mem_cons.mp h with ⟨⟨-, hold⟩, hes⟩
    have hhead : s.settle e.1 e.2 = s := if_pos hold
    calc (s.settle e.1 e.2).settleAll es
        = s.settleAll es := by rw [hhead]
      _ = s := ih hes

theorem AtRest.reportOn_eq (h : s.AtRest es) : s.reportOn es = ⟨[], es.map Prod.fst⟩ := by
  -- all providers are named already, so one filter keeps nothing and the other one keeps all
  have hold : ∀ e ∈ es, e.2 ⊆ s.listed e.1 := by
    intro e he
    exact (h e he).2
  have hwritten : es.filter (fun e => ¬ e.2 ⊆ s.listed e.1) = [] := by
    rw [List.filter_eq_nil_iff]
    intro e he
    simp [hold e he]
  have hunchanged : es.filter (fun e => e.2 ⊆ s.listed e.1) = es := by
    rw [List.filter_eq_self]
    intro e he
    exact decide_eq_true (hold e he)
  rw [reportOn, hwritten, hunchanged, List.map_nil]

/-- A run leaves the resource of each of its services as merging that service alone leaves it. -/
theorem agreeOn_settleAll (hes : (es.map Prod.fst).Nodup) {i : String} {ps : NameSet}
    (h : (i, ps) ∈ es) :
    (s.settleAll es).AgreeOn (s.settle i ps) (Service.resourceName i) where
  find? := by rw [find?_settleAll_of_mem hes h, find?_settle, if_pos rfl]
  refusedReads := by rw [refusedReads_settleAll, refusedReads_settle]
  refusedWrites := by rw [refusedWrites_settleAll, refusedWrites_settle]

/-- Services that were merged are at rest, if their resources may be read. -/
theorem atRest_settleAll (hes : (es.map Prod.fst).Nodup)
    (hread : ∀ e ∈ es, Service.resourceName e.1 ∉ s.refusedReads)
    (hclear : ∀ e ∈ es, ¬ s.Blocked e.1 e.2) : (s.settleAll es).AtRest es := by
  intro e he
  constructor
  · by_contra hname
    exact hclear e he (.inl hname)
  · rw [(agreeOn_settleAll hes he).listed, listed_settle (hread e he) (hclear e he)]
    exact NameSet.subset_union_right _ _

/-! ## Runs with services at rest before them -/

theorem failure?_append (h : ∀ e ∈ before, ¬ s.Blocked e.1 e.2) :
    s.failure? (before ++ es) = s.failure? es := by
  have hbefore : s.failure? before = none := failure?_eq_none_iff.mpr h
  rw [failure?] at hbefore
  rw [failure?, List.findSome?_append, hbefore, Option.none_or, failure?]

theorem clear_append (h : ∀ e ∈ before, ¬ s.Blocked e.1 e.2) :
    s.clear (before ++ es) = before ++ s.clear es := by
  rw [clear, List.takeWhile_append_of_pos, clear]
  intro e he
  exact decide_eq_true (obstacle?_eq_none_iff.mpr (h e he))

/-- A run that starts with an obstacle fails with it and merges nothing. -/
theorem run_of_obstacle {k : String} {ps : NameSet} {cause : Fault}
    (h : s.obstacle? k ps = some cause) :
    s.failure? ((k, ps) :: es) = some (.unwritable (Service.resourceName k) cause) ∧
      s.clear ((k, ps) :: es) = [] := by
  constructor
  · rw [failure?, List.findSome?_cons, h, Option.map_some]
  · rw [clear, List.takeWhile_cons, h]
    rfl

end MemoryStore

/-! ## Merges -/

namespace Catalog

open MemoryStore

variable {c : Catalog} {s : MemoryStore}

/-- A second merge leaves the store as it is. If the first one succeeded, it has nothing to write
for any service, and if the first one failed, it fails in the same way. -/
theorem mergeInto_again (debug debug' : Bool)
    (hread : ∀ i, c.providers? i ≠ none → Service.resourceName i ∉ s.refusedReads) :
    let first := c.mergeInto debug MemoryStore.store s
    let second := c.mergeInto debug' MemoryStore.store first.2
    second.2 = first.2 ∧
      second.1.2 = match first.1.2 with
        | .ok _ => .ok ⟨[], c.serviceNames⟩
        | .error failure => .error failure := by
  intro first second
  have hreads : ∀ e ∈ c.services.entries, Service.resourceName e.1 ∉ s.refusedReads := by
    intro e he
    apply hread e.1
    rw [mem_entries_iff.mp he]
    exact Option.some_ne_none e.2
  rcases c.mergeInto_eq debug s with ⟨_, -, hfirst⟩
  rcases c.mergeInto_eq debug' first.2 with ⟨_, -, hsecond⟩
  simp only [second, hsecond]
  -- the first merge either settled all services or stopped at a blocked one
  cases hfailure : s.failure? c.services.entries with
  | none =>
    have hclear := failure?_eq_none_iff.mp hfailure
    have hstore : first.2 = s.settleAll c.services.entries := by
      simp only [first, hfirst, clear_eq_self hclear]
    have hrest : first.2.AtRest c.services.entries := by
      rw [hstore]
      exact atRest_settleAll c.names_nodup hreads hclear
    have hagain : first.2.failure? c.services.entries = none :=
      failure?_eq_none_iff.mpr hrest.not_blocked
    have hresult : first.1.2 = .ok (s.reportOn c.services.entries) := by
      simp only [first, hfirst, hfailure]
    rw [clear_eq_self hrest.not_blocked, hrest.settleAll_eq, hagain, hresult, hrest.reportOn_eq]
    exact ⟨rfl, rfl⟩
  | some failure =>
    have hresult : first.1.2 = .error failure := by
      simp only [first, hfirst, hfailure]
    rcases split_of_failure? hfailure with ⟨k, ps, after, _, hsplit, -, hblocked, hbefore⟩
    have hstore : first.2 = s.settleAll (s.clear c.services.entries) := by
      simp only [first, hfirst]
    -- from here on the services before the blocked one have a name of their own
    generalize s.clear c.services.entries = before at hsplit hbefore hstore
    have hnodup := c.names_nodup
    rw [hsplit, List.map_append, List.nodup_append] at hnodup
    have hrest : first.2.AtRest before := by
      rw [hstore]
      refine atRest_settleAll hnodup.1 ?_ hbefore
      intro e he
      apply hreads e
      rw [hsplit]
      exact List.mem_append_left _ he
    -- the blocked service has kept its resource, so it meets the obstacle that it met before
    have hkept : first.2.AgreeOn s (Service.resourceName k) := by
      rw [hstore]
      refine ⟨find?_settleAll_of_ne ?_, refusedReads_settleAll s _, refusedWrites_settleAll s _⟩
      intro e he hname
      refine hnodup.2.2 e.1 (List.mem_map_of_mem he) k ?_ (Service.resourceName_inj.mp hname).symm
      exact List.mem_cons_self
    rcases Option.ne_none_iff_exists'.mp (blocked_iff.mp hblocked) with ⟨cause, hcause⟩
    have hagain : first.2.obstacle? k ps = some cause := by rw [hkept.obstacle?, hcause]
    rw [hsplit, failure?_append hbefore, (run_of_obstacle hcause).1] at hfailure
    rw [hsplit, failure?_append hrest.not_blocked, clear_append hrest.not_blocked,
      (run_of_obstacle hagain).1, (run_of_obstacle hagain).2, List.append_nil,
      hrest.settleAll_eq, hresult, hfailure]
    exact ⟨rfl, rfl⟩

/-- Running the same merge again leaves the store as it is, the number of writes included. After a
merge that succeeded it has nothing to write for any service, and after one that failed it fails to
write the same resource for the same cause. A compilation that found the catalog leaves the store as
it is too when it runs again. -/
theorem rerun_keeps_store (debug debug' : Bool)
    (hread : ∀ i, c.providers? i ≠ none → Service.resourceName i ∉ s.refusedReads) :
    let first := c.mergeInto debug MemoryStore.store s
    let second := c.mergeInto debug' MemoryStore.store first.2
    second.2 = first.2 ∧
    (∀ report, first.1.2 = .ok report → second.1.2 = .ok ⟨[], c.serviceNames⟩) ∧
    (∀ failure, first.1.2 = .error failure → second.1.2 = .error failure ∧
      ∃ k cause, failure = .unwritable (Service.resourceName k) cause) ∧
    ∀ (t : SymbolTable) (rounds : Nat) (o : Options),
      let run := t.compile MemoryStore.store rounds o s
      run.1.1.catalog = c → (t.compile MemoryStore.store rounds o run.2).2 = run.2 := by
  intro first second
  rcases mergeInto_again debug debug' hread with ⟨hstore, hresult⟩
  refine ⟨hstore, ?_, ?_, ?_⟩
  · intro report hreport
    rw [hresult, hreport]
  · intro failure hfailure
    refine ⟨by rw [hresult, hfailure], ?_⟩
    have hfirst : c.mergeInto debug MemoryStore.store s =
        ((first.1.1, .error failure), first.2) := by
      rw [← hfailure]
      rfl
    rcases of_mergeInto_error hfirst with ⟨_, k, _, _, cause, -, hcause, -⟩
    exact ⟨k, cause, hcause⟩
  · intro t rounds o run hfound
    -- what a compilation finds does not depend on the store
    rcases t.compile_outcome MemoryStore.store rounds o s with ⟨hreport, hrun⟩
    rcases t.compile_outcome MemoryStore.store rounds o run.2 with ⟨-, hagain⟩
    have hcatalog :
        (Session.scanAll t (.start o) (List.range (max rounds 1))).1.catalog = c := by
      rw [← hfound]
      simp only [run, hreport]
    rw [hcatalog] at hrun hagain
    rw [hagain]
    simp only [run, hrun]
    exact (mergeInto_again o.debug o.debug hread).1

/-- A merge that rewrote an ill-formed resource and was refused the next one fails again without a
further write, and a compilation of one provider leaves a resource with a comment alone when it runs
again. -/
theorem rerun_keeps_store_refused :
    let c := Catalog.ofPairs [("c", "r"), ("b", "q"), ("a", "p")]
    let s := ((∅ : MemoryStore).put "META-INF/services/a" [0xFF]).refuseWrite "META-INF/services/b"
    let first := c.mergeInto true MemoryStore.store s
    let second := c.mergeInto false MemoryStore.store first.2
    let t := SymbolTable.oneProvider
    let u := (∅ : MemoryStore).put "META-INF/services/svc.Greeter" (Utf8.encode "z # old")
    let run := t.compile MemoryStore.store t.roundCount ⟨true, true⟩ u
    first.2.writeCount = 1 ∧ second.2 = first.2 ∧
      (∃ failure, first.1.2 = .error failure ∧ second.1.2 = .error failure) ∧
      (t.compile MemoryStore.store t.roundCount ⟨true, true⟩ run.2).2 = run.2 := by
  intro c s first second t u run
  have hread : ∀ i, c.providers? i ≠ none → Service.resourceName i ∉ s.refusedReads := by
    intro i _
    exact NameSet.not_mem_empty _
  have hreadRun : ∀ i, run.1.1.catalog.providers? i ≠ none →
      Service.resourceName i ∉ u.refusedReads := by
    intro i _
    exact NameSet.not_mem_empty _
  rcases rerun_keeps_store true false hread with ⟨hstore, -, hfailed, -⟩
  rcases rerun_keeps_store true true hreadRun with ⟨-, -, -, hcompiled⟩
  exact ⟨rfl, hstore, ⟨_, rfl, (hfailed _ rfl).1⟩, hcompiled t _ _ rfl⟩

end Catalog

end ServiceCatalog
