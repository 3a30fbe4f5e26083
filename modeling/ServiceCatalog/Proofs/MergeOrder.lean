import ServiceCatalog.Proofs.CatalogMerge

/-!
# Merging catalogs one after another

What a sequence of merges leaves depends only on the pairs that its catalogs list together. For each
service, merging `ps` and then `qs` leaves what merging `ps ∪ qs` leaves, although the first merge
may have rewritten a resource that the second one leaves alone; and if nothing blocks the first,
the second is blocked exactly when the union is.

* `settled_settle`, `blocked_settle_iff`: these two facts about one service;
* `Settled.trans`, `Settled.clear_iff`: the same for all services at once;
* `mergeAll?_outcome`: when a sequence of merges succeeds, and what it leaves;
* `mergeAll?_of_same_pairs`: catalogs with the same pairs can be merged in any order and grouping.
-/

namespace ServiceCatalog

namespace MemoryStore

variable {s s' t : MemoryStore} {i : String} {ps qs : NameSet}

/-! ## One service -/

theorem settled_empty (s : MemoryStore) (i : String) :
    s.settled i ∅ = s.resources.find? (Service.resourceName i) := by
  rw [settled, if_pos (NameSet.empty_subset _)]

/-- Something blocks a union if it blocks a part of it. -/
theorem Blocked.union (h : s.Blocked i ps) (qs : NameSet) : s.Blocked i (ps ∪ qs) := by
  rcases h with hname | ⟨hnew, hcause⟩
  · exact .inl hname
  · -- the union does not consist of old names either, and the bad name is in it
    have hunion : ¬ ps ∪ qs ⊆ s.listed i := by
      intro hold
      exact hnew (NameSet.union_subset_iff.mp hold).1
    refine .inr ⟨hunion, hcause.imp_left ?_⟩
    rintro ⟨n, hn, hbad⟩
    refine ⟨n, ?_, hbad⟩
    rw [← NameSet.union_assoc]
    exact NameSet.subset_union_left _ _ n hn

/-- Merging a union leaves what merging its parts one after another leaves. -/
theorem settled_settle (hread : Service.resourceName i ∉ s.refusedReads)
    (hb : ¬ s.Blocked i ps) (qs : NameSet) :
    (s.settle i ps).settled i qs = s.settled i (ps ∪ qs) := by
  have hfind : (s.settle i ps).resources.find? (Service.resourceName i) = s.settled i ps := by
    rw [find?_settle, if_pos rfl]
  rw [settled, listed_settle hread hb, hfind]
  by_cases hold : ps ⊆ s.listed i
  · -- nothing is written for the first part
    rw [settled, settled, NameSet.union_eq_left hold, if_pos hold, ← NameSet.union_assoc,
      NameSet.union_eq_left hold]
    simp only [NameSet.union_subset_iff, hold, true_and]
  · -- the first part was written, and what it wrote is what the second one finds
    have hunion : ¬ ps ∪ qs ⊆ s.listed i := by
      intro h
      exact hold (NameSet.union_subset_iff.mp h).1
    rw [settled, settled, if_neg hold, if_neg hunion, ← NameSet.union_assoc]
    by_cases hlater : qs ⊆ s.listed i ∪ ps
    · rw [if_pos hlater, NameSet.union_eq_left hlater]
    · rw [if_neg hlater]

/-- After a part was merged, the rest is blocked exactly when the union was. -/
theorem blocked_settle_iff (hread : Service.resourceName i ∉ s.refusedReads)
    (hb : ¬ s.Blocked i ps) : (s.settle i ps).Blocked i qs ↔ s.Blocked i (ps ∪ qs) := by
  rw [Blocked, listed_settle hread hb, refusedWrites_settle, Blocked, NameSet.union_assoc]
  -- the name of the service is the same; the rest compares what there is to write
  apply or_congr_right
  constructor
  · rintro ⟨hnew, hcause⟩
    refine ⟨?_, hcause⟩
    intro hold
    have hlater : qs ⊆ s.listed i := (NameSet.union_subset_iff.mp hold).2
    exact hnew (NameSet.subset_trans hlater (NameSet.subset_union_left _ _))
  · rintro ⟨hnew, hcause⟩
    refine ⟨?_, hcause⟩
    intro hlater
    -- the first part had to be written then, and with the rest it is nothing more
    have hfirst : ¬ ps ⊆ s.listed i := by
      intro hold
      rw [NameSet.union_eq_left hold] at hlater
      exact hnew (NameSet.union_subset_iff.mpr ⟨hold, hlater⟩)
    rw [← NameSet.union_assoc, NameSet.union_eq_left hlater] at hcause
    exact hb (.inr ⟨hfirst, hcause⟩)

/-! ## All services -/

/-- Whether nothing blocks the providers of any service. -/
def Clear (s : MemoryStore) (providers : String → NameSet) : Prop :=
  ∀ i, providers i ≠ ∅ → ¬ s.Blocked i (providers i)

/-- A store in which the resources of all services are as a merge of their providers leaves them,
and everything else but the number of writes is as before. -/
structure Settled (s : MemoryStore) (providers : String → NameSet) (s' : MemoryStore) : Prop where
  service : ∀ i, s'.resources.find? (Service.resourceName i) = s.settled i (providers i)
  other : ∀ name, (∀ i, name ≠ Service.resourceName i) →
    s'.resources.find? name = s.resources.find? name
  refusedReads : s'.refusedReads = s.refusedReads
  refusedWrites : s'.refusedWrites = s.refusedWrites

/-- What is settled is determined by the providers. -/
theorem Settled.resources_eq {providers : String → NameSet} (h : s.Settled providers s')
    (h' : s.Settled providers t) : s'.resources = t.resources := by
  apply NameMap.eq_of_same_values
  intro name
  -- a resource is one of a service or of none
  by_cases hname : ∃ i, name = Service.resourceName i
  · rcases hname with ⟨i, rfl⟩
    rw [h.service i, h'.service i]
  · have hother : ∀ i, name ≠ Service.resourceName i := by
      intro i heq
      exact hname ⟨i, heq⟩
    rw [h.other name hother, h'.other name hother]

/-- On the resource of one service, a settled store agrees with the one in which only that service
was merged. -/
theorem Settled.agreeOn {providers : String → NameSet} (h : s.Settled providers s') (i : String) :
    s'.AgreeOn (s.settle i (providers i)) (Service.resourceName i) where
  find? := by rw [h.service i, find?_settle, if_pos rfl]
  refusedReads := by rw [h.refusedReads, refusedReads_settle]
  refusedWrites := by rw [h.refusedWrites, refusedWrites_settle]

/-- Settling one choice of providers and then another one settles their union. -/
theorem Settled.trans {as bs : String → NameSet}
    (hread : ∀ i, as i ≠ ∅ → Service.resourceName i ∉ s.refusedReads) (hclear : s.Clear as)
    (h : s.Settled as s') (h' : s'.Settled bs t) : s.Settled (fun i => as i ∪ bs i) t where
  service i := by
    rw [h'.service i, (h.agreeOn i).settled]
    -- a service without providers in the first choice was not touched
    by_cases hempty : as i = ∅
    · rw [hempty, NameSet.empty_union, settle, if_pos (NameSet.empty_subset _)]
    · exact settled_settle (hread i hempty) (hclear i hempty) (bs i)
  other name hname := by rw [h'.other name hname, h.other name hname]
  refusedReads := by rw [h'.refusedReads, h.refusedReads]
  refusedWrites := by rw [h'.refusedWrites, h.refusedWrites]

/-- Once one choice of providers is settled, nothing blocks another one exactly when nothing blocks
their union. -/
theorem Settled.clear_iff {as bs : String → NameSet}
    (hread : ∀ i, as i ≠ ∅ → Service.resourceName i ∉ s.refusedReads) (hclear : s.Clear as)
    (h : s.Settled as s') : s'.Clear bs ↔ s.Clear fun i => as i ∪ bs i := by
  apply forall_congr'
  intro i
  show (bs i ≠ ∅ → ¬ s'.Blocked i (bs i)) ↔ (as i ∪ bs i ≠ ∅ → ¬ s.Blocked i (as i ∪ bs i))
  rw [(h.agreeOn i).blocked_iff]
  by_cases hempty : as i = ∅
  · -- nothing was merged for the service, so it is as it was
    rw [hempty, NameSet.empty_union, settle, if_pos (NameSet.empty_subset _)]
  · rw [blocked_settle_iff (hread i hempty) (hclear i hempty)]
    constructor
    · intro hlater _
      by_cases hnone : bs i = ∅
      · rw [hnone, NameSet.union_empty]
        exact hclear i hempty
      · exact hlater hnone
    · intro hunion hnone
      apply hunion
      intro heq
      exact hnone (NameSet.union_eq_empty_iff.mp heq).2

end MemoryStore

/-! ## One catalog -/

namespace Catalog

open MemoryStore

variable {c : Catalog} {s s' : MemoryStore}

/-- A merge that succeeds settles the providers of the catalog. -/
theorem settled_of_mergeInto {debug : Bool} {journal : Journal} {report : MergeReport}
    (h : c.mergeInto debug MemoryStore.store s = ((journal, .ok report), s')) :
    s.Clear c.providersOf ∧ s.Settled c.providersOf s' := by
  rcases of_mergeInto_ok h with ⟨hclear, -, rfl, -⟩
  have hfree : s.Clear c.providersOf := by
    intro i hi
    exact hclear i _ (providers?_of_ne_empty hi)
  refine ⟨hfree, ?_, ?_, refusedReads_settleAll s _, refusedWrites_settleAll s _⟩
  · intro i
    by_cases hi : c.providersOf i = ∅
    · -- a service without providers is not in the run
      rw [hi, settled_empty]
      apply find?_settleAll_of_ne
      intro e he heq
      have hps := mem_entries_iff.mp he
      rw [← Service.resourceName_inj.mp heq] at hps
      exact ne_empty_of_providers? hps (providersOf_eq hps ▸ hi)
    · have hmem := mem_entries_iff.mpr (providers?_of_ne_empty hi)
      exact find?_settleAll_of_mem c.names_nodup hmem
  · intro name hname
    apply find?_settleAll_of_ne
    intro e _
    exact hname e.1

/-- A merge succeeds if nothing blocks the providers of the catalog. -/
theorem mergeInto_ok_of_clear (debug : Bool) (h : s.Clear c.providersOf) :
    ∃ journal report s', c.mergeInto debug MemoryStore.store s = ((journal, .ok report), s') := by
  rw [mergeInto_ok_iff]
  intro i ps hps
  rw [← providersOf_eq hps]
  apply h i
  rw [providersOf_eq hps]
  exact ne_empty_of_providers? hps

/-- The providers that some catalogs list together for a service. -/
def total (cs : List Catalog) (service : String) : NameSet :=
  cs.foldr (fun c ps => c.providersOf service ∪ ps) ∅

theorem mem_total {cs : List Catalog} {i p : String} :
    p ∈ total cs i ↔ ∃ c ∈ cs, c.lists i p = true := by
  induction cs with
  | nil => simp [total]
  | cons c cs ih =>
    have hcons : total (c :: cs) i = c.providersOf i ∪ total cs i := rfl
    rw [hcons, NameSet.mem_union, mem_providersOf, ih]
    simp only [List.mem_cons, exists_eq_or_imp]

end Catalog

/-! ## Sequences of catalogs -/

namespace MemoryStore

open Catalog

/-- The store after catalogs were merged one after another, if all of the merges succeed. -/
def mergeAll? (debug : Bool) (s : MemoryStore) : List Catalog → Option MemoryStore
  | [] => some s
  | c :: cs =>
    match c.mergeInto debug MemoryStore.store s with
    | ((_, .ok _), s') => s'.mergeAll? debug cs
    | ((_, .error _), _) => none

/-- A sequence of merges succeeds exactly when nothing blocks what its catalogs list together, and
then it settles that. -/
theorem mergeAll?_outcome (debug : Bool) {s : MemoryStore} {cs : List Catalog}
    (hread : ∀ i, total cs i ≠ ∅ → Service.resourceName i ∉ s.refusedReads) :
    (s.Clear (total cs) → ∃ s', s.mergeAll? debug cs = some s') ∧
      ∀ s', s.mergeAll? debug cs = some s' → s.Clear (total cs) ∧ s.Settled (total cs) s' := by
  -- the induction is on the catalogs: the first one is settled, and the rest starts from there
  induction cs generalizing s with
  | nil =>
    constructor
    · intro _
      exact ⟨s, rfl⟩
    · intro s' h
      cases h
      exact ⟨fun i hi => absurd rfl hi,
        fun i => (settled_empty s i).symm, fun _ _ => rfl, rfl, rfl⟩
  | cons c cs ih =>
    have htotal : total (c :: cs) = fun i => c.providersOf i ∪ total cs i := rfl
    -- what is read for the first catalog or for the others is read for all of them together
    have hfirst : ∀ i, c.providersOf i ≠ ∅ → Service.resourceName i ∉ s.refusedReads := by
      intro i hi
      apply hread i
      intro heq
      exact hi (NameSet.union_eq_empty_iff.mp heq).1
    have hrest : ∀ {s₁}, s.Settled c.providersOf s₁ → ∀ i, total cs i ≠ ∅ →
        Service.resourceName i ∉ s₁.refusedReads := by
      intro s₁ hs₁ i hi
      rw [hs₁.refusedReads]
      apply hread i
      intro heq
      exact hi (NameSet.union_eq_empty_iff.mp heq).2
    rw [htotal]
    constructor
    · intro hclear
      -- what blocks the first catalog would block the union
      have hhead : s.Clear c.providersOf := by
        intro i hi hblocked
        have hunion : c.providersOf i ∪ total cs i ≠ ∅ := by
          intro heq
          exact hi (NameSet.union_eq_empty_iff.mp heq).1
        exact hclear i hunion (hblocked.union _)
      rcases mergeInto_ok_of_clear debug hhead with ⟨journal, report, s₁, hmerge⟩
      rcases settled_of_mergeInto hmerge with ⟨-, hs₁⟩
      simp only [mergeAll?, hmerge]
      exact (ih (hrest hs₁)).1 ((hs₁.clear_iff hfirst hhead).mpr hclear)
    · intro s' h
      unfold mergeAll? at h
      split at h
      · rename_i journal report s₁ hmerge
        rcases settled_of_mergeInto hmerge with ⟨hhead, hs₁⟩
        rcases (ih (hrest hs₁)).2 s' h with ⟨hclear, hs'⟩
        exact ⟨(hs₁.clear_iff hfirst hhead).mp hclear, hs₁.trans hfirst hhead hs'⟩
      · cases h

/-- Catalogs that list the same pairs together can be merged in any order and in any grouping: if
one sequence of merges succeeds, so does the other, and both leave the same resources. -/
theorem mergeAll?_of_same_pairs {debug debug' : Bool} {s s₁ : MemoryStore} {rs ss : List Catalog}
    (hpairs : ∀ i p, (∃ r ∈ rs, r.lists i p = true) ↔ ∃ r ∈ ss, r.lists i p = true)
    (hread : ∀ r ∈ rs, ∀ i, r.providers? i ≠ none →
      Service.resourceName i ∉ s.refusedReads)
    (h : s.mergeAll? debug rs = some s₁) :
    ∃ s₂, s.mergeAll? debug' ss = some s₂ ∧ s₂.resources = s₁.resources := by
  -- the same pairs make the same choice of providers
  have htotal : total rs = total ss := by
    funext i
    apply NameSet.eq_of_same_members
    intro p
    rw [mem_total, mem_total, hpairs]
  have hreads : ∀ i, total rs i ≠ ∅ → Service.resourceName i ∉ s.refusedReads := by
    intro i hi
    rcases (NameSet.nil_or_mem _).resolve_left hi with ⟨p, hp⟩
    rcases mem_total.mp hp with ⟨r, hr, hlists⟩
    apply hread r hr i
    intro hnone
    rw [lists, hnone] at hlists
    exact Bool.false_ne_true hlists
  -- what one sequence settles is clear for both of them
  rcases (mergeAll?_outcome debug hreads).2 s₁ h with ⟨hclear, hsettled⟩
  rw [htotal] at hclear hsettled hreads
  rcases (mergeAll?_outcome debug' hreads).1 hclear with ⟨s₂, hs₂⟩
  exact ⟨s₂, hs₂, (((mergeAll?_outcome debug' hreads).2 s₂ hs₂).2).resources_eq hsettled⟩

/-- Two merges that each add a provider to a resource with a comment leave what one merge of both
leaves. -/
theorem mergeAll?_two_eq_one :
    let s := (∅ : MemoryStore).put "META-INF/services/a" (Utf8.encode "z # first\n")
    let rs := [Catalog.ofPairs [("a", "q")], Catalog.ofPairs [("a", "p"), ("b", "p")]]
    let ss := [Catalog.ofPairs [("b", "p"), ("a", "p"), ("a", "q")]]
    ∃ s₁ s₂, s.mergeAll? true rs = some s₁ ∧ s.mergeAll? false ss = some s₂ ∧
      s₂.resources = s₁.resources := by
  intro s rs ss
  have hpairs : ∀ i p, (∃ r ∈ rs, r.lists i p = true) ↔ ∃ r ∈ ss, r.lists i p = true := by
    intro i p
    simp only [rs, ss, ofPairs, List.foldl, List.mem_cons, List.not_mem_nil, or_false,
      exists_eq_or_imp, exists_eq_left, lists_add, lists_empty, Bool.or_false, Bool.or_eq_true,
      decide_eq_true_eq]
    grind
  have hread : ∀ r ∈ rs, ∀ i, r.providers? i ≠ none →
      Service.resourceName i ∉ s.refusedReads := by
    intro r _ i _
    exact NameSet.not_mem_empty _
  have hsome : (s.mergeAll? true rs).isSome = true := by decide +kernel
  rcases Option.isSome_iff_exists.mp hsome with ⟨s₁, hs₁⟩
  rcases mergeAll?_of_same_pairs hpairs hread hs₁ with ⟨s₂, hs₂, hresources⟩
  exact ⟨s₁, s₂, hs₁, hs₂, hresources⟩

end MemoryStore

end ServiceCatalog
