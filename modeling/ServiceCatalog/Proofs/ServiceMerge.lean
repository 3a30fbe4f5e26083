import ServiceCatalog.Proofs.ServiceFile
import ServiceCatalog.Proofs.StoreMerge

/-!
# Merging one service into a store in memory

What merging the providers of one service does to a store in memory, said without the requests that
it makes: either something blocks it and the store stays as it is, or the resource ends with the
content `settled` and nothing else changes.

* `mergeService_eq`: the result and the store after merging a service;
* `blocked_iff`: a service is blocked exactly when merging it meets an obstacle;
* `listed_settle`: a service that was merged lists the union of the old and the new providers.
-/

namespace ServiceCatalog

namespace Service

theorem resourceName_inj {i j : String} : resourceName i = resourceName j ↔ i = j := by
  constructor
  · intro h
    have hlist := congrArg String.toList h
    simp only [resourceName, String.toList_append] at hlist
    exact String.toList_inj.mp (List.append_cancel_left hlist)
  · rintro rfl
    rfl

end Service

namespace MemoryStore

/-! ## What a merge finds and what it leaves -/

/-- The providers that the resource of a service names. A resource that does not exist, that must
not be read or that is not well-formed names none. -/
def listed (s : MemoryStore) (service : String) : NameSet :=
  match s.read (Service.resourceName service) with
  | .ok content => (Service.readEntries? content).getD ∅
  | .error _ => ∅

/-- Whether providers cannot be merged for a service: its name is unfit, or there is something to
write and either one of the names would not read back or writing the resource is refused. -/
def Blocked (s : MemoryStore) (service : String) (providers : NameSet) : Prop :=
  Service.nameFault? service ≠ none ∨
    ¬ providers ⊆ s.listed service ∧
      ((∃ n, n ∈ s.listed service ∪ providers ∧ Service.isEntry n = false) ∨
        Service.resourceName service ∈ s.refusedWrites)

/-- The first obstacle to merging providers for a service. -/
def obstacle? (s : MemoryStore) (service : String) (providers : NameSet) : Option Fault :=
  match Service.nameFault? service with
  | some fault => some (.badServiceName service fault)
  | none =>
    if providers ⊆ s.listed service then none
    else
      match Service.badEntry? (s.listed service ∪ providers).toList with
      | some name => some (.badEntry name)
      | none =>
        if Service.resourceName service ∈ s.refusedWrites then
          some (.writeRefused (Service.resourceName service))
        else none

/-- What merging providers for a service does to its resource, if nothing blocks it. -/
def change (s : MemoryStore) (service : String) (providers : NameSet) : Merge.Change :=
  if providers ⊆ s.listed service then .unchanged else .written

/-- The content of the resource of a service after providers were merged for it. -/
def settled (s : MemoryStore) (service : String) (providers : NameSet) : Option Bytes :=
  if providers ⊆ s.listed service then s.resources.find? (Service.resourceName service)
  else some (Service.writeLines (s.listed service ∪ providers).toList)

/-- The store after providers were merged for a service. -/
def settle (s : MemoryStore) (service : String) (providers : NameSet) : MemoryStore :=
  if providers ⊆ s.listed service then s
  else
    { s.put (Service.resourceName service)
        (Service.writeLines (s.listed service ∪ providers).toList) with
      writeCount := s.writeCount + 1 }

/-! ## Obstacles -/

/-- A service is blocked exactly when merging it meets an obstacle. -/
theorem blocked_iff {s : MemoryStore} {i : String} {ps : NameSet} :
    s.Blocked i ps ↔ s.obstacle? i ps ≠ none := by
  unfold Blocked obstacle?
  -- the cases are those of the merge, in its order
  cases hname : Service.nameFault? i with
  | some fault => simp
  | none =>
    by_cases hold : ps ⊆ s.listed i
    · -- nothing would be written, so nothing else is looked at
      simp [hold]
    · have hbad : (∃ n, n ∈ s.listed i ∪ ps ∧ Service.isEntry n = false) ↔
          Service.badEntry? (s.listed i ∪ ps).toList ≠ none := by
        rw [Ne, Service.badEntry?_eq_none_iff]
        simp [NameSet.mem_def]
      rw [hbad]
      cases Service.badEntry? (s.listed i ∪ ps).toList with
      | some name => simp [hold]
      | none => simp [hold]

theorem obstacle?_eq_none_iff {s : MemoryStore} {i : String} {ps : NameSet} :
    s.obstacle? i ps = none ↔ ¬ s.Blocked i ps := by
  rw [blocked_iff, not_not]

/-- Whatever is written for a service that is not blocked reads back. -/
theorem isEntry_of_not_blocked {s : MemoryStore} {i : String} {ps : NameSet}
    (hb : ¬ s.Blocked i ps) (hnew : ¬ ps ⊆ s.listed i) :
    ∀ n ∈ s.listed i ∪ ps, Service.isEntry n = true := by
  intro n hn
  by_contra hbad
  exact hb (.inr ⟨hnew, .inl ⟨n, hn, Bool.eq_false_iff.mpr hbad⟩⟩)

/-! ## What settling changes -/

/-- Only the resource of the service changes. -/
theorem find?_settle (s : MemoryStore) (i : String) (ps : NameSet) (name : String) :
    (s.settle i ps).resources.find? name =
      if name = Service.resourceName i then s.settled i ps else s.resources.find? name := by
  unfold settle settled
  split
  · split
    · rename_i hname
      rw [hname]
    · rfl
  · exact NameMap.find?_insert s.resources name (Service.resourceName i) _

@[simp] theorem refusedReads_settle (s : MemoryStore) (i : String) (ps : NameSet) :
    (s.settle i ps).refusedReads = s.refusedReads := by
  unfold settle
  split <;> rfl

@[simp] theorem refusedWrites_settle (s : MemoryStore) (i : String) (ps : NameSet) :
    (s.settle i ps).refusedWrites = s.refusedWrites := by
  unfold settle
  split <;> rfl

theorem writeCount_settle (s : MemoryStore) (i : String) (ps : NameSet) :
    (s.settle i ps).writeCount = s.writeCount + if ps ⊆ s.listed i then 0 else 1 := by
  unfold settle
  split <;> rfl

/-! ## Stores that agree on a resource -/

/-- Whether two stores answer all requests about a resource in the same way. -/
structure AgreeOn (s t : MemoryStore) (name : String) : Prop where
  find? : s.resources.find? name = t.resources.find? name
  refusedReads : s.refusedReads = t.refusedReads
  refusedWrites : s.refusedWrites = t.refusedWrites

variable {s t : MemoryStore} {i j : String} {ps qs : NameSet}

theorem AgreeOn.listed (h : s.AgreeOn t (Service.resourceName i)) : s.listed i = t.listed i := by
  rw [MemoryStore.listed, MemoryStore.listed, read, read, h.find?, h.refusedReads]

theorem AgreeOn.settled (h : s.AgreeOn t (Service.resourceName i)) (ps : NameSet) :
    s.settled i ps = t.settled i ps := by
  rw [MemoryStore.settled, MemoryStore.settled, h.listed, h.find?]

theorem AgreeOn.obstacle? (h : s.AgreeOn t (Service.resourceName i)) (ps : NameSet) :
    s.obstacle? i ps = t.obstacle? i ps := by
  rw [MemoryStore.obstacle?, MemoryStore.obstacle?, h.listed, h.refusedWrites]

theorem AgreeOn.blocked_iff (h : s.AgreeOn t (Service.resourceName i)) (ps : NameSet) :
    s.Blocked i ps ↔ t.Blocked i ps := by
  rw [Blocked, Blocked, h.listed, h.refusedWrites]

/-- Merging a service leaves the resources of all others alone. -/
theorem agreeOn_settle {name : String} (h : name ≠ Service.resourceName j) :
    (s.settle j qs).AgreeOn s name where
  find? := by rw [find?_settle, if_neg h]
  refusedReads := refusedReads_settle s j qs
  refusedWrites := refusedWrites_settle s j qs

/-! ## Settled services -/

theorem read_eq_ok_iff {name : String} {content : Bytes} :
    s.read name = .ok content ↔
      name ∉ s.refusedReads ∧ s.resources.find? name = some content := by
  unfold read
  split
  · simp [*]
  · split <;> simp [*]

theorem listed_eq_named (s : MemoryStore) (i : String) :
    s.listed i = Service.named (s.read (Service.resourceName i)) := by
  unfold listed
  cases s.read (Service.resourceName i) <;> rfl

/-- A resource that names a provider exists and can be read. -/
theorem content_of_mem_listed {n : String} (hn : n ∈ s.listed i) :
    ∃ content, s.resources.find? (Service.resourceName i) = some content ∧
      Service.readEntries? content = some (s.listed i) := by
  rw [listed_eq_named] at hn ⊢
  rcases Service.read_of_mem_named hn with ⟨content, hread, hnames⟩
  exact ⟨content, (read_eq_ok_iff.mp hread).2, hnames⟩

/-- The resource of a service that was merged and had providers to merge exists, and it names them
along with all that it named before. -/
theorem readEntries?_settled (hb : ¬ s.Blocked i ps) (hps : ps ≠ ∅) :
    ∃ content, s.settled i ps = some content ∧
      Service.readEntries? content = some (s.listed i ∪ ps) := by
  unfold settled
  by_cases hold : ps ⊆ s.listed i
  · rw [if_pos hold, NameSet.union_eq_left hold]
    rcases (NameSet.nil_or_mem ps).resolve_left hps with ⟨n, hn⟩
    -- what is already listed was read from some content
    exact content_of_mem_listed (hold n hn)
  · have hentries := isEntry_of_not_blocked hb hold
    rw [if_neg hold]
    exact ⟨_, rfl, Service.readEntries?_writeLines hentries⟩

/-- A service that was merged lists the union of the old and the new providers, if its resource may
be read. -/
theorem listed_settle (hread : Service.resourceName i ∉ s.refusedReads) (hb : ¬ s.Blocked i ps) :
    (s.settle i ps).listed i = s.listed i ∪ ps := by
  by_cases hold : ps ⊆ s.listed i
  · rw [settle, if_pos hold, NameSet.union_eq_left hold]
  · have hentries := isEntry_of_not_blocked hb hold
    have hfind : (s.settle i ps).resources.find? (Service.resourceName i) =
        some (Service.writeLines (s.listed i ∪ ps).toList) := by
      rw [find?_settle, if_pos rfl, settled, if_neg hold]
    have hok : (s.settle i ps).read (Service.resourceName i) =
        .ok (Service.writeLines (s.listed i ∪ ps).toList) :=
      read_eq_ok_iff.mpr ⟨by rwa [refusedReads_settle], hfind⟩
    rw [listed_eq_named, hok, Service.named, Service.readEntries?_writeLines hentries,
      Option.getD_some]

end MemoryStore

/-! ## The merge of a service -/

namespace Merge

open MemoryStore

variable {s : MemoryStore} {i : String} {ps : NameSet}

/-- Merging a service into a store in memory: an obstacle leaves the store as it is, and without one
the store ends settled. Either way no error is reported. -/
theorem mergeService_eq (debug : Bool) (s : MemoryStore) (i : String) (ps : NameSet) :
    ∃ journal : Journal, (∀ d ∈ journal, d.severity ≠ .error) ∧
      mergeService debug MemoryStore.store i ps s =
        match s.obstacle? i ps with
        | some cause => ((journal, .error (.unwritable (Service.resourceName i) cause)), s)
        | none => ((journal, .ok (s.change i ps)), s.settle i ps) := by
  have hread : MemoryStore.store.read (Service.resourceName i) s =
      (s.read (Service.resourceName i), s) := rfl
  rcases mergeService_run hread debug ps with ⟨journal, hjournal, hrun⟩
  refine ⟨journal, hjournal, ?_⟩
  rw [hrun, ← listed_eq_named, obstacle?, change, settle]
  -- the ends of the run are the obstacles, one after the other
  cases Service.nameFault? i with
  | some fault => rfl
  | none =>
    by_cases hold : ps ⊆ s.listed i
    · simp only [if_pos hold]
    · simp only [if_neg hold]
      cases Service.badEntry? (s.listed i ∪ ps).toList with
      | some name => rfl
      | none =>
        simp only [MemoryStore.store, MemoryStore.write]
        by_cases hrefused : Service.resourceName i ∈ s.refusedWrites
        · simp only [if_pos hrefused]
        · simp only [if_neg hrefused]

end Merge

end ServiceCatalog
