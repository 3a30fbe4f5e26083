import ServiceCatalog.NameMap

/-!
# The catalog of services

A catalog lists, for every service, the providers that are registered for it. It only ever grows. A
service is listed when it has a provider, so two catalogs with the same pairs are the same value.
-/

namespace ServiceCatalog

/-- The providers of every service. -/
structure Catalog where
  services : NameMap NameSet
  /-- Every listed service has a provider. -/
  provided : ∀ e ∈ services.entries, e.2 ≠ ∅

namespace Catalog

/-- The catalog that lists nothing. -/
def empty : Catalog := ⟨∅, fun _ h => absurd h List.not_mem_nil⟩

instance : EmptyCollection Catalog := ⟨empty⟩
instance : Inhabited Catalog := ⟨empty⟩

/-- The providers of a service, if it is listed. -/
def providers? (c : Catalog) (service : String) : Option NameSet := c.services.find? service

/-- The providers of a service; a service that is not listed has none. -/
def providersOf (c : Catalog) (service : String) : NameSet := (c.providers? service).getD ∅

/-- Whether a provider is registered for a service. -/
def lists (c : Catalog) (service provider : String) : Bool :=
  match c.providers? service with
  | none => false
  | some ps => decide (provider ∈ ps)

theorem insert_ne_empty (s : NameSet) (n : String) : s.insert n ≠ ∅ := fun h =>
  NameSet.not_mem_empty n (h ▸ NameSet.mem_insert.mpr (.inl rfl))

/-- The catalog with one more pair. -/
def add (c : Catalog) (service provider : String) : Catalog where
  services := c.services.insert service (((c.providers? service).getD ∅).insert provider)
  provided := fun e he => by
    rcases NameMap.mem_entries_insertSorted he with rfl | he
    · exact insert_ne_empty _ _
    · exact c.provided e he

/-- Adds a pair, and tells whether it is new. -/
def register (service provider : String) : StateM Catalog Bool := fun c =>
  (!c.lists service provider, c.add service provider)

/-- Adds pairs one after another, and tells of each whether it is new. -/
def registerAll (ps : List (String × String)) : StateM Catalog (List Bool) :=
  ps.mapM fun p => register p.1 p.2

/-- The listed services in increasing order. -/
def serviceNames (c : Catalog) : List String := c.services.names

/-- The number of listed services. -/
def serviceCount (c : Catalog) : Nat := c.services.size

/-- The number of pairs of a service and a provider. -/
def pairCount (c : Catalog) : Nat :=
  c.services.entries.foldr (fun e count => e.2.size + count) 0

/-- Whether no service is listed. -/
def isEmpty (c : Catalog) : Bool := c.serviceCount == 0

/-- The catalog of the pairs in a list. -/
def ofPairs (ps : List (String × String)) : Catalog := ps.foldl (fun c p => c.add p.1 p.2) ∅

@[simp] theorem lists_empty (s p : String) : (∅ : Catalog).lists s p = false := rfl

/-- Adding a pair lists it and changes nothing else. -/
@[simp] theorem lists_add (c : Catalog) (s p t q : String) :
    (c.add s p).lists t q = (decide (t = s ∧ q = p) || c.lists t q) := by
  simp only [lists, providers?, add, NameMap.find?_insert]
  by_cases hts : t = s
  · subst hts
    cases h : c.services.find? t <;> simp
  · simp [hts]

/-- Adding pairs one after another lists them and changes nothing else. -/
theorem lists_foldl_add {ps : List (String × String)} {c : Catalog} {s p : String} :
    (ps.foldl (fun c p => c.add p.1 p.2) c).lists s p = true ↔
      c.lists s p = true ∨ (s, p) ∈ ps := by
  induction ps generalizing c with
  | nil => simp
  | cons pair ps ih =>
    rcases pair with ⟨t, q⟩
    rw [List.foldl_cons, ih, lists_add, List.mem_cons]
    simp only [Bool.or_eq_true, decide_eq_true_eq, Prod.mk.injEq]
    constructor
    · rintro ((hpair | hold) | hlater)
      · exact .inr (.inl hpair)
      · exact .inl hold
      · exact .inr (.inr hlater)
    · rintro (hold | hpair | hlater)
      · exact .inl (.inr hold)
      · exact .inl (.inl hpair)
      · exact .inr hlater

theorem lists_ofPairs {ps : List (String × String)} {s p : String} :
    (ofPairs ps).lists s p = true ↔ (s, p) ∈ ps := by
  rw [ofPairs, lists_foldl_add, lists_empty]
  exact or_iff_right Bool.false_ne_true

theorem mem_entries_iff {c : Catalog} {s : String} {ps : NameSet} :
    (s, ps) ∈ c.services.entries ↔ c.providers? s = some ps :=
  NameMap.find?_eq_some_iff.symm

theorem names_nodup (c : Catalog) : (c.services.entries.map Prod.fst).Nodup :=
  nodup_of_pairwise String.lt_asymm c.services.sorted

theorem mem_serviceNames_iff {c : Catalog} {s : String} :
    s ∈ c.serviceNames ↔ ∃ ps, c.providers? s = some ps := by
  simp only [serviceNames, NameMap.names, List.mem_map, ← mem_entries_iff]
  constructor
  · rintro ⟨⟨_, ps⟩, hmem, rfl⟩
    exact ⟨ps, hmem⟩
  · rintro ⟨ps, hmem⟩
    exact ⟨(s, ps), hmem, rfl⟩

theorem ne_empty_of_providers? {c : Catalog} {s : String} {ps : NameSet}
    (h : c.providers? s = some ps) : ps ≠ ∅ :=
  c.provided (s, ps) (mem_entries_iff.mpr h)

theorem providersOf_eq {c : Catalog} {s : String} {ps : NameSet} (h : c.providers? s = some ps) :
    c.providersOf s = ps := by
  rw [providersOf, h, Option.getD_some]

/-- The services with a provider are the listed ones. -/
theorem providers?_of_ne_empty {c : Catalog} {s : String} (h : c.providersOf s ≠ ∅) :
    c.providers? s = some (c.providersOf s) := by
  cases hs : c.providers? s with
  | none => exact absurd (by rw [providersOf, hs, Option.getD_none]) h
  | some ps => rw [providersOf_eq hs]

theorem mem_providersOf {c : Catalog} {s p : String} :
    p ∈ c.providersOf s ↔ c.lists s p = true := by
  unfold providersOf lists
  cases c.providers? s with
  | none => simp
  | some ps => simp

theorem providers?_eq_none_iff {c : Catalog} {s : String} :
    c.providers? s = none ↔ c.providersOf s = ∅ := by
  constructor
  · intro h
    rw [providersOf, h, Option.getD_none]
  · intro h
    cases hs : c.providers? s with
    | none => rfl
    | some ps => exact absurd (providersOf_eq hs ▸ h) (ne_empty_of_providers? hs)

/-- Two catalogs that list the same pairs are the same catalog. -/
theorem eq_of_same_lists {c d : Catalog} (h : ∀ s p, c.lists s p = true ↔ d.lists s p = true) :
    c = d := by
  have hof : ∀ s, c.providersOf s = d.providersOf s := by
    intro s
    apply NameSet.eq_of_same_members
    intro p
    rw [mem_providersOf, mem_providersOf]
    exact h s p
  have hservices : c.services = d.services := by
    apply NameMap.eq_of_same_values
    intro s
    show c.providers? s = d.providers? s
    by_cases hs : c.providersOf s = ∅
    · rw [providers?_eq_none_iff.mpr hs, providers?_eq_none_iff.mpr (hof s ▸ hs)]
    · rw [providers?_of_ne_empty hs, providers?_of_ne_empty (hof s ▸ hs), hof s]
  rcases c with ⟨services, _⟩
  rcases d with ⟨services', _⟩
  obtain rfl : services = services' := hservices
  rfl

end Catalog

end ServiceCatalog
