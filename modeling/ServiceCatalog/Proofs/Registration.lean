import Mathlib.Data.Finset.Card
import Mathlib.Data.List.Nodup
import ServiceCatalog.Catalog

/-!
# Catalogs built pair by pair

A catalog is determined by the pairs that it lists, and registering a pair adds this one and no
other. So a run of registrations builds the same catalog in any order and with any repetitions. The
number of pairs is a sum over the services; since no service and no provider of a service is listed
twice, it counts each pair once, and each registration of a new pair raises it by one.

* `pairs`, `mem_pairs`, `nodup_pairs`: what a catalog lists, as a list without repetitions;
* `pairCount_eq_card`, `pairCount_add`: the number of pairs, and what one registration adds to it;
* `registerAll_snd`, `count_registerAll`: what a run of registrations leaves and counts;
* `ofPairs_eq_iff`, `ofPairs_pairs`: which lists of pairs build a catalog;
* `registerAll_outcome`: all of this for a run that starts from the empty catalog.
-/

namespace ServiceCatalog

namespace Catalog

variable {c : Catalog} {i p : String} {ps qs : List (String × String)}

/-! ## The pairs of a catalog -/

/-- The pairs that a catalog lists, service by service. -/
def pairs (c : Catalog) : List (String × String) :=
  c.services.entries.flatMap fun e => e.2.toList.map fun p => (e.1, p)

theorem exists_providers?_iff :
    (∃ providers, c.providers? i = some providers ∧ p ∈ providers) ↔ c.lists i p = true := by
  unfold lists
  cases c.providers? i <;> simp

theorem mem_pairs : (i, p) ∈ c.pairs ↔ c.lists i p = true := by
  rw [← exists_providers?_iff, pairs, List.mem_flatMap]
  constructor
  · rintro ⟨⟨j, providers⟩, he, hpair⟩
    rcases List.mem_map.mp hpair with ⟨q, hq, heq⟩
    cases heq
    exact ⟨providers, mem_entries_iff.mp he, hq⟩
  · rintro ⟨providers, hproviders, hp⟩
    exact ⟨(i, providers), mem_entries_iff.mpr hproviders, List.mem_map.mpr ⟨p, hp, rfl⟩⟩

/-- No pair is listed twice: no service is, and no provider of a service. -/
theorem nodup_pairs (c : Catalog) : c.pairs.Nodup := by
  rw [pairs, List.nodup_flatMap]
  constructor
  · -- within one service: its providers are pairwise different
    rintro ⟨j, providers⟩ _
    apply List.Nodup.map _ (nodup_of_pairwise String.lt_asymm providers.sorted)
    intro p q heq
    exact (Prod.mk.inj heq).2
  · -- of two services: their names are, whatever their providers
    apply (List.pairwise_map.mp c.names_nodup).imp
    rintro ⟨j, _⟩ ⟨k, _⟩ hne pair hj hk
    rcases List.mem_map.mp hj with ⟨p, -, rfl⟩
    rcases List.mem_map.mp hk with ⟨q, -, heq⟩
    exact hne (Prod.mk.inj heq).1.symm

theorem length_pairs (c : Catalog) : c.pairs.length = c.pairCount := by
  unfold pairs pairCount
  induction c.services.entries with
  | nil => rfl
  | cons e es ih =>
    rw [List.flatMap_cons, List.length_append, List.length_map, ih]
    rfl

/-- The number of pairs, which is summed up over the services, counts each pair once. -/
theorem pairCount_eq_card (c : Catalog) : c.pairCount = c.pairs.toFinset.card := by
  rw [List.toFinset_card_of_nodup c.nodup_pairs, length_pairs]

/-! ## One registration -/

theorem toFinset_pairs_add (c : Catalog) (i p : String) :
    (c.add i p).pairs.toFinset = insert (i, p) c.pairs.toFinset := by
  ext ⟨j, q⟩
  rw [Finset.mem_insert, List.mem_toFinset, List.mem_toFinset, mem_pairs, mem_pairs, lists_add,
    Bool.or_eq_true, decide_eq_true_eq, Prod.mk.injEq]

/-- A new pair raises the number of pairs by one, and a listed one leaves it as it is. -/
theorem pairCount_add (c : Catalog) (i p : String) :
    (c.add i p).pairCount = c.pairCount + (!c.lists i p).toNat := by
  rw [pairCount_eq_card, pairCount_eq_card, toFinset_pairs_add]
  cases hlisted : c.lists i p with
  | true =>
    have hmem : (i, p) ∈ c.pairs.toFinset := List.mem_toFinset.mpr (mem_pairs.mpr hlisted)
    rw [Finset.insert_eq_of_mem hmem]
    rfl
  | false =>
    have hnew : (i, p) ∉ c.pairs.toFinset := by
      rw [List.mem_toFinset, mem_pairs, hlisted]
      exact Bool.false_ne_true
    -- the pair is none of the old ones, so the finite set grows by it
    exact Finset.card_insert_of_notMem hnew

/-! ## Runs of registrations -/

theorem registerAll_cons (pair : String × String) (ps : List (String × String)) (c : Catalog) :
    registerAll (pair :: ps) c =
      ((!c.lists pair.1 pair.2) :: (registerAll ps (c.add pair.1 pair.2)).1,
        (registerAll ps (c.add pair.1 pair.2)).2) := by
  rw [registerAll, List.mapM_cons]
  rfl

theorem registerAll_snd (ps : List (String × String)) (c : Catalog) :
    (registerAll ps c).2 = ps.foldl (fun c p => c.add p.1 p.2) c := by
  induction ps generalizing c with
  | nil => rfl
  | cons pair ps ih => rw [registerAll_cons, ih, List.foldl_cons]

/-- A run raises the number of pairs by the number of its registrations that brought a new pair. -/
theorem count_registerAll (ps : List (String × String)) (c : Catalog) :
    (registerAll ps c).2.pairCount = c.pairCount + (registerAll ps c).1.count true := by
  -- the induction is on the registrations; the catalog varies, since each one changes it
  induction ps generalizing c with
  | nil => rfl
  | cons pair ps ih =>
    rw [registerAll_cons, ih, pairCount_add, List.count_cons, Nat.add_assoc]
    congr 1
    cases c.lists pair.1 pair.2 with
    | true => exact Nat.zero_add _
    | false => exact Nat.add_comm _ _

/-! ## The catalog of a list of pairs -/

/-- Two lists of pairs build the same catalog exactly when they have the same members. -/
theorem ofPairs_eq_iff : ofPairs qs = ofPairs ps ↔ ∀ pair, pair ∈ qs ↔ pair ∈ ps := by
  constructor
  · rintro h ⟨i, p⟩
    rw [← lists_ofPairs, h, lists_ofPairs]
  · intro h
    apply eq_of_same_lists
    intro i p
    rw [lists_ofPairs, lists_ofPairs]
    exact h (i, p)

/-- Every catalog is built by registering the pairs that it lists. -/
theorem ofPairs_pairs (c : Catalog) : ofPairs c.pairs = c := by
  apply eq_of_same_lists
  intro i p
  rw [lists_ofPairs, mem_pairs]

/-- A service is listed exactly when one of the pairs is about it. -/
theorem exists_providers?_ofPairs_iff :
    (∃ providers, (ofPairs ps).providers? i = some providers) ↔ ∃ p, (i, p) ∈ ps := by
  constructor
  · rintro ⟨providers, hproviders⟩
    -- no listed service is without providers, so one of them gives the pair
    rcases (NameSet.nil_or_mem providers).resolve_left (ne_empty_of_providers? hproviders) with
      ⟨p, hp⟩
    exact ⟨p, lists_ofPairs.mp (exists_providers?_iff.mp ⟨providers, hproviders, hp⟩)⟩
  · rintro ⟨p, hp⟩
    rcases exists_providers?_iff.mpr (lists_ofPairs.mpr hp) with ⟨providers, hproviders, -⟩
    exact ⟨providers, hproviders⟩

theorem pairCount_ofPairs (ps : List (String × String)) :
    (ofPairs ps).pairCount = ps.toFinset.card := by
  have hsame : (ofPairs ps).pairs.toFinset = ps.toFinset := by
    ext ⟨i, p⟩
    rw [List.mem_toFinset, List.mem_toFinset, mem_pairs, lists_ofPairs]
  rw [pairCount_eq_card, hsame]

theorem serviceCount_ofPairs (ps : List (String × String)) :
    (ofPairs ps).serviceCount = (ps.map Prod.fst).toFinset.card := by
  -- the service names have no repetition, so counting them is counting the services of the pairs
  have hsame : (ofPairs ps).serviceNames.toFinset = (ps.map Prod.fst).toFinset := by
    ext i
    rw [List.mem_toFinset, List.mem_toFinset, mem_serviceNames_iff, exists_providers?_ofPairs_iff,
      List.mem_map]
    constructor
    · rintro ⟨p, hp⟩
      exact ⟨(i, p), hp, rfl⟩
    · rintro ⟨⟨_, p⟩, hp, rfl⟩
      exact ⟨p, hp⟩
  calc (ofPairs ps).serviceCount
      = (ofPairs ps).serviceNames.length := (List.length_map Prod.fst).symm
    _ = (ofPairs ps).serviceNames.toFinset.card :=
        (List.toFinset_card_of_nodup (ofPairs ps).names_nodup).symm
    _ = (ps.map Prod.fst).toFinset.card := by rw [hsame]

/-! ## Main statement -/

/-- A run of registrations that starts from the empty catalog builds a catalog that is determined by
its pairs: another run builds the same one exactly when it has the same pairs, in whatever order and
however often. The services are listed in increasing order. A service has providers, and at least
one, exactly when a pair of the run is about it; otherwise it is not listed, and its providers are
those of its pairs. The number of pairs is that of the different pairs of the run, and as many
registrations brought a new one; the number of services is that of the different services. -/
theorem registerAll_outcome (ps : List (String × String)) :
    let run : List Bool × Catalog := registerAll ps ∅
    let answers := run.1
    let c := run.2
    (∀ qs, (registerAll qs ∅).2 = c ↔ ∀ pair, pair ∈ qs ↔ pair ∈ ps) ∧
    c.serviceNames.Pairwise (· < ·) ∧
    (∀ i, (∃ providers, c.providers? i = some providers ∧ providers ≠ ∅) ↔ ∃ p, (i, p) ∈ ps) ∧
    (∀ i, c.providers? i = none ↔ ∀ p, (i, p) ∉ ps) ∧
    (∀ i p, (∃ providers, c.providers? i = some providers ∧ p ∈ providers) ↔ (i, p) ∈ ps) ∧
    c.pairCount = ps.toFinset.card ∧
    c.pairCount = answers.count true ∧
    c.serviceCount = (ps.map Prod.fst).toFinset.card := by
  intro run answers c
  have hbuilt : ∀ qs, (registerAll qs ∅).2 = ofPairs qs := fun qs => registerAll_snd qs ∅
  have hc : c = ofPairs ps := hbuilt ps
  have hlisted : ∀ i, (∃ providers, c.providers? i = some providers) ↔ ∃ p, (i, p) ∈ ps := by
    intro i
    rw [hc]
    exact exists_providers?_ofPairs_iff
  refine ⟨?_, c.services.sorted, ?_, ?_, ?_, ?_, ?_, ?_⟩
  · intro qs
    rw [hc, hbuilt]
    exact ofPairs_eq_iff
  · -- emptiness of the providers is ruled out by the catalog itself
    intro i
    rw [← hlisted i]
    constructor
    · rintro ⟨providers, hproviders, -⟩
      exact ⟨providers, hproviders⟩
    · rintro ⟨providers, hproviders⟩
      exact ⟨providers, hproviders, ne_empty_of_providers? hproviders⟩
  · intro i
    rw [← not_exists, ← hlisted i, Option.eq_none_iff_forall_ne_some, not_exists]
  · intro i p
    rw [exists_providers?_iff, hc]
    exact lists_ofPairs
  · rw [hc]
    exact pairCount_ofPairs ps
  · -- the empty catalog has no pairs to begin with
    rw [count_registerAll ps ∅]
    exact Nat.zero_add _
  · rw [hc]
    exact serviceCount_ofPairs ps

/-- A pair that comes again is not new. -/
example : (registerAll [("x", "c"), ("y", "a"), ("x", "a"), ("x", "c")] ∅).1 =
    [true, true, true, false] := by decide

end Catalog

end ServiceCatalog
