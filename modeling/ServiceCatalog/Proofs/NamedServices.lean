import Mathlib.Data.List.Basic
import ServiceCatalog.NameSet
import ServiceCatalog.Symbol.Marker

/-!
# Services named by nested markers

The services that a marker names are found while its argument is gone through, and what has been
found so far decides what is new. The order of the leaves alone decides the outcome: a service
stands where it occurs first, and there is one list only that has the leaves as its members in that
order. How the leaves are nested plays no part.

* `pairwise_firstOccurrences`: first occurrences stand in the order of their positions;
* `eq_firstOccurrences`: no other list has the same members in this order;
* `Marker.pairwise_services`, `Marker.eq_services`: the same for the services of a marker;
* `Marker.services_of_leaves`: the services of a marker, in terms of its leaves.
-/

namespace ServiceCatalog

section FirstOccurrences

variable {α : Type} [DecidableEq α]

/-- First occurrences stand in the order of their positions. -/
theorem pairwise_firstOccurrences (as : List α) :
    (firstOccurrences as).Pairwise fun a b => as.idxOf a < as.idxOf b := by
  induction as with
  | nil => exact List.Pairwise.nil
  | cons a as ih =>
    -- with one more element in front, every other one is found one place later
    have hlater : ∀ b, b ≠ a → (a :: as).idxOf b = as.idxOf b + 1 := by
      intro b hb
      exact List.idxOf_cons_ne as (Ne.symm hb)
    have hother : ∀ b ∈ (firstOccurrences as).filter (· ≠ a), b ≠ a := by
      intro b hb
      exact of_decide_eq_true (List.mem_filter.mp hb).2
    rw [firstOccurrences, List.pairwise_cons]
    constructor
    · -- the new element is at place zero, before all others
      intro b hb
      rw [List.idxOf_cons_self, hlater b (hother b hb)]
      exact Nat.succ_pos _
    · -- among the others each place is one higher, which keeps their order
      apply (ih.filter _).imp_of_mem
      intro b c hb hc hlt
      rw [hlater b (hother b hb), hlater c (hother c hc)]
      exact Nat.succ_lt_succ hlt

/-- No other list has the same members in the order of their first positions. -/
theorem eq_firstOccurrences {as bs : List α} (hmem : ∀ a, a ∈ bs ↔ a ∈ as)
    (hordered : bs.Pairwise fun a b => as.idxOf a < as.idxOf b) : bs = firstOccurrences as := by
  apply eq_of_pairwise Nat.lt_asymm hordered (pairwise_firstOccurrences as)
  intro a
  rw [hmem, mem_firstOccurrences]

end FirstOccurrences

namespace Marker

/-! ## Services and leaves -/

/-- Services stand in the order in which they occur first. -/
theorem pairwise_services (m : Marker) :
    m.services.Pairwise fun a b => m.leaves.idxOf a < m.leaves.idxOf b := by
  rw [services_eq]
  exact pairwise_firstOccurrences m.leaves

/-- The leaves and their order determine the services. -/
theorem eq_services {m : Marker} {refs : List DeclId} (hmem : ∀ ref, ref ∈ refs ↔ ref ∈ m.leaves)
    (hordered : refs.Pairwise fun a b => m.leaves.idxOf a < m.leaves.idxOf b) :
    refs = m.services := by
  rw [services_eq]
  exact eq_firstOccurrences hmem hordered

/-! ## Main statement -/

/-- A marker names the references at its leaves and no others, none of them twice, in the order in
which they occur first from left to right, and no other list does so. Markers with the same leaves
from left to right name the same services in the same order, however their leaves are nested, and a
marker names no service exactly when it has no leaf. -/
theorem services_of_leaves (m : Marker) :
    m.services.Nodup ∧
    (∀ ref, ref ∈ m.services ↔ ref ∈ m.leaves) ∧
    m.services.Pairwise (fun a b => m.leaves.idxOf a < m.leaves.idxOf b) ∧
    (∀ refs : List DeclId, (∀ ref, ref ∈ refs ↔ ref ∈ m.leaves) →
      refs.Pairwise (fun a b => m.leaves.idxOf a < m.leaves.idxOf b) → refs = m.services) ∧
    (∀ n : Marker, n.leaves = m.leaves → n.services = m.services) ∧
    (m.services = [] ↔ m.leaves = []) := by
  refine ⟨m.nodup_services, fun _ => mem_services, m.pairwise_services,
    fun _ hmem hordered => eq_services hmem hordered, ?_, services_eq_nil_iff⟩
  intro n hleaves
  -- the services of `n` satisfy for `m` what determines the list, since both have the same leaves
  apply eq_services
  · intro ref
    rw [mem_services, hleaves]
  · rw [← hleaves]
    exact n.pairwise_services

/-- Two markers with the same leaves, one of them nested more deeply, with a repeated reference and
an empty list in it. -/
theorem services_of_leaves_nested :
    let m := Marker.list [.ref ⟨"A"⟩, .list [.ref ⟨"B"⟩, .ref ⟨"A"⟩], .ref ⟨"C"⟩]
    let n := Marker.list [.list [.list [.ref ⟨"A"⟩], .ref ⟨"B"⟩], .list [],
      .list [.ref ⟨"A"⟩, .list [.ref ⟨"C"⟩]]]
    n.leaves = m.leaves ∧ m.services = [⟨"A"⟩, ⟨"B"⟩, ⟨"C"⟩] ∧ n.services = m.services := by
  intro m n
  -- the leaves are computed; that the services agree is the theorem, not a second computation
  have hleaves : n.leaves = m.leaves := by decide
  obtain ⟨-, -, -, -, hsame, -⟩ := services_of_leaves m
  exact ⟨hleaves, by decide, hsame n hleaves⟩

end Marker

end ServiceCatalog
