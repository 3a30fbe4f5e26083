import ServiceCatalog.Symbol.Basic

/-!
# The services that a marker names

Nested lists in a marker's argument carry no meaning of their own: a marker names the references at
its leaves, each once, in the order of their first occurrence.
-/

namespace ServiceCatalog

/-- A list with a member put at its end, unless it is there already. -/
def appendNew {α : Type} [DecidableEq α] (found : List α) (a : α) : List α :=
  if a ∈ found then found else found ++ [a]

/-- The members of a list, each once, in the order of their first occurrence. -/
def firstOccurrences {α : Type} [DecidableEq α] : List α → List α
  | [] => []
  | a :: as => a :: (firstOccurrences as).filter (· ≠ a)

section FirstOccurrences

variable {α : Type} [DecidableEq α]

theorem mem_firstOccurrences {a : α} {as : List α} : a ∈ firstOccurrences as ↔ a ∈ as := by
  induction as with
  | nil => exact Iff.rfl
  | cons b as ih =>
    rw [firstOccurrences, List.mem_cons, List.mem_cons, List.mem_filter, ih, decide_eq_true_eq]
    by_cases hab : a = b <;> simp [hab]

/-- No member occurs twice. -/
theorem nodup_firstOccurrences (as : List α) : (firstOccurrences as).Nodup := by
  induction as with
  | nil => exact List.nodup_nil
  | cons a as ih =>
    rw [firstOccurrences, List.nodup_cons]
    exact ⟨by simp, ih.filter _⟩

/-- Putting members at the end of a list one after another adds the first occurrences of those that
were not there. -/
theorem foldl_appendNew (as found : List α) :
    as.foldl appendNew found = found ++ (firstOccurrences as).filter (· ∉ found) := by
  induction as generalizing found with
  | nil => simp [firstOccurrences]
  | cons a as ih =>
    rw [List.foldl_cons, ih, appendNew, firstOccurrences, List.filter_cons, List.filter_filter]
    by_cases hmem : a ∈ found
    · -- what was not there is not `a`
      have hsame : ∀ b, (decide (b ∉ found) && decide (b ≠ a)) = decide (b ∉ found) := by
        intro b
        by_cases hba : b = a <;> simp [hba, hmem]
      simp only [hmem, if_true, hsame, not_true_eq_false, decide_false, Bool.false_eq_true,
        if_false]
    · have hsame : ∀ b, (decide (b ∉ found) && decide (b ≠ a)) = decide (b ∉ found ++ [a]) := by
        intro b
        simp
      simp only [hmem, if_false, hsame, not_false_eq_true, decide_true, if_true,
        List.append_assoc, List.singleton_append]

end FirstOccurrences

namespace Marker

/-! ## Going through an argument -/

mutual

/-- Goes through an argument from left to right and puts each new reference at the end of those
found so far. -/
def collect : Marker → List DeclId → List DeclId
  | .ref target, found => appendNew found target
  | .list items, found => collectFromList items found

/-- Goes through a list of arguments one after another. -/
def collectFromList : List Marker → List DeclId → List DeclId
  | [], found => found
  | item :: items, found => collectFromList items (item.collect found)

end

/-- The services that an argument names. -/
def services (m : Marker) : List DeclId := m.collect []

/-! ## Leaves -/

mutual

/-- The references at the leaves of an argument, from left to right. -/
def leaves : Marker → List DeclId
  | .ref target => [target]
  | .list items => leavesOfList items

/-- The references at the leaves of a list of arguments, from left to right. -/
def leavesOfList : List Marker → List DeclId
  | [] => []
  | item :: items => item.leaves ++ leavesOfList items

end

mutual

/-- Going through an argument is going through its leaves, whatever has been found before. -/
theorem collect_eq : (m : Marker) → (found : List DeclId) →
    m.collect found = m.leaves.foldl appendNew found
  | .ref _, _ => rfl
  | .list items, found => collectFromList_eq items found

theorem collectFromList_eq : (items : List Marker) → (found : List DeclId) →
    collectFromList items found = (leavesOfList items).foldl appendNew found
  | [], _ => rfl
  | item :: items, found => by
    rw [collectFromList, leavesOfList, List.foldl_append, ← collect_eq item found]
    exact collectFromList_eq items (item.collect found)

end

/-- An argument names its leaves, each at its first occurrence. -/
theorem services_eq (m : Marker) : m.services = firstOccurrences m.leaves := by
  rw [services, collect_eq, foldl_appendNew, List.nil_append]
  apply List.filter_eq_self.mpr
  intro ref _
  exact decide_eq_true List.not_mem_nil

theorem mem_services {m : Marker} {ref : DeclId} : ref ∈ m.services ↔ ref ∈ m.leaves := by
  rw [services_eq, mem_firstOccurrences]

theorem nodup_services (m : Marker) : m.services.Nodup := by
  rw [services_eq]
  exact nodup_firstOccurrences m.leaves

theorem services_eq_nil_iff {m : Marker} : m.services = [] ↔ m.leaves = [] := by
  simp only [List.eq_nil_iff_forall_not_mem, mem_services]

end Marker

end ServiceCatalog
