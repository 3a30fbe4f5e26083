import ServiceCatalog.NameSet

/-!
# Maps from names

A map from names is kept as the list of its entries with strictly increasing names, so that equal
maps are equal values and every listing of a map comes out sorted.
-/

namespace ServiceCatalog

/-- A finite map from names. -/
structure NameMap (α : Type) where
  /-- The entries in increasing order of their names. -/
  entries : List (String × α)
  sorted : (entries.map Prod.fst).Pairwise (· < ·)

namespace NameMap

variable {α : Type}

/-- Puts an entry in its place in an increasing list, or replaces the entry of that name. -/
def insertSorted (n : String) (a : α) : List (String × α) → List (String × α)
  | [] => [(n, a)]
  | e :: es =>
    if n < e.1 then (n, a) :: e :: es
    else if e.1 < n then e :: insertSorted n a es
    else (n, a) :: es

theorem map_fst_insertSorted (n : String) (a : α) (es : List (String × α)) :
    (insertSorted n a es).map Prod.fst = NameSet.insertSorted n (es.map Prod.fst) := by
  induction es with
  | nil => rfl
  | cons e es ih =>
    simp only [insertSorted, List.map_cons, NameSet.insertSorted]
    split
    · rfl
    · split
      · simp [ih]
      · next hne hen => simp [NameSet.eq_of_not_lt hne hen]

/-- The map without entries. -/
def empty : NameMap α := ⟨[], NameSet.pairwise_nil⟩

instance : EmptyCollection (NameMap α) := ⟨empty⟩
instance : Inhabited (NameMap α) := ⟨empty⟩

/-- The map with the entry of one name set. -/
def insert (m : NameMap α) (n : String) (a : α) : NameMap α :=
  ⟨insertSorted n a m.entries, by
    rw [map_fst_insertSorted]
    exact NameSet.pairwise_insertSorted m.sorted⟩

/-- The value of a name, if it has one. -/
def find? (m : NameMap α) (n : String) : Option α := m.entries.lookup n

/-- The names that have a value, in increasing order. -/
def names (m : NameMap α) : List String := m.entries.map Prod.fst

/-- The number of entries. -/
def size (m : NameMap α) : Nat := m.entries.length

theorem lookup_insertSorted (x n : String) (a : α) (es : List (String × α)) :
    (insertSorted n a es).lookup x = if x = n then some a else es.lookup x := by
  induction es with
  | nil => simp only [insertSorted, List.lookup_cons, List.lookup_nil]; grind
  | cons e es ih =>
    rcases e with ⟨m, b⟩
    simp only [insertSorted]
    split
    · simp only [List.lookup_cons]; grind
    · split
      · next hmn =>
        have : n ≠ m := fun h => String.lt_irrefl n (h ▸ hmn)
        simp only [List.lookup_cons, ih]
        grind
      · next hnm hmn =>
        have : n = m := NameSet.eq_of_not_lt hnm hmn
        simp only [List.lookup_cons]
        grind

@[simp] theorem find?_empty (n : String) : (∅ : NameMap α).find? n = none := rfl

/-- Insertion sets the value of its name and leaves the others. -/
theorem find?_insert (m : NameMap α) (x n : String) (a : α) :
    (m.insert n a).find? x = if x = n then some a else m.find? x :=
  lookup_insertSorted x n a m.entries

theorem mem_entries_insertSorted {e : String × α} {n : String} {a : α} {es : List (String × α)}
    (h : e ∈ insertSorted n a es) : e = (n, a) ∨ e ∈ es := by
  induction es with
  | nil => simpa [insertSorted] using h
  | cons d ds ih =>
    simp only [insertSorted] at h
    split at h
    · simpa using h
    · split at h
      · rcases List.mem_cons.mp h with rfl | h
        · exact .inr List.mem_cons_self
        · exact (ih h).imp_right (List.mem_cons_of_mem _)
      · exact (List.mem_cons.mp h).imp_right (List.mem_cons_of_mem _)

theorem lookup_eq_some_iff {n : String} {a : α} {es : List (String × α)}
    (h : (es.map Prod.fst).Pairwise (· < ·)) : es.lookup n = some a ↔ (n, a) ∈ es := by
  induction es with
  | nil => simp
  | cons e es ih =>
    rcases e with ⟨m, b⟩
    rw [List.map_cons, List.pairwise_cons] at h
    by_cases hnm : n = m
    · subst hnm
      -- the names after it are greater
      have hnot : (n, a) ∉ es := by
        intro hmem
        exact String.lt_irrefl n (h.1 n (List.mem_map.mpr ⟨_, hmem, rfl⟩))
      simp only [List.lookup_cons_self, Option.some.injEq, List.mem_cons, Prod.mk.injEq, true_and,
        hnot, or_false]
      exact eq_comm
    · have hbeq : (n == m) = false := beq_eq_false_iff_ne.mpr hnm
      simp only [List.lookup_cons, hbeq, ih h.2, List.mem_cons, Prod.mk.injEq, hnm, false_and,
        false_or]

/-- The entries of a map are its names with their values. -/
theorem find?_eq_some_iff {m : NameMap α} {n : String} {a : α} :
    m.find? n = some a ↔ (n, a) ∈ m.entries :=
  lookup_eq_some_iff m.sorted

/-- Two maps with the same values are the same map. -/
theorem eq_of_same_values {m m' : NameMap α} (h : ∀ n, m.find? n = m'.find? n) : m = m' := by
  rcases m with ⟨as, ha⟩
  rcases m' with ⟨bs, hb⟩
  have hmem : ∀ e, e ∈ as ↔ e ∈ bs := by
    intro e
    rw [← lookup_eq_some_iff ha, ← lookup_eq_some_iff hb]
    exact iff_of_eq (congrArg (· = some e.2) (h e.1))
  have has : as.Pairwise fun d e => d.1 < e.1 := List.pairwise_map.mp ha
  have hbs : bs.Pairwise fun d e => d.1 < e.1 := List.pairwise_map.mp hb
  obtain rfl : as = bs := eq_of_pairwise String.lt_asymm has hbs hmem
  rfl

end NameMap

end ServiceCatalog
