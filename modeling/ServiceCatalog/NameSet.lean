/-!
# Sets of names

A set of names is kept as its strictly increasing list, so that equal sets are equal values and
every listing of a set comes out sorted. Names are compared by their code points.
-/

namespace ServiceCatalog

/-! ## Lists in strict order -/

section StrictOrder

variable {α : Type} {r : α → α → Prop} {as bs : List α}

/-- In a list in strict order, no member occurs twice. -/
theorem nodup_of_pairwise (hr : ∀ {a b}, r a b → ¬ r b a) (h : as.Pairwise r) : as.Nodup := by
  apply h.imp
  rintro a _ hlt rfl
  exact hr hlt hlt

/-- Lists in the same strict order are equal if they have the same members. -/
theorem eq_of_pairwise (hr : ∀ {a b}, r a b → ¬ r b a) (ha : as.Pairwise r) (hb : bs.Pairwise r)
    (h : ∀ a, a ∈ as ↔ a ∈ bs) : as = bs := by
  have hperm : as.Perm bs :=
    (List.perm_ext_iff_of_nodup (nodup_of_pairwise hr ha) (nodup_of_pairwise hr hb)).mpr h
  apply hperm.eq_of_pairwise _ ha hb
  intro a b _ _ hab hba
  exact absurd hba (hr hab)

end StrictOrder

/-- A finite set of names. -/
structure NameSet where
  /-- The members in increasing order. -/
  toList : List String
  sorted : toList.Pairwise (· < ·)
deriving DecidableEq

namespace NameSet

/-! ## Ordered insertion -/

/-- Puts a name in its place in an increasing list, unless it is there already. -/
def insertSorted (n : String) : List String → List String
  | [] => [n]
  | m :: ms =>
    if n < m then n :: m :: ms
    else if m < n then m :: insertSorted n ms
    else m :: ms

theorem eq_of_not_lt {a b : String} (hab : ¬ a < b) (hba : ¬ b < a) : a = b :=
  String.le_antisymm (String.not_lt.mp hba) (String.not_lt.mp hab)

theorem mem_insertSorted {x n : String} {ms : List String} :
    x ∈ insertSorted n ms ↔ x = n ∨ x ∈ ms := by
  induction ms with
  | nil => simp [insertSorted]
  | cons m ms ih =>
    simp only [insertSorted]
    split
    · simp
    · split
      · simp only [List.mem_cons, ih]
        grind
      · next hnm hmn =>
        have : n = m := eq_of_not_lt hnm hmn
        simp [this]

theorem pairwise_insertSorted {n : String} {ms : List String} (h : ms.Pairwise (· < ·)) :
    (insertSorted n ms).Pairwise (· < ·) := by
  induction ms with
  | nil => simp [insertSorted]
  | cons m ms ih =>
    rw [List.pairwise_cons] at h
    simp only [insertSorted]
    split
    · next hnm =>
      refine List.pairwise_cons.mpr ⟨fun x hx => ?_, List.pairwise_cons.mpr h⟩
      rcases List.mem_cons.mp hx with rfl | hx
      · exact hnm
      · exact String.lt_trans hnm (h.1 x hx)
    · split
      · next hmn =>
        refine List.pairwise_cons.mpr ⟨fun x hx => ?_, ih h.2⟩
        rcases mem_insertSorted.mp hx with rfl | hx
        · exact hmn
        · exact h.1 x hx
      · exact List.pairwise_cons.mpr h

/-! ## Operations -/

instance : Membership String NameSet := ⟨fun s n => n ∈ s.toList⟩

theorem mem_def {n : String} {s : NameSet} : n ∈ s ↔ n ∈ s.toList := Iff.rfl

instance (n : String) (s : NameSet) : Decidable (n ∈ s) :=
  inferInstanceAs (Decidable (n ∈ s.toList))

theorem pairwise_nil : ([] : List String).Pairwise (· < ·) := List.Pairwise.nil

/-- The set without members. -/
def empty : NameSet := ⟨[], pairwise_nil⟩

instance : EmptyCollection NameSet := ⟨empty⟩
instance : Inhabited NameSet := ⟨empty⟩

/-- The set with one more member. -/
def insert (s : NameSet) (n : String) : NameSet :=
  ⟨insertSorted n s.toList, pairwise_insertSorted s.sorted⟩

/-- The set of the names in a list. -/
def ofList (ns : List String) : NameSet := ns.foldl insert empty

/-- The names that are in one of two sets. -/
def union (s t : NameSet) : NameSet := t.toList.foldl insert s

instance : Union NameSet := ⟨union⟩

/-- The number of members. -/
def size (s : NameSet) : Nat := s.toList.length

/-- Whether there is no member. -/
def isEmpty (s : NameSet) : Bool := s.toList.isEmpty

instance : HasSubset NameSet := ⟨fun s t => ∀ n ∈ s.toList, n ∈ t⟩

instance (s t : NameSet) : Decidable (s ⊆ t) :=
  inferInstanceAs (Decidable (∀ n ∈ s.toList, n ∈ t))

/-! ## Members -/

@[simp] theorem not_mem_empty (n : String) : n ∉ (∅ : NameSet) := List.not_mem_nil

@[simp] theorem mem_insert {x n : String} {s : NameSet} : x ∈ s.insert n ↔ x = n ∨ x ∈ s :=
  mem_insertSorted

theorem mem_foldl_insert {x : String} {ns : List String} {s : NameSet} :
    x ∈ ns.foldl insert s ↔ x ∈ s ∨ x ∈ ns := by
  induction ns generalizing s with
  | nil => simp
  | cons n ns ih => simp only [List.foldl_cons, ih, mem_insert, List.mem_cons]; grind

@[simp] theorem mem_ofList {x : String} {ns : List String} : x ∈ ofList ns ↔ x ∈ ns := by
  rw [ofList, mem_foldl_insert]
  exact or_iff_right (not_mem_empty x)

@[simp] theorem mem_union {x : String} {s t : NameSet} : x ∈ s ∪ t ↔ x ∈ s ∨ x ∈ t :=
  mem_foldl_insert

/-- Two sets with the same members are the same set. -/
theorem eq_of_same_members {s t : NameSet} (h : ∀ n, n ∈ s ↔ n ∈ t) : s = t := by
  rcases s with ⟨as, ha⟩
  rcases t with ⟨bs, hb⟩
  obtain rfl : as = bs := eq_of_pairwise String.lt_asymm ha hb h
  rfl

theorem nil_or_mem (s : NameSet) : s = ∅ ∨ ∃ n, n ∈ s := by
  rcases s with ⟨ns, h⟩
  cases ns with
  | nil => exact .inl rfl
  | cons n ns => exact .inr ⟨n, List.mem_cons_self⟩

theorem subset_trans {s t u : NameSet} (hst : s ⊆ t) (htu : t ⊆ u) : s ⊆ u := by
  intro n hn
  exact htu n (hst n hn)

@[simp] theorem empty_subset (s : NameSet) : ∅ ⊆ s := by
  intro n hn
  exact absurd hn (not_mem_empty n)

theorem subset_union_left (s t : NameSet) : s ⊆ s ∪ t := by
  intro n hn
  exact mem_union.mpr (.inl hn)

theorem subset_union_right (s t : NameSet) : t ⊆ s ∪ t := by
  intro n hn
  exact mem_union.mpr (.inr hn)

theorem union_subset_iff {s t u : NameSet} : s ∪ t ⊆ u ↔ s ⊆ u ∧ t ⊆ u := by
  constructor
  · intro h
    exact ⟨subset_trans (subset_union_left s t) h, subset_trans (subset_union_right s t) h⟩
  · rintro ⟨hs, ht⟩ n hn
    rcases mem_union.mp hn with hn | hn
    · exact hs n hn
    · exact ht n hn

@[simp] theorem empty_union (s : NameSet) : ∅ ∪ s = s := by
  apply eq_of_same_members
  intro n
  simp only [mem_union, not_mem_empty, false_or]

@[simp] theorem union_empty (s : NameSet) : s ∪ ∅ = s := rfl

theorem eq_empty_of_subset {s : NameSet} (h : s ⊆ ∅) : s = ∅ := by
  rcases nil_or_mem s with hs | ⟨n, hn⟩
  · exact hs
  · exact absurd (h n hn) (not_mem_empty n)

theorem union_eq_empty_iff {s t : NameSet} : s ∪ t = ∅ ↔ s = ∅ ∧ t = ∅ := by
  constructor
  · intro h
    have hs : s ⊆ ∅ := h ▸ subset_union_left s t
    have ht : t ⊆ ∅ := h ▸ subset_union_right s t
    exact ⟨eq_empty_of_subset hs, eq_empty_of_subset ht⟩
  · rintro ⟨rfl, rfl⟩
    rfl

theorem union_assoc (s t u : NameSet) : s ∪ t ∪ u = s ∪ (t ∪ u) := by
  apply eq_of_same_members
  intro n
  simp only [mem_union, or_assoc]

theorem ofList_append (ns ms : List String) : ofList (ns ++ ms) = ofList ns ∪ ofList ms := by
  apply eq_of_same_members
  intro n
  simp only [mem_ofList, mem_union, List.mem_append]

/-- A union with a subset adds nothing. -/
theorem union_eq_left {s t : NameSet} (h : t ⊆ s) : s ∪ t = s := by
  apply eq_of_same_members
  intro n
  rw [mem_union]
  exact or_iff_left_of_imp (h n)

end NameSet

end ServiceCatalog
