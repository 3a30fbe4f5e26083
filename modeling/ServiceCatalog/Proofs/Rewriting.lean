import ServiceCatalog.Proofs.CatalogMerge

/-!
# Rewriting what others wrote

A resource may hold anything, but a merge writes its names back only if each of them is fit. Reading
makes its names fit but for one thing: a carriage return that ends no line stays in its name, and a
name with a carriage return is never written. So a resource can be rewritten exactly if no name in
it has a carriage return, and an old name stands in the way of new ones only by having one.

* `forall_isEntry_union_iff`: when the names of a resource and some providers are fit together;
* `mergeService_ok_iff`: when providers can be merged for a service, in any store;
* `blocked_iff_names`: what blocks providers of a service in a store in memory;
* `readable_rewritable_iff`: contents, services and catalogs together.
-/

namespace ServiceCatalog

/-- Whether no name in a set has a carriage return. -/
def NameSet.WithoutReturn (names : NameSet) : Prop := ∀ n ∈ names, '\r' ∉ n.toList

instance (names : NameSet) : Decidable names.WithoutReturn :=
  inferInstanceAs (Decidable (∀ n ∈ names.toList, '\r' ∉ n.toList))

namespace Service

/-- The names of a content pass the check exactly if none of them has a carriage return. -/
theorem badEntry?_eq_none_iff_of_read {content : Bytes} {names : NameSet}
    (h : readEntries? content = some names) :
    badEntry? names.toList = none ↔ names.WithoutReturn := by
  rw [badEntry?_eq_none_iff]
  constructor
  · intro hfit n hn
    exact (isEntry_iff_of_read h hn).mp (hfit n hn)
  · intro hreturn n hn
    exact (isEntry_iff_of_read h hn).mpr (hreturn n hn)

/-- A name in a resource is fit to be written unless it has a carriage return. -/
theorem isEntry_iff_of_mem_named {content : Except Fault Bytes} {n : String}
    (hn : n ∈ named content) : isEntry n = true ↔ '\r' ∉ n.toList := by
  obtain ⟨c, -, hread⟩ := read_of_mem_named hn
  exact isEntry_iff_of_read hread hn

/-- What a resource names and some providers are fit together exactly if none of the old names has a
carriage return and all of the new ones are fit. -/
theorem forall_isEntry_union_iff {content : Except Fault Bytes} {ps : NameSet} :
    (∀ n ∈ named content ∪ ps, isEntry n = true) ↔
      (named content).WithoutReturn ∧ ∀ p ∈ ps, isEntry p = true := by
  constructor
  · intro hfit
    constructor
    · intro n hn
      exact (isEntry_iff_of_mem_named hn).mp (hfit n (NameSet.mem_union.mpr (.inl hn)))
    · intro p hp
      exact hfit p (NameSet.mem_union.mpr (.inr hp))
  · rintro ⟨hreturn, hps⟩ n hn
    rcases NameSet.mem_union.mp hn with hn | hn
    · exact (isEntry_iff_of_mem_named hn).mpr (hreturn n hn)
    · exact hps n hn

/-- Fit names may be added to those of a resource exactly if none of the old ones has a carriage
return. -/
theorem badEntry?_union_eq_none_iff {content : Except Fault Bytes} {ps : NameSet}
    (hps : ∀ p ∈ ps, isEntry p = true) :
    badEntry? (named content ∪ ps).toList = none ↔ (named content).WithoutReturn := by
  rw [badEntry?_eq_none_iff]
  exact forall_isEntry_union_iff.trans (and_iff_left hps)

end Service

/-! ## Services -/

/-- Fit providers can be merged for a service with a fit name exactly if there is nothing to write
or no old name has a carriage return, whatever the store, if it is read without being changed and
accepts what is written. -/
theorem Merge.mergeService_ok_iff {σ : Type} {store : Store (StateM σ)} {s : σ} {i : String}
    {content : Except Fault Bytes} {debug : Bool} {ps : NameSet}
    (hread : store.read (Service.resourceName i) s = (content, s))
    (hwrite : ∀ bytes, ∃ s', store.write (Service.resourceName i) bytes s = (.ok (), s'))
    (hname : Service.nameFault? i = none) (hps : ∀ p ∈ ps, Service.isEntry p = true) :
    (∃ journal change s', mergeService debug store i ps s = ((journal, .ok change), s')) ↔
      ps ⊆ Service.named content ∨ (Service.named content).WithoutReturn := by
  obtain ⟨journal, -, hrun⟩ := mergeService_run hread debug ps
  rw [hrun, hname, ← Service.badEntry?_union_eq_none_iff hps]
  -- nothing is written if all providers are there already, and then no name is checked again
  by_cases hold : ps ⊆ Service.named content
  · simp only [if_pos hold]
    exact ⟨fun _ => .inl hold, fun _ => ⟨_, _, _, rfl⟩⟩
  simp only [if_neg hold]
  -- otherwise the check of the union decides: refused at its first unfit name, or written
  cases Service.badEntry? (Service.named content ∪ ps).toList with
  | some name =>
    constructor
    · rintro ⟨_, _, _, hrefused⟩
      cases hrefused
    · rintro (hnothing | hfit)
      · exact absurd hnothing hold
      · cases hfit
  | none =>
    obtain ⟨s', hs'⟩ := hwrite (Service.writeLines (Service.named content ∪ ps).toList)
    simp only [hs']
    exact ⟨fun _ => .inr trivial, fun _ => ⟨_, _, _, rfl⟩⟩

namespace MemoryStore

/-- What blocks providers of a service: its unfit name, or, if there is something to write, an unfit
new name, an old name with a carriage return or the refusal to write. -/
theorem blocked_iff_names {s : MemoryStore} {i : String} {ps : NameSet} :
    s.Blocked i ps ↔ Service.nameFault? i ≠ none ∨ ¬ ps ⊆ s.listed i ∧
      ((∃ p ∈ ps, Service.isEntry p = false) ∨ ¬ (s.listed i).WithoutReturn ∨
        Service.resourceName i ∈ s.refusedWrites) := by
  have hold : (∃ n, n ∈ s.listed i ∪ ps ∧ Service.isEntry n = false) ↔
      ¬ ∀ n ∈ s.listed i ∪ ps, Service.isEntry n = true := by
    simp
  have hnew : (∃ p ∈ ps, Service.isEntry p = false) ↔ ¬ ∀ p ∈ ps, Service.isEntry p = true := by
    simp
  -- the unfit names of the union come from the providers or from the old content
  rw [Blocked, hold, hnew, listed_eq_named, Service.forall_isEntry_union_iff, not_and_or, or_assoc,
    or_left_comm]

end MemoryStore

/-! ## Catalogs -/

namespace Catalog

/-- The names of a content that can be read pass the check exactly if none of them has a carriage
return, and then they can be written and read back. So what a resource holds already never stands in
the way of merging fit providers, except by an old name with a carriage return when there is
something to write: for a service in any store that accepts what is written, and for a catalog in a
store in memory that refuses none of its services. -/
theorem readable_rewritable_iff :
    (∀ content names, Service.readEntries? content = some names →
      (names.WithoutReturn ↔ Service.badEntry? names.toList = none) ∧
      (names.WithoutReturn → ∃ rewritten, Service.writeEntries names.toList = .ok rewritten ∧
        Service.readEntries? rewritten = some names)) ∧
    (∀ (σ : Type) (store : Store (StateM σ)) (debug : Bool) (s : σ) (i : String) (content : Bytes)
      (names ps : NameSet),
      store.read (Service.resourceName i) s = (.ok content, s) →
      Service.readEntries? content = some names →
      (∀ bytes, ∃ s', store.write (Service.resourceName i) bytes s = (.ok (), s')) →
      Service.nameFault? i = none → (∀ p ∈ ps, Service.isEntry p = true) →
      ((∃ journal change s', Merge.mergeService debug store i ps s = ((journal, .ok change), s')) ↔
        ps ⊆ names ∨ names.WithoutReturn)) ∧
    ∀ (c : Catalog) (debug : Bool) (s : MemoryStore),
      (∀ i ps, c.providers? i = some ps → Service.nameFault? i = none ∧
        (∀ p ∈ ps, Service.isEntry p = true) ∧ Service.resourceName i ∉ s.refusedWrites) →
      ((∃ journal report s', c.mergeInto debug MemoryStore.store s = ((journal, .ok report), s')) ↔
        ∀ i ps, c.providers? i = some ps → ps ⊆ s.listed i ∨ (s.listed i).WithoutReturn) := by
  refine ⟨?_, ?_, ?_⟩
  · intro content names hread
    have hcheck := Service.badEntry?_eq_none_iff_of_read hread
    refine ⟨hcheck.symm, ?_⟩
    intro hreturn
    have hfit := hcheck.mpr hreturn
    refine ⟨Service.writeLines names.toList, by rw [Service.writeEntries, hfit], ?_⟩
    exact Service.readEntries?_writeLines (Service.badEntry?_eq_none_iff.mp hfit)
  · intro σ store debug s i content names ps hread hnames hwrite hname hps
    have hnamed : Service.named (.ok content) = names := by
      rw [Service.named, hnames, Option.getD_some]
    rw [Merge.mergeService_ok_iff hread hwrite hname hps, hnamed]
  · intro c debug s hfit
    rw [mergeInto_ok_iff]
    apply forall_congr'
    intro i
    apply forall_congr'
    intro ps
    apply imp_congr_right
    intro hi
    obtain ⟨hname, hps, hwrite⟩ := hfit i ps hi
    have hnew : ¬ ∃ p ∈ ps, Service.isEntry p = false := by simpa using hps
    -- of the ways to be blocked only a carriage return in an old name is left
    rw [MemoryStore.blocked_iff_names]
    simp only [hname, hnew, hwrite, ne_eq, not_true_eq_false, false_or, or_false, not_and_or,
      not_not]

/-- A resource with comments and carriage returns at the ends of its lines is rewritten, by itself
and by a merge. -/
theorem readable_rewritable_iff_lineEnds :
    let content := Utf8.encode "x # old\r\n\r\ny\r\n"
    let names := NameSet.ofList ["x", "y"]
    let s := (∅ : MemoryStore).put "META-INF/services/a" content
    (∃ rewritten, Service.writeEntries names.toList = .ok rewritten ∧
      Service.readEntries? rewritten = some names) ∧
    (∃ journal change s',
      Merge.mergeService true MemoryStore.store "a" (NameSet.ofList ["p"]) s =
        ((journal, .ok change), s')) ∧
    ∃ journal report s',
      (ofPairs [("a", "p")]).mergeInto true MemoryStore.store s = ((journal, .ok report), s') := by
  intro content names s
  obtain ⟨hcontent, hservice, hcatalog⟩ := readable_rewritable_iff
  have hread : Service.readEntries? content = some names := by decide
  have hreturn : names.WithoutReturn := by decide
  have hlisted : s.listed "a" = names := by decide
  refine ⟨(hcontent content names hread).2 hreturn, ?_, ?_⟩
  · refine (hservice _ _ true s "a" content names _ rfl hread ?_ rfl (by decide)).mpr (.inr hreturn)
    intro bytes
    exact ⟨_, rfl⟩
  · -- the catalog has one service, with one provider
    have honly : ∀ i ps, (ofPairs [("a", "p")]).providers? i = some ps →
        i = "a" ∧ ps = NameSet.ofList ["p"] := by
      intro i ps hi
      have hentry := mem_entries_iff.mpr hi
      exact Prod.mk.injEq .. ▸ List.mem_singleton.mp hentry
    refine (hcatalog _ true s ?_).mpr ?_
    · intro i ps hi
      obtain ⟨rfl, rfl⟩ := honly i ps hi
      exact ⟨rfl, by decide, by decide⟩
    · intro i ps hi
      obtain ⟨rfl, rfl⟩ := honly i ps hi
      exact .inr (hlisted ▸ hreturn)

/-- A content that can be read but not rewritten: the carriage return within its line stays in the
name, the check rejects the name, and a merge of a fit provider into the resource fails for it. -/
theorem return_within_line_not_rewritable :
    let content := Utf8.encode "x\ry\n"
    let names := NameSet.ofList ["x\ry"]
    Service.readEntries? content = some names ∧
    Service.badEntry? names.toList = some "x\ry" ∧
    Service.nameFault? "a" = none ∧ Service.isEntry "p" = true ∧
    ∃ journal s',
      (ofPairs [("a", "p")]).mergeInto true MemoryStore.store
        ((∅ : MemoryStore).put "META-INF/services/a" content) =
        ((journal, .error (.unwritable "META-INF/services/a" (.badEntry "x\ry"))), s') := by
  exact ⟨by decide, by decide, by decide, by decide, _, _, rfl⟩

end Catalog

end ServiceCatalog
