import ServiceCatalog.Merge

/-!
# Merging one service into any store

Whatever the store, merging the providers of a service comes down to what the resource names, which
is known from reading it, and to one request to write, which is made only if there is something new
and all names read back.

* `Service.named`: what a resource names, given the result of reading it;
* `Merge.mergeService_run`: what merging a service answers and leaves.
-/

namespace ServiceCatalog

/-- What is logged is no error. -/
theorem Journal.severity_of_mem_log {debug : Bool} {message : String} :
    ∀ d ∈ log debug message, d.severity ≠ .error := by
  cases debug <;> simp [log, Diagnostic.note]

theorem Journal.severity_append {j k : Journal} (hj : ∀ d ∈ j, d.severity ≠ .error)
    (hk : ∀ d ∈ k, d.severity ≠ .error) : ∀ d ∈ j ++ k, d.severity ≠ .error :=
  List.forall_mem_append.mpr ⟨hj, hk⟩

/-! ## What a resource names -/

namespace Service

variable {content : Except Fault Bytes}

/-- The providers that a resource names, given the result of reading it. One that cannot be read or
is not well-formed names none. -/
def named : Except Fault Bytes → NameSet
  | .ok content => (readEntries? content).getD ∅
  | .error _ => ∅

theorem existing_named (debug : Bool) (resource : String) (content : Except Fault Bytes) :
    (Merge.existing debug resource content).1 = named content := by
  cases content with
  | error fault =>
    rw [Merge.existing, named]
    split <;> rfl
  | ok content =>
    simp only [Merge.existing, named]
    cases readEntries? content <;> rfl

/-- A resource that names a provider was read. -/
theorem read_of_mem_named {n : String} (h : n ∈ named content) :
    ∃ c, content = .ok c ∧ readEntries? c = some (named content) := by
  cases content with
  | error fault => exact absurd h (NameSet.not_mem_empty n)
  | ok c =>
    refine ⟨c, rfl, ?_⟩
    simp only [named] at h ⊢
    cases hread : readEntries? c with
    | none =>
      rw [hread, Option.getD_none] at h
      exact absurd h (NameSet.not_mem_empty n)
    | some names => rw [Option.getD_some]

end Service

/-! ## The merge of a service -/

namespace Merge

/-- Reading a resource is reported as a note, as a warning or not at all. -/
theorem severity_existing (debug : Bool) (resource : String) (content : Except Fault Bytes) :
    ∀ d ∈ (existing debug resource content).2, d.severity ≠ .error := by
  cases content with
  | error fault =>
    rw [existing]
    split
    · exact Journal.severity_of_mem_log
    · simp [Diagnostic.warning]
  | ok content =>
    rw [existing]
    split
    · exact Journal.severity_of_mem_log
    · simp [Diagnostic.warning]

/-- Merging a service into a store that is read without being changed. The name of the service, what
the resource names and the names to write are looked at in this order, and the store is asked to
write only if none of them stands in the way. No error is reported. -/
theorem mergeService_run {σ : Type} {store : Store (StateM σ)} {s : σ} {i : String}
    {content : Except Fault Bytes} (hread : store.read (Service.resourceName i) s = (content, s))
    (debug : Bool) (ps : NameSet) :
    ∃ journal : Journal, (∀ d ∈ journal, d.severity ≠ .error) ∧
      mergeService debug store i ps s =
        match Service.nameFault? i with
        | some fault =>
          ((journal, .error (.unwritable (Service.resourceName i) (.badServiceName i fault))), s)
        | none =>
          if ps ⊆ Service.named content then ((journal, .ok .unchanged), s)
          else
            match Service.badEntry? (Service.named content ∪ ps).toList with
            | some name =>
              ((journal, .error (.unwritable (Service.resourceName i) (.badEntry name))), s)
            | none =>
              match store.write (Service.resourceName i)
                (Service.writeLines (Service.named content ∪ ps).toList) s with
              | (.error fault, s') =>
                ((journal, .error (.unwritable (Service.resourceName i) fault)), s')
              | (.ok (), s') => ((journal, .ok .written), s') := by
  unfold mergeService
  -- a fault of the name comes before all that reads the store
  cases Service.nameFault? i with
  | some fault => exact ⟨[], by simp, rfl⟩
  | none =>
    simp only [mergeInto]
    rw [bind_apply, hread]
    simp only [Service.existing_named]
    let resource := Service.resourceName i
    let opening := Journal.log debug ("Working on resource file: " ++ resource) ++
      Journal.log debug ("Looking for existing resource file at " ++ store.describe resource)
    -- all that is reported up to the decision is a note or a warning
    have hreading : ∀ d ∈ opening ++ (existing debug resource content).2, d.severity ≠ .error :=
      Journal.severity_append
        (Journal.severity_append Journal.severity_of_mem_log Journal.severity_of_mem_log)
        (severity_existing debug resource content)
    -- nothing is written, or the union is, if it passes the check and the store accepts it
    by_cases hold : ps ⊆ Service.named content
    · simp only [if_pos hold]
      exact ⟨_, Journal.severity_append hreading Journal.severity_of_mem_log, rfl⟩
    · simp only [if_neg hold, bind_apply, writeNames, Service.writeEntries]
      have hwriting : ∀ d ∈ opening ++ (existing debug resource content).2 ++
          Journal.log debug ("New service file contents: " ++
            quoteNames (Service.named content ∪ ps)), d.severity ≠ .error :=
        Journal.severity_append hreading Journal.severity_of_mem_log
      cases Service.badEntry? (Service.named content ∪ ps).toList with
      | some name => exact ⟨_, hwriting, rfl⟩
      | none =>
        simp only
        rcases store.write (Service.resourceName i)
          (Service.writeLines (Service.named content ∪ ps).toList) s with ⟨fault | _, s'⟩
        · exact ⟨_, hwriting, rfl⟩
        · exact ⟨_, Journal.severity_append hwriting Journal.severity_of_mem_log, rfl⟩

end Merge

end ServiceCatalog
