import ServiceCatalog.Proofs.CleanCompilation

/-!
# Sessions after any history of calls

A session may be called in any order: with rounds that bring declarations after the last one, with
several last rounds, with another table and another store at each call. Whatever the history, the
catalog is the union of what the scans found, and only the first last round touches a store.

* `step_call`: what one call does to a session;
* `lists_afterCalls`, `scans_afterCalls`, `finished_afterCalls`, `merge_afterCalls`: what a history
  of calls has done to each part of a session;
* `history_outcome`: all of this for a session from its start, and what each call in the history
  does to its store.
-/

namespace ServiceCatalog.Session

/-! ## Calls -/

/-- A call of a session: a round over a table, with the store as it is then. -/
structure Call where
  table : SymbolTable
  round : Round
  store : MemoryStore

/-- The scan of the round of a call into a catalog. -/
def Call.scan (c : Call) (o : Options) (found : Catalog) :
    Except SymbolError ScanSummary × Catalog × Journal :=
  c.table.scan o.verify o.debug c.round.index found

/-- The findings of the scan of a call. -/
def Call.findings (c : Call) (o : Options) : Scan := Scan.ofRound c.table o.verify c.round.index

/-- The summary of a call that brings declarations, if its scan does not stop. -/
def Call.summary? (o : Options) (c : Call) : Option ScanSummary :=
  if c.round.last then none else (c.scan o ∅).1.toOption

/-- The session, the journal and the store after a call. -/
def call (s : Session) (c : Call) : (Session × Journal) × MemoryStore :=
  s.handle MemoryStore.store c.table c.round c.store

/-- The session after calls one after another. -/
def afterCalls (s : Session) (calls : List Call) : Session :=
  calls.foldl (fun s c => (s.call c).1.1) s

variable {s : Session} {c : Call} {calls before later : List Call} {o : Options}

theorem afterCalls_append :
    s.afterCalls (before ++ later) = (s.afterCalls before).afterCalls later := by
  rw [afterCalls, afterCalls, afterCalls, List.foldl_append]

/-! ## One call -/

/-- A call that brings declarations leaves its store alone. -/
theorem call_regular (h : c.round.last = false) :
    s.call c = (s.scanRound c.table c.round.index, c.store) := by
  rw [call, handle, if_neg (by rw [h]; exact Bool.false_ne_true)]
  rfl

/-- The first last round merges what was found before it. -/
theorem call_end (h : c.round.last = true) (hopen : s.finished = false) :
    let merged := s.catalog.mergeInto s.options.debug MemoryStore.store c.store
    (s.call c).1.1 = { s with finished := true, merge := merged.1.2.toOption.or s.merge } ∧
      (s.call c).2 = merged.2 := by
  rw [call, handle, if_pos h]
  exact finish_run MemoryStore.store s c.store hopen

/-- A last round after the first one is only warned about. -/
theorem call_repeatedEnd (h : c.round.last = true) (hfinished : s.finished = true) :
    s.call c = ((s, [repeatedEnd]), c.store) := by
  rw [call, handle, if_pos h, finish, if_pos hfinished]
  rfl

/-- What one call does to the parts of a session. -/
structure Step (s : Session) (c : Call) (s' : Session) : Prop where
  options : s'.options = s.options
  catalog : ∀ i p, s'.catalog.lists i p = true ↔
    s.catalog.lists i p = true ∨ c.round.last = false ∧ (i, p) ∈ (c.findings s.options).pairs
  scans : s'.scans = s.scans ++ (c.summary? s.options).toList
  finished : s'.finished = (s.finished || c.round.last)
  merge : s.finished = true ∨ c.round.last = false → s'.merge = s.merge

theorem step_call (s : Session) (c : Call) : s.Step c (s.call c).1.1 := by
  -- a call brings declarations, is the first last round or is a last round once more
  cases hlast : c.round.last with
  | false =>
    rw [call_regular hlast, scanRound_eq]
    refine ⟨rfl, ?_, ?_, ?_, ?_⟩
    · intro i p
      rw [hlast]
      simp only [true_and]
      exact Scan.lists_addTo
    · simp only [Call.summary?, hlast, Bool.false_eq_true, if_false, roundSummary?, Scan.outcome,
        Call.scan, SymbolTable.scan_eq]
      cases (Scan.ofRound c.table s.options.verify c.round.index).stop <;> rfl
    · rw [hlast, Bool.or_false]
    · intro _
      rfl
  | true =>
    have hnone : ∀ o, c.summary? o = none := by
      intro o
      rw [Call.summary?, if_pos hlast]
    cases hfinished : s.finished with
    | false =>
      rw [(call_end hlast hfinished).1]
      refine ⟨rfl, ?_, ?_, ?_, ?_⟩
      · simp [hlast]
      · simp [hnone]
      · rw [hlast, Bool.or_true]
      · rintro (h | h)
        · exact absurd (hfinished.symm.trans h) Bool.false_ne_true
        · exact absurd (h.symm.trans hlast) Bool.false_ne_true
    | true =>
      rw [call_repeatedEnd hlast hfinished]
      refine ⟨rfl, ?_, ?_, ?_, ?_⟩
      · simp [hlast]
      · simp [hnone]
      · rw [hlast, hfinished, Bool.or_true]
      · intro _
        rfl

/-! ## Histories of calls -/

theorem options_afterCalls (s : Session) (calls : List Call) :
    (s.afterCalls calls).options = s.options := by
  induction calls generalizing s with
  | nil => rfl
  | cons c calls ih =>
    have hrest : (s.afterCalls (c :: calls)) = (s.call c).1.1.afterCalls calls := rfl
    rw [hrest, ih, (step_call s c).options]

/-- Every call that brings declarations adds the pairs of its scan, and no call loses a pair. -/
theorem lists_afterCalls {i p : String} :
    (s.afterCalls calls).catalog.lists i p = true ↔ s.catalog.lists i p = true ∨
      ∃ c ∈ calls, c.round.last = false ∧ (i, p) ∈ (c.findings s.options).pairs := by
  induction calls generalizing s with
  | nil => simp [afterCalls]
  | cons c calls ih =>
    have hstep := step_call s c
    have hrest : (s.afterCalls (c :: calls)) = (s.call c).1.1.afterCalls calls := rfl
    rw [hrest, ih, hstep.options, hstep.catalog, or_assoc]
    simp only [List.mem_cons, exists_eq_or_imp]

theorem scans_afterCalls (s : Session) (calls : List Call) :
    (s.afterCalls calls).scans = s.scans ++ calls.filterMap (Call.summary? s.options) := by
  -- the induction is on the calls; each one adds its summary, if it has one
  induction calls generalizing s with
  | nil => simp [afterCalls]
  | cons c calls ih =>
    have hstep := step_call s c
    have hrest : (s.afterCalls (c :: calls)) = (s.call c).1.1.afterCalls calls := rfl
    have hcons : (c :: calls).filterMap (Call.summary? s.options) =
        (c.summary? s.options).toList ++ calls.filterMap (Call.summary? s.options) := by
      cases h : c.summary? s.options <;> simp [h]
    rw [hrest, ih, hstep.options, hstep.scans, hcons, List.append_assoc]

theorem finished_afterCalls :
    (s.afterCalls calls).finished = true ↔
      s.finished = true ∨ ∃ c ∈ calls, c.round.last = true := by
  induction calls generalizing s with
  | nil => simp [afterCalls]
  | cons c calls ih =>
    have hrest : (s.afterCalls (c :: calls)) = (s.call c).1.1.afterCalls calls := rfl
    rw [hrest, ih, (step_call s c).finished, Bool.or_eq_true, or_assoc]
    simp only [List.mem_cons, exists_eq_or_imp]

/-- The report of a merge stays what it is once a last round has come, and until one comes. -/
theorem merge_afterCalls (h : s.finished = true ∨ ∀ c ∈ calls, c.round.last = false) :
    (s.afterCalls calls).merge = s.merge := by
  induction calls generalizing s with
  | nil => rfl
  | cons c calls ih =>
    have hstep := step_call s c
    have hrest : (s.afterCalls (c :: calls)) = (s.call c).1.1.afterCalls calls := rfl
    -- no later call merges: the session is finished, or no last round comes
    rcases h with hfinished | hregular
    · have hlater : (s.call c).1.1.finished = true := by
        rw [hstep.finished, hfinished, Bool.true_or]
      rw [hrest, ih (.inl hlater), hstep.merge (.inl hfinished)]
    · rcases List.forall_mem_cons.mp hregular with ⟨hc, hcalls⟩
      rw [hrest, ih (.inr hcalls), hstep.merge (.inr hc)]

/-! ## Main statement -/

/-- After any history of calls from the start of a session: the catalog lists what the scans of the
calls that brought declarations would each find for an empty catalog, whether they stopped or not;
the summaries are those of the scans that did not stop, in order; and the session is finished
exactly when a last round has come. A call that brings declarations leaves its store alone and loses
no pair. The first last round merges the catalog found before it into its store, and the report of
that merge, if it succeeded, is the report of the session from then on. All other last rounds are
warned about and change nothing. -/
theorem history_outcome (o : Options) (calls : List Call) :
    let s := (start o).afterCalls calls
    (∀ i p, s.catalog.lists i p = true ↔
      ∃ c ∈ calls, c.round.last = false ∧ (c.scan o ∅).2.1.lists i p = true) ∧
    s.scans = calls.filterMap (Call.summary? o) ∧
    (s.finished = true ↔ ∃ c ∈ calls, c.round.last = true) ∧
    ((∀ c ∈ calls, c.round.last = false) → s.merge = none) ∧
    ∀ before c later, calls = before ++ c :: later →
      let s₀ := (start o).afterCalls before
      let out := s₀.call c
      let merged := s₀.catalog.mergeInto o.debug MemoryStore.store c.store
      (∀ i p, s₀.catalog.lists i p = true → s.catalog.lists i p = true) ∧
      (c.round.last = false → out.2 = c.store) ∧
      (c.round.last = true → (∀ b ∈ before, b.round.last = false) →
        out.2 = merged.2 ∧ s.merge = merged.1.2.toOption) ∧
      (c.round.last = true → (∃ b ∈ before, b.round.last = true) →
        out = ((s₀, [repeatedEnd]), c.store)) := by
  intro s
  refine ⟨?_, ?_, ?_, ?_, ?_⟩
  · intro i p
    simp only [s, lists_afterCalls, start, Call.scan, SymbolTable.scan_eq, Call.findings,
      Scan.lists_addTo, Catalog.lists_empty, Bool.false_eq_true, false_or]
  · simp only [s, scans_afterCalls, start, List.nil_append]
  · simp only [s, finished_afterCalls, start, Bool.false_eq_true, false_or]
  · intro hregular
    exact merge_afterCalls (.inr hregular)
  · intro before c later hcalls s₀ out merged
    -- the call is one step, and the later calls start from what it leaves
    have hafter : s = (s₀.call c).1.1.afterCalls later := by
      simp only [s, hcalls, afterCalls_append]
      rfl
    have hfinished : s₀.finished = true ↔ ∃ b ∈ before, b.round.last = true := by
      simp only [s₀, finished_afterCalls, start, Bool.false_eq_true, false_or]
    refine ⟨?_, ?_, ?_, ?_⟩
    · intro i p hlists
      rw [hafter, lists_afterCalls, (step_call s₀ c).catalog]
      exact .inl (.inl hlists)
    · intro hlast
      simp only [out, call_regular hlast]
    · intro hlast hregular
      -- no last round has come before, so the session is still open
      have hopen : s₀.finished = false := by
        rw [Bool.eq_false_iff, Ne, hfinished]
        rintro ⟨b, hb, hend⟩
        exact absurd ((hregular b hb).symm.trans hend) Bool.false_ne_true
      have hoptions : s₀.options = o := options_afterCalls (start o) before
      rcases call_end hlast hopen with ⟨hsession, hstore⟩
      rw [hoptions] at hsession hstore
      refine ⟨hstore, ?_⟩
      -- the call has finished the session, so no later call changes the report
      have hclosed : (s₀.call c).1.1.finished = true := by rw [hsession]
      have hnone : s₀.merge = none := merge_afterCalls (.inr hregular)
      rw [hafter, merge_afterCalls (.inl hclosed), hsession, hnone]
      exact Option.or_none
    · intro hlast hend
      exact call_repeatedEnd hlast (hfinished.mpr hend)

/-- A last round that comes first merges nothing, for good: the declarations that come after it are
found, but the last round after them is only warned about. -/
theorem history_outcome_endFirst :
    let t := SymbolTable.oneProvider
    let calls : List Call := [⟨t, ⟨0, true⟩, ∅⟩, ⟨t, ⟨0, false⟩, ∅⟩, ⟨t, ⟨1, true⟩, ∅⟩]
    let s := (start ⟨true, true⟩).afterCalls calls
    let s₀ := (start ⟨true, true⟩).afterCalls (calls.take 2)
    s.catalog.lists "svc.Greeter" "impl.English" = true ∧ s.finished = true ∧
      s.merge = some ⟨[], []⟩ ∧ s₀.call ⟨t, ⟨1, true⟩, ∅⟩ = ((s₀, [repeatedEnd]), ∅) := by
  intro t calls s s₀
  rcases history_outcome ⟨true, true⟩ calls with ⟨hlists, -, hfinished, -, hcalls⟩
  -- the second call finds the pair, also when it starts from nothing
  have hpair : ((⟨t, ⟨0, false⟩, ∅⟩ : Call).scan ⟨true, true⟩ ∅).2.1.lists "svc.Greeter"
      "impl.English" = true := by
    simp only [Call.scan, t, SymbolTable.scan_eq, SymbolTable.scan_oneProvider]
    decide
  have hlisted : s.catalog.lists "svc.Greeter" "impl.English" = true :=
    (hlists _ _).mpr ⟨⟨t, ⟨0, false⟩, ∅⟩, by simp [calls], rfl, hpair⟩
  have hends : s.finished = true := hfinished.mpr ⟨⟨t, ⟨0, true⟩, ∅⟩, by simp [calls], rfl⟩
  rcases hcalls [] _ _ rfl with ⟨-, -, hfirst, -⟩
  rcases hcalls (calls.take 2) _ [] rfl with ⟨-, -, -, hagain⟩
  have hmerge : s.merge = some ⟨[], []⟩ := (hfirst rfl (by simp)).2
  exact ⟨hlisted, hends, hmerge, hagain rfl ⟨⟨t, ⟨0, true⟩, ∅⟩, by simp [calls], rfl⟩⟩

end ServiceCatalog.Session
