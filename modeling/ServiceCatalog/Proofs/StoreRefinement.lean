import ServiceCatalog.Proofs.QuietRun

/-!
# Merging into two stores that answer alike

A merge asks its store for the content of a resource and to write a resource, and it looks at the
answers only. So if two stores answer these requests alike from corresponding states, and are left
in corresponding states, then merging the same services into both has the same results and reports
the same warnings. Notes may differ, because they tell where a resource is kept.

* `SameRead`: answers between which a merge sees no difference;
* `Store.Corresponds`: the requests about one resource answered alike;
* `mergeService_sameOutcome`, `mergeServices_sameOutcome`: one service, and services up to the first
  that fails;
* `mapM_mergeInto_sameOutcome`: catalogs one after another.
-/

namespace ServiceCatalog

/-! ## Answers -/

/-- Whether two answers to reading a resource say the same: they are the same answer, or both say
that there is nothing to read. -/
def SameRead (x y : Except Fault Bytes) : Prop :=
  x = y ∨ ∃ f g, x = .error f ∧ y = .error g ∧ f.isMissing = true ∧ g.isMissing = true

/-- What a resource names, and what is reported about reading it, does not depend on how it is said
that there is none. -/
theorem SameRead.existing {x y : Except Fault Bytes} (h : SameRead x y) (debug : Bool)
    (resource : String) : Merge.existing debug resource x = Merge.existing debug resource y := by
  rcases h with rfl | ⟨f, g, rfl, rfl, hf, hg⟩
  · rfl
  · simp only [Merge.existing, hf, hg, if_true]

/-- A result with all that is reported along with it apart from notes. -/
def reported {α : Type} (out : Journal × α) : Journal × α := (out.1.shown false, out.2)

section Stores

variable {σ τ : Type} {R : σ → τ → Prop} {a : Store (StateM σ)} {b : Store (StateM τ)} {s : σ}
  {t : τ} {debug : Bool}

/-- Whether two stores answer requests about a resource alike from states in a relation, and are
left in that relation. -/
structure Store.Corresponds (R : σ → τ → Prop) (a : Store (StateM σ)) (b : Store (StateM τ))
    (resource : String) : Prop where
  read : ∀ {s t}, R s t → ∃ x y, a.read resource s = (x, s) ∧ b.read resource t = (y, t) ∧
    SameRead x y
  write : ∀ {s t}, R s t → ∀ content, ∃ answer s' t',
    a.write resource content s = (answer, s') ∧ b.write resource content t = (answer, t') ∧ R s' t'

/-- Whether two runs have the same result, report the same apart from notes, and end in states in a
relation. -/
structure SameOutcome {α : Type} (R : σ → τ → Prop) (x : (Journal × α) × σ)
    (y : (Journal × α) × τ) : Prop where
  journal : x.1.1.shown false = y.1.1.shown false
  result : x.1.2 = y.1.2
  state : R x.2 y.2

/-! ## One service -/

/-- Merging providers into a resource about which both stores answer alike. -/
theorem mergeInto_sameOutcome {resource : String} (h : Store.Corresponds R a b resource)
    (hR : R s t) (ps : NameSet) :
    SameOutcome R (Merge.mergeInto debug a resource ps s)
      (Merge.mergeInto debug b resource ps t) := by
  -- the answers may differ in how they say that there is nothing, which no later step sees
  obtain ⟨x, y, hx, hy, hsame⟩ := h.read hR
  simp only [Merge.mergeInto]
  rw [bind_apply, bind_apply, hx, hy]
  simp only [hsame.existing]
  by_cases hold : ps ⊆ (Merge.existing debug resource y).1
  · simp only [if_pos hold, pure_apply]
    exact ⟨by simp only [Journal.shown_append, Journal.shown_log, Journal.log_false], rfl, hR⟩
  · simp only [if_neg hold, bind_apply, Merge.writeNames]
    cases Service.writeEntries ((Merge.existing debug resource y).1 ∪ ps).toList with
    | error bad =>
      simp only [pure_apply]
      exact ⟨by simp only [Journal.shown_append, Journal.shown_log, Journal.log_false], rfl, hR⟩
    | ok content =>
      -- both stores are asked to write the same content, and they answer alike
      obtain ⟨answer, s', t', hs', ht', hR'⟩ := h.write hR content
      simp only [hs', ht']
      cases answer with
      | error fault =>
        simp only [pure_apply]
        exact ⟨by simp only [Journal.shown_append, Journal.shown_log, Journal.log_false], rfl, hR'⟩
      | ok _ =>
        simp only [pure_apply]
        exact ⟨by simp only [Journal.shown_append, Journal.shown_log, Journal.log_false], rfl, hR'⟩

/-- Merging a service whose resource, if its name is fit, both stores answer alike about. -/
theorem mergeService_sameOutcome {i : String}
    (h : Service.nameFault? i = none → Store.Corresponds R a b (Service.resourceName i))
    (hR : R s t) (ps : NameSet) :
    SameOutcome R (Merge.mergeService debug a i ps s) (Merge.mergeService debug b i ps t) := by
  simp only [Merge.mergeService]
  cases hname : Service.nameFault? i with
  | some fault => exact ⟨rfl, rfl, hR⟩
  | none => exact mergeInto_sameOutcome (h hname) hR ps

/-! ## Runs of merges -/

/-- Merging a service and then others, unless it fails. -/
theorem mergeServices_cons (debug : Bool) (a : Store (StateM σ)) (i : String) (ps : NameSet)
    (es : List (String × NameSet)) (s : σ) :
    Merge.mergeServices debug a ((i, ps) :: es) s =
      let first := Merge.mergeService debug a i ps s
      match first.1.2 with
      | .error failure => ((first.1.1, .error failure), first.2)
      | .ok change =>
        let rest := Merge.mergeServices debug a es first.2
        ((first.1.1 ++ rest.1.1, rest.1.2.map fun report => change.record i report), rest.2) := by
  rw [Merge.mergeServices, bind_apply]
  rcases Merge.mergeService debug a i ps s with ⟨⟨journal, failure | change⟩, s'⟩ <;> rfl

/-- Merging services up to the first that fails. -/
theorem mergeServices_sameOutcome {es : List (String × NameSet)}
    (h : ∀ e ∈ es, Service.nameFault? e.1 = none →
      Store.Corresponds R a b (Service.resourceName e.1))
    (hR : R s t) :
    SameOutcome R (Merge.mergeServices debug a es s) (Merge.mergeServices debug b es t) := by
  -- the induction is on the services, with both states varying
  induction es generalizing s t with
  | nil => exact ⟨rfl, rfl, hR⟩
  | cons e es ih =>
    obtain ⟨i, ps⟩ := e
    rcases List.forall_mem_cons.mp h with ⟨hfirst, hrest⟩
    have hstep : SameOutcome R (Merge.mergeService debug a i ps s)
        (Merge.mergeService debug b i ps t) := mergeService_sameOutcome hfirst hR ps
    simp only [mergeServices_cons, hstep.result]
    cases (Merge.mergeService debug b i ps t).1.2 with
    | error failure => exact ⟨hstep.journal, rfl, hstep.state⟩
    | ok change =>
      have hlater := ih hrest hstep.state
      constructor
      · simp only [Journal.shown_append, hstep.journal, hlater.journal]
      · simp only [hlater.result]
      · exact hlater.state

/-- Merging catalogs one after another, each whether or not those before it succeeded: the results
and what is reported along with each of them are the same. -/
theorem mapM_mergeInto_sameOutcome {cs : List Catalog}
    (h : ∀ c ∈ cs, ∀ i ∈ c.serviceNames, Service.nameFault? i = none →
      Store.Corresponds R a b (Service.resourceName i))
    (hR : R s t) :
    let run := cs.mapM (fun c => c.mergeInto debug a) s
    let run' := cs.mapM (fun c => c.mergeInto debug b) t
    run.1.map reported = run'.1.map reported ∧ R run.2 run'.2 := by
  -- the induction is on the catalogs; a failed merge does not end the sequence
  induction cs generalizing s t with
  | nil => exact ⟨rfl, hR⟩
  | cons c cs ih =>
    rcases List.forall_mem_cons.mp h with ⟨hfirst, hrest⟩
    have hservices : ∀ e ∈ c.services.entries, Service.nameFault? e.1 = none →
        Store.Corresponds R a b (Service.resourceName e.1) :=
      fun e he => hfirst e.1 (List.mem_map_of_mem he)
    have hstep : SameOutcome R (c.mergeInto debug a s) (c.mergeInto debug b t) :=
      mergeServices_sameOutcome hservices hR
    have hreported : reported (c.mergeInto debug a s).1 = reported (c.mergeInto debug b t).1 :=
      Prod.ext hstep.journal hstep.result
    rcases ih hrest hstep.state with ⟨hmore, hR'⟩
    simp only [List.mapM_cons, bind_apply, pure_apply, List.map_cons]
    exact ⟨by rw [hreported, hmore], hR'⟩

end Stores

end ServiceCatalog
