import Mathlib.Data.List.Basic
import ServiceCatalog.Proofs.CleanCompilation
import ServiceCatalog.Proofs.Rewriting
import ServiceCatalog.Proofs.ScanCourse
import ServiceCatalog.Symbol.Check

/-!
# Names of declarations in catalogs

The check of a table looks at each simple name and each namespace by itself; a catalog holds the
binary names that they are put together to. Putting names together brings no defect, so the binary
names of a table without faults are trimmed and have neither path separators nor empty parts. A
service needs more than that, for its name must not have a blank anywhere, and so does a provider,
for its name must not have a line break or the sign of a comment. The check of a table looks for
neither, and these are the only ways in which its names can fail a merge.

* `nameDefect?_append`: two names without a defect may be joined by a dot or a dollar sign;
* `nameDefect?_binaryName`: the binary names of a table without faults have no defect;
* `catalog_origin`: a compilation finds binary names only;
* `declared_names_fit_iff`: which binary names are fit, and when a merge of them fails.
-/

namespace ServiceCatalog

/-- Whether a name has a blank. -/
def HasBlank (name : String) : Prop := ∃ c ∈ name.toList, Text.isBlank c = true

/-- Whether a name has a character that ends it within a line or ends the line. -/
def HasEntryEnd (name : String) : Prop := ∃ c ∈ name.toList, c = '\n' ∨ c = '\r' ∨ c = '#'

instance (name : String) : Decidable (HasBlank name) :=
  decidable_of_iff (name.toList.any Text.isBlank = true) List.any_eq_true

instance (name : String) : Decidable (HasEntryEnd name) :=
  decidable_of_iff ((name.toList.any fun c => c = '\n' ∨ c = '\r' ∨ c = '#') = true)
    (by simp only [List.any_eq_true, decide_eq_true_eq, HasEntryEnd])

/-! ## Names without a defect -/

section Defects

variable {a b name : String}

theorem ne_empty_of_nameDefect? (h : nameDefect? name = none) : name ≠ "" := by
  rintro rfl
  exact absurd h (by decide)

/-- Two names without a defect may be joined by any character but a path separator. -/
theorem nameDefect?_append {sep : String} {c : Char} (hsep : sep.toList = [c])
    (hc : c ≠ '/' ∧ c ≠ '\\') (ha : nameDefect? a = none) (hb : nameDefect? b = none) :
    nameDefect? (a ++ sep ++ b) = none := by
  have hane : a.toList ≠ [] := fun h => ne_empty_of_nameDefect? ha (String.toList_eq_nil_iff.mp h)
  have hbne : b.toList ≠ [] := fun h => ne_empty_of_nameDefect? hb (String.toList_eq_nil_iff.mp h)
  have hlist : (a ++ sep ++ b).toList = a.toList ++ c :: b.toList := by
    rw [String.toList_append, String.toList_append, hsep, List.append_assoc, List.singleton_append]
  rw [nameDefect?_eq_none_iff, Text.trimBlanks_eq_self_iff] at ha hb ⊢
  obtain ⟨⟨hfirst, -⟩, haSeparators, haParts⟩ := ha
  obtain ⟨⟨-, hlast⟩, hbSeparators, hbParts⟩ := hb
  rw [hlist]
  refine ⟨⟨?_, ?_⟩, ?_, Text.hasEmptyPart_append haParts hbParts c⟩
  -- neither name is empty, so the ends are those of the two names
  · intro d hd
    rw [List.head?_append_of_ne_nil _ hane] at hd
    exact hfirst d hd
  · intro d hd
    rw [List.getLast?_append_cons, List.getLast?_cons_of_ne_nil hbne] at hd
    exact hlast d hd
  · intro d hd
    rcases List.mem_append.mp hd with hd | hd
    · exact haSeparators d hd
    rcases List.mem_cons.mp hd with rfl | hd
    · exact hc
    · exact hbSeparators d hd

/-- Any number of names without a defect may be joined, if there is one. -/
theorem nameDefect?_intercalate {sep : String} {c : Char} (hsep : sep.toList = [c])
    (hc : c ≠ '/' ∧ c ≠ '\\') {names : List String} (hne : names ≠ [])
    (h : ∀ n ∈ names, nameDefect? n = none) : nameDefect? (sep.intercalate names) = none := by
  -- the induction is on the names: one more goes in front of the join of the later ones
  induction names with
  | nil => exact absurd rfl hne
  | cons n ns ih =>
    rcases List.forall_mem_cons.mp h with ⟨hn, hns⟩
    cases ns with
    | nil => rwa [String.intercalate_singleton]
    | cons m ms =>
      rw [String.intercalate_cons_cons]
      exact nameDefect?_append hsep hc hn (ih (List.cons_ne_nil m ms) hns)

/-- A name without a defect is fit for a service exactly if it has no blank. -/
theorem nameFault?_eq_none_iff_of_nameDefect? (h : nameDefect? name = none) :
    Service.nameFault? name = none ↔ ¬ HasBlank name := by
  have hne := ne_empty_of_nameDefect? h
  obtain ⟨-, hseparators, hparts⟩ := nameDefect?_eq_none_iff.mp h
  rw [Service.nameFault?_eq_none_iff]
  constructor
  · rintro ⟨-, hgood, -⟩ ⟨c, hc, hblank⟩
    have hbad := hgood c hc
    rw [Service.isBadCharacter, hblank, Bool.or_true] at hbad
    cases hbad
  · intro hnone
    -- a bad character is a separator or a blank, and there is none of either
    refine ⟨hne, ?_, hparts⟩
    intro c hc
    have hblank : Text.isBlank c = false := by
      rw [Bool.eq_false_iff]
      exact fun hblank => hnone ⟨c, hc, hblank⟩
    simp [Service.isBadCharacter, hseparators c hc, hblank]

/-- A name without a defect is fit to be written exactly if nothing in it ends it. -/
theorem isEntry_iff_of_nameDefect? (h : nameDefect? name = none) :
    Service.isEntry name = true ↔ ¬ HasEntryEnd name := by
  obtain ⟨htrim, -, -⟩ := nameDefect?_eq_none_iff.mp h
  rw [Service.isEntry_iff]
  constructor
  · rintro ⟨-, -, hchars⟩ ⟨c, hc, hend⟩
    obtain ⟨hfeed, hreturn, hcomment⟩ := hchars c hc
    rcases hend with hend | hend | hend
    · exact hfeed hend
    · exact hreturn hend
    · exact hcomment hend
  · intro hnone
    -- a name without a defect is trimmed already, so only the three characters can end it
    refine ⟨ne_empty_of_nameDefect? h, htrim, ?_⟩
    intro c hc
    refine ⟨?_, ?_, ?_⟩ <;> intro hend <;> refine hnone ⟨c, hc, ?_⟩
    · exact .inl hend
    · exact .inr (.inl hend)
    · exact .inr (.inr hend)

end Defects

/-! ## Binary names of a table without faults -/

/-- Whether a placement is made of names without a defect. -/
structure Placement.Sound (p : Placement) : Prop where
  namespaceName : p.namespaceName = "" ∨ nameDefect? p.namespaceName = none
  nonempty : p.names ≠ []
  names : ∀ n ∈ p.names, nameDefect? n = none

theorem Placement.Sound.nameDefect?_render {p : Placement} (h : p.Sound) {sep : String} {c : Char}
    (hsep : sep.toList = [c]) (hc : c ≠ '/' ∧ c ≠ '\\') : nameDefect? (p.render sep) = none := by
  have hdot : ".".toList = ['.'] := rfl
  have hname := nameDefect?_intercalate hsep hc h.nonempty h.names
  simp only [Placement.render]
  split
  · exact hname
  · next hnamed =>
    exact nameDefect?_append hdot (by decide) (h.namespaceName.resolve_left hnamed) hname

namespace SymbolTable

variable {t : SymbolTable}

theorem faults_of_mem {earlier : List DeclId} {ds : List Declaration}
    (h : t.faultsAfter earlier ds = []) {d : Declaration} (hd : d ∈ ds) :
    simpleNameDefects d = [] ∧ t.enclosingFaults d = [] := by
  induction ds generalizing earlier with
  | nil => cases hd
  | cons e ds ih =>
    obtain ⟨he, hds⟩ := List.append_eq_nil_iff.mp h
    rcases List.mem_cons.mp hd with rfl | hd
    · simp only [declarationFaults, List.append_eq_nil_iff] at he
      exact ⟨he.1.1.2, he.1.2⟩
    · exact ih hds hd

/-- In a table without faults, no simple name has a defect. -/
theorem nameDefect?_simpleName {d : Declaration} (h : t.faults = []) (hd : d ∈ t.declarations) :
    nameDefect? d.simpleName = none := by
  have hname := (faults_of_mem (List.append_eq_nil_iff.mp h).1 hd).1
  unfold simpleNameDefects at hname
  split at hname
  · cases hname
  · split at hname
    · cases hname
    · assumption

/-- In a table without faults, no namespace but the unnamed one has a defect. -/
theorem nameDefect?_namespace {d : Declaration} {name : String} (h : t.faults = [])
    (hd : d ∈ t.declarations) (htop : d.enclosing = .topLevel name) :
    name = "" ∨ nameDefect? name = none := by
  have henclosing := (faults_of_mem (List.append_eq_nil_iff.mp h).1 hd).2
  unfold enclosingFaults at henclosing
  simp only [htop] at henclosing
  split at henclosing
  · next hempty => exact .inl hempty
  · split at henclosing
    · cases henclosing
    · next hnone => exact .inr hnone

/-- In a table without faults, declarations stand where no name has a defect. -/
theorem sound_of_standsAt {id : DeclId} {name : String} {names : List String} (h : t.faults = [])
    (hstands : t.StandsAt id name names) : Placement.Sound ⟨name, names⟩ := by
  constructor
  · obtain ⟨x, d, -, hd, htop⟩ := hstands.exists_outermost
    exact nameDefect?_namespace h (List.mem_of_find?_eq_some hd) htop
  · exact hstands.names_ne_nil
  · intro n hn
    obtain ⟨d, hd, rfl⟩ := hstands.exists_declared hn
    exact nameDefect?_simpleName h hd

/-- The binary names of a table without faults have no defect. -/
theorem nameDefect?_binaryName (h : t.faults = []) {id : DeclId} {name : String}
    (hname : t.binaryName id = .ok name) : nameDefect? name = none := by
  unfold binaryName at hname
  cases hp : t.placement id with
  | error cause =>
    rw [hp] at hname
    cases hname
  | ok p =>
    rw [hp] at hname
    cases hname
    have hsound : p.Sound := sound_of_standsAt h (placement_eq_ok_iff.mp hp)
    exact hsound.nameDefect?_render rfl (by decide)

end SymbolTable

/-! ## Merges of declared names -/

/-- What blocks providers of a service, if none of their names has a defect. -/
theorem MemoryStore.blocked_iff_of_nameDefect? {s : MemoryStore} {i : String} {ps : NameSet}
    (hi : nameDefect? i = none) (hps : ∀ p ∈ ps, nameDefect? p = none) :
    s.Blocked i ps ↔ HasBlank i ∨ ¬ ps ⊆ s.listed i ∧
      ((∃ p ∈ ps, HasEntryEnd p) ∨ ¬ (s.listed i).WithoutReturn ∨
        Service.resourceName i ∈ s.refusedWrites) := by
  -- each cause is restated for names of which the defects are excluded
  have hname : Service.nameFault? i ≠ none ↔ HasBlank i := by
    rw [Ne, nameFault?_eq_none_iff_of_nameDefect? hi, not_not]
  have hnew : (∃ p ∈ ps, Service.isEntry p = false) ↔ ∃ p ∈ ps, HasEntryEnd p := by
    apply exists_congr
    intro p
    apply and_congr_right
    intro hp
    rw [← Bool.not_eq_true, isEntry_iff_of_nameDefect? (hps p hp), not_not]
  rw [blocked_iff_names, hname, hnew]

namespace SymbolTable

variable {t : SymbolTable} {o : Options} {rounds : Nat} {s s' : MemoryStore}
  {report : CompilationReport} {journal : Journal}

/-- A compilation ends without a merge exactly if a service that it found is blocked. -/
theorem merge_eq_none_iff (h : t.compile MemoryStore.store rounds o s = ((report, journal), s')) :
    report.merge = none ↔
      ∃ i ps, report.catalog.providers? i = some ps ∧ s.Blocked i ps := by
  have hreport := (compile_outcome t MemoryStore.store rounds o s).1
  rw [h] at hreport
  simp only at hreport
  rw [hreport]
  -- from here on it is about the merge of what was found
  generalize (Session.scanAll t (.start o) (List.range (max rounds 1))).1.catalog = found
  have hok := @Catalog.mergeInto_ok_iff found o.debug s
  rcases hmerge : found.mergeInto o.debug MemoryStore.store s with
    ⟨⟨merging, failure | merged⟩, st⟩
  · have hnot : ¬ ∀ i ps, found.providers? i = some ps → ¬ s.Blocked i ps := by
      rw [← hok, hmerge]
      rintro ⟨_, _, _, heq⟩
      cases heq
    push Not at hnot
    exact iff_of_true rfl hnot
  · have hall := hok.mp ⟨merging, merged, st, hmerge⟩
    refine iff_of_false (Option.some_ne_none merged) ?_
    rintro ⟨i, ps, hps, hblocked⟩
    exact hall i ps hps hblocked

/-- A compilation finds binary names only. -/
theorem catalog_origin (h : t.compile MemoryStore.store rounds o s = ((report, journal), s'))
    {i : String} {ps : NameSet} (hps : report.catalog.providers? i = some ps) :
    (∃ id, t.binaryName id = .ok i) ∧ ∀ p ∈ ps, ∃ id, t.binaryName id = .ok p := by
  -- every pair was found at an element and a service, both under their binary names
  have hpair : ∀ p ∈ ps, (∃ id, t.binaryName id = .ok i) ∧ ∃ id, t.binaryName id = .ok p := by
    intro p hp
    rw [← Catalog.providersOf_eq hps, Catalog.mem_providersOf] at hp
    obtain ⟨index, -, hmem⟩ := ((of_compile h).2.2.1 i p).mp hp
    obtain ⟨e, ref, -, hservice, hprovider, -⟩ := Scan.mem_pairs_ofRound.mp hmem
    exact ⟨⟨ref, hservice⟩, e, hprovider⟩
  -- a service is listed because of a provider
  obtain ⟨p, hp⟩ := (NameSet.nil_or_mem ps).resolve_left (Catalog.ne_empty_of_providers? hps)
  exact ⟨(hpair p hp).1, fun q hq => (hpair q hq).2⟩

/-- In a table without faults, a binary name is fit for a service exactly if it has no blank, and
fit to be written exactly if it has neither a line break nor the sign of a comment. So a compilation
of the table ends without a merge exactly if it finds a service with a blank in its name, or has
something to write for a service and finds a provider with one of the other characters in its name,
an old name has a carriage return, or writing the resource is refused. -/
theorem declared_names_fit_iff (h : t.faults = []) :
    (∀ id name, t.binaryName id = .ok name →
      (¬ HasBlank name ↔ Service.nameFault? name = none) ∧
      (¬ HasEntryEnd name ↔ Service.badEntry? [name] = none)) ∧
    ∀ rounds o s report journal s',
      t.compile MemoryStore.store rounds o s = ((report, journal), s') →
      (report.merge = none ↔ ∃ i ps, report.catalog.providers? i = some ps ∧
        (HasBlank i ∨ ¬ ps ⊆ s.listed i ∧
          ((∃ p ∈ ps, HasEntryEnd p) ∨ ¬ (s.listed i).WithoutReturn ∨
            Service.resourceName i ∈ s.refusedWrites))) := by
  constructor
  · intro id name hname
    have hsound := nameDefect?_binaryName h hname
    refine ⟨(nameFault?_eq_none_iff_of_nameDefect? hsound).symm, ?_⟩
    rw [Service.badEntry?_eq_none_iff, List.forall_mem_singleton,
      isEntry_iff_of_nameDefect? hsound]
  · -- what was found are binary names, and those have no defect
    intro rounds o s report journal s' hrun
    rw [merge_eq_none_iff hrun]
    apply exists_congr
    intro i
    apply exists_congr
    intro ps
    apply and_congr_right
    intro hps
    obtain ⟨⟨id, hservice⟩, hproviders⟩ := catalog_origin hrun hps
    refine MemoryStore.blocked_iff_of_nameDefect? (nameDefect?_binaryName h hservice) ?_
    intro p hp
    obtain ⟨pid, hprovider⟩ := hproviders p hp
    exact nameDefect?_binaryName h hprovider

/-- The names in the table with one provider are fit, and a compilation of it merges them. -/
theorem declared_names_fit_iff_oneProvider :
    Service.nameFault? "svc.Greeter" = none ∧ Service.badEntry? ["impl.English"] = none ∧
      (oneProvider.compile MemoryStore.store 1 ⟨true, true⟩ ∅).1.1.merge ≠ none := by
  obtain ⟨hnames, hmerge⟩ := @declared_names_fit_iff oneProvider rfl
  have hservice : oneProvider.binaryName ⟨"S"⟩ = .ok "svc.Greeter" := by cbv
  have hprovider : oneProvider.binaryName ⟨"P"⟩ = .ok "impl.English" := by cbv
  refine ⟨(hnames _ _ hservice).1.mp (by decide), (hnames _ _ hprovider).2.mp (by decide), ?_⟩
  intro hnone
  rcases hrun : oneProvider.compile MemoryStore.store 1 ⟨true, true⟩ ∅ with ⟨⟨report, journal⟩, s'⟩
  rw [hrun] at hnone
  obtain ⟨i, ps, hps, hbad⟩ := (hmerge _ _ _ _ _ _ hrun).mp hnone
  -- the only pair that was found is that of the service and its provider
  have honly : ∀ p ∈ ps, i = "svc.Greeter" ∧ p = "impl.English" := by
    intro p hp
    rw [← Catalog.providersOf_eq hps, Catalog.mem_providersOf] at hp
    obtain ⟨hrounds, -, hlists, -⟩ := of_compile hrun
    obtain ⟨index, hindex, hmem⟩ := (hlists i p).mp hp
    obtain rfl : index = 0 := by omega
    rw [scan_oneProvider] at hmem
    simpa [Scan.pairs, Finding.pair?, eq_comm] using hmem
  obtain ⟨p, hp⟩ := (NameSet.nil_or_mem ps).resolve_left (Catalog.ne_empty_of_providers? hps)
  obtain ⟨rfl, -⟩ := honly p hp
  -- each way to be blocked is ruled out for these names and the empty store
  rcases hbad with hblank | ⟨-, ⟨q, hq, hend⟩ | hreturn | hrefused⟩
  · exact absurd hblank (by decide)
  · rw [(honly q hq).2] at hend
    exact absurd hend (by decide)
  · exact absurd hreturn (by decide)
  · exact absurd hrefused (by decide)

/-- A table with a blank within the name of a service and the sign of a comment in the name of its
provider. -/
def unfitNames : SymbolTable where
  declarations :=
    [⟨⟨"S"⟩, "My Service", .interfaceType, .topLevel "svc", [], none⟩,
      ⟨⟨"P"⟩, "English#1", .classType, .topLevel "impl", [⟨"S"⟩], some (.ref ⟨"S"⟩)⟩]
  rounds := none

/-- A table without faults whose names are unfit: the service cannot have a resource, the provider
would not read back, and a compilation of the table ends without a merge. -/
theorem unfitNames_without_faults :
    unfitNames.faults = [] ∧
    unfitNames.binaryName ⟨"S"⟩ = .ok "svc.My Service" ∧
    Service.nameFault? "svc.My Service" = some (.badCharacter ' ') ∧
    unfitNames.binaryName ⟨"P"⟩ = .ok "impl.English#1" ∧
    Service.badEntry? ["impl.English#1"] = some "impl.English#1" ∧
    (unfitNames.compile MemoryStore.store 1 ⟨false, false⟩ ∅).1.1.merge = none := by
  refine ⟨rfl, by cbv, by decide, by cbv, by decide, ?_⟩
  have hscan : Scan.ofRound unfitNames false 0 =
      ⟨[.remark "Round 0: marked declarations [DeclId(\"P\")]",
        .remark "provider interface: svc.My Service",
        .remark "provider implementer: impl.English#1",
        .registered "svc.My Service" "impl.English#1"], none⟩ := by cbv
  have hround : List.range (max 1 1) = [0] := rfl
  simp only [compile_eq, hround, Session.scanAll_eq, Session.start, List.foldl_cons, List.foldl_nil,
    List.filterMap_cons, List.filterMap_nil, List.flatMap_cons, List.flatMap_nil,
    Session.roundJournal, Session.roundSummary?, hscan]
  decide +kernel

end SymbolTable

end ServiceCatalog
