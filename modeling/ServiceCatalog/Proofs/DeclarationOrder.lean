import Mathlib.Data.List.Nodup
import ServiceCatalog.Proofs.CleanCompilation

/-!
# Compilations and the order of declarations

A scan of a declaration asks the table for declarations by their identifiers and for nothing else,
so it does not depend on where they stand in the table. If no scan stops, a compilation finds the
pairs of all marked declarations that its rounds list, however they are spread over the rounds.

* `SameLookups.ofElement`: tables with the same look-ups have the same scans of declarations;
* `stop_scans_iff`, `mem_pairs_scans_iff`: the scans of all rounds, read off the identifiers that
  the rounds list;
* `compile_of_perm`: the order of the declarations, and the order and the rounds in which they come,
  do not matter to what a compilation finds and writes.
-/

namespace ServiceCatalog

namespace SymbolTable

/-! ## Tables with the same look-ups -/

/-- Whether two tables have the same declaration for every identifier. -/
def SameLookups (t u : SymbolTable) : Prop := ∀ id, t.find? id = u.find? id

section SameLookups

variable {t u : SymbolTable}

theorem SameLookups.resolve (h : t.SameLookups u) (ref : DeclId) :
    t.resolve ref = u.resolve ref := by
  rw [SymbolTable.resolve, SymbolTable.resolve, h ref]

theorem SameLookups.marker (h : t.SameLookups u) (id : DeclId) : t.marker id = u.marker id := by
  rw [SymbolTable.marker, SymbolTable.marker, h id]

theorem SameLookups.isMarked (h : t.SameLookups u) (id : DeclId) :
    t.isMarked id = u.isMarked id := by
  rw [SymbolTable.isMarked, SymbolTable.isMarked, h id]

/-- The search for a supertype takes the same steps in both tables. -/
theorem SameLookups.reaches (h : t.SameLookups u) (goal : DeclId) (visited pending : List DeclId) :
    t.reaches goal visited pending = u.reaches goal visited pending := by
  -- the cases are those of the search: nothing pending, the goal, visited, not declared, declared
  induction visited, pending using SymbolTable.reaches.induct t goal with
  | case1 visited => rw [reaches_nil, reaches_nil]
  | case2 visited pending => rw [reaches_cons, reaches_cons, if_pos rfl, if_pos rfl]
  | case3 visited id pending hgoal hid ih =>
    rw [reaches_cons, reaches_cons, if_neg hgoal, if_neg hgoal, if_pos hid, if_pos hid, ih]
  | case4 visited id pending hgoal hid hnone ih =>
    rw [reaches_cons, reaches_cons, if_neg hgoal, if_neg hgoal, if_neg hid, if_neg hid, ← h id,
      hnone]
    exact ih
  | case5 visited id pending hgoal hid d hd ih =>
    rw [reaches_cons, reaches_cons, if_neg hgoal, if_neg hgoal, if_neg hid, if_neg hid, ← h id, hd]
    exact ih

theorem SameLookups.isSubtype (h : t.SameLookups u) (sub sup : DeclId) :
    t.isSubtype sub sup = u.isSubtype sub sup := by
  rw [SymbolTable.isSubtype, SymbolTable.isSubtype, h sub, h sup, h.reaches]

/-- The way outwards through enclosing declarations is the same in both tables. -/
theorem SameLookups.placementFrom (h : t.SameLookups u) (origin : DeclId) (visited : List DeclId)
    (inner : List String) (id : DeclId) :
    t.placementFrom origin visited inner id = u.placementFrom origin visited inner id := by
  -- the cases are those of the way outwards: not declared, visited, a namespace, one step further
  induction visited, inner, id using SymbolTable.placementFrom.induct t with
  | case1 visited inner id hnone => rw [placementFrom_eq, placementFrom_eq, ← h id, hnone]
  | case2 visited inner id d hd hid =>
    rw [placementFrom_eq, placementFrom_eq, ← h id, hd]
    simp only [if_pos hid]
  | case3 visited inner id d hd hid name hname =>
    rw [placementFrom_eq, placementFrom_eq, ← h id, hd]
    simp only [if_neg hid, hname]
  | case4 visited inner id d hd hid outer houter ih =>
    rw [placementFrom_eq, placementFrom_eq, ← h id, hd]
    simp only [if_neg hid, houter, ih]

theorem SameLookups.binaryName (h : t.SameLookups u) (id : DeclId) :
    t.binaryName id = u.binaryName id := by
  rw [SymbolTable.binaryName, SymbolTable.binaryName, placement, placement, h.placementFrom]

theorem SameLookups.qualifiedName (h : t.SameLookups u) (id : DeclId) :
    t.qualifiedName id = u.qualifiedName id := by
  rw [SymbolTable.qualifiedName, SymbolTable.qualifiedName, placement, placement, h.placementFrom]

theorem SameLookups.accepts (h : t.SameLookups u) (verify : Bool) (provider service : DeclId) :
    Scan.accepts t verify provider service = Scan.accepts u verify provider service := by
  rw [Scan.accepts, Scan.accepts, h.isSubtype]

theorem SameLookups.ofPair (h : t.SameLookups u) (verify : Bool) (element : DeclId)
    (provider : String) (ref : DeclId) :
    Scan.ofPair t verify element provider ref = Scan.ofPair u verify element provider ref := by
  unfold Scan.ofPair
  simp only [h.resolve, h.qualifiedName, h.accepts, h.binaryName]

/-- Tables with the same look-ups have the same scans of declarations. -/
theorem SameLookups.ofElement (h : t.SameLookups u) (verify : Bool) (element : DeclId) :
    Scan.ofElement t verify element = Scan.ofElement u verify element := by
  have hpair : ∀ provider, Scan.ofPair t verify element provider =
      Scan.ofPair u verify element provider := by
    intro provider
    funext ref
    exact h.ofPair verify element provider ref
  unfold Scan.ofElement
  simp only [h.marker, h.qualifiedName, h.binaryName, hpair]

end SameLookups

/-! ## Declarations with distinct identifiers -/

/-- The declaration of an identifier is the only one that has it. -/
theorem find?_eq_some_iff {t : SymbolTable} (h : (t.declarations.map (·.id)).Nodup) {id : DeclId}
    {d : Declaration} : t.find? id = some d ↔ d ∈ t.declarations ∧ d.id = id := by
  constructor
  · intro hd
    exact ⟨List.mem_of_find?_eq_some hd, id_of_find? hd⟩
  · rintro ⟨hmem, rfl⟩
    cases hfind : t.find? d.id with
    | none => exact absurd (List.find?_eq_none.mp hfind d hmem) (by simp)
    | some e =>
      -- another declaration of the identifier would be another one in the list
      have he : e ∈ t.declarations := List.mem_of_find?_eq_some hfind
      rw [List.inj_on_of_nodup_map h he hmem (id_of_find? hfind)]

/-- The order of declarations with distinct identifiers does not matter to look-ups. -/
theorem sameLookups_of_perm {t u : SymbolTable} (h : (t.declarations.map (·.id)).Nodup)
    (hperm : u.declarations.Perm t.declarations) : t.SameLookups u := by
  have h' : (u.declarations.map (·.id)).Nodup := (hperm.map (·.id)).nodup_iff.mpr h
  intro id
  apply Option.ext
  intro d
  rw [find?_eq_some_iff h, find?_eq_some_iff h', hperm.mem_iff]

end SymbolTable

namespace Scan

/-! ## Scans that do not stop -/

theorem stop_followedBy_iff {first next : Scan} :
    (first.followedBy next).stop = none ↔ first.stop = none ∧ next.stop = none := by
  unfold followedBy
  cases first.stop <;> simp

/-- Scans that do not stop register the pairs of each of them. -/
theorem pairs_sequence {scans : List Scan} (h : (sequence scans).stop = none) :
    (sequence scans).pairs = scans.flatMap pairs := by
  induction scans with
  | nil => rfl
  | cons s scans ih =>
    rw [sequence_cons] at h ⊢
    -- a sequence that does not stop consists of scans that do not
    rcases stop_followedBy_iff.mp h with ⟨hfirst, hrest⟩
    have hpairs : (s.followedBy (sequence scans)).pairs = s.pairs ++ (sequence scans).pairs := by
      rw [followedBy, hfirst]
      exact List.filterMap_append
    rw [hpairs, ih hrest, List.flatMap_cons]

theorem stop_ofRound_iff {t : SymbolTable} {verify : Bool} {index : Nat} :
    (ofRound t verify index).stop = none ↔
      ∀ e ∈ t.markedIn index, (ofElement t verify e).stop = none := by
  have hstop : (ofRound t verify index).stop =
      (sequence ((t.markedIn index).map (ofElement t verify))).stop := rfl
  rw [hstop, stop_sequence_map, List.findSome?_eq_none_iff]

theorem pairs_ofRound {t : SymbolTable} {verify : Bool} {index : Nat}
    (h : (ofRound t verify index).stop = none) :
    (ofRound t verify index).pairs =
      (t.markedIn index).flatMap fun e => (ofElement t verify e).pairs := by
  have hpairs : (ofRound t verify index).pairs =
      (sequence ((t.markedIn index).map (ofElement t verify))).pairs := rfl
  rw [hpairs, pairs_sequence h, List.flatMap_map]

end Scan

namespace SymbolTable

open Session

/-! ## The scans of all rounds -/

section Rounds

variable {t : SymbolTable} {rounds : List (List DeclId)} {verify : Bool}

theorem max_roundCount (t : SymbolTable) : max t.roundCount 1 = t.roundCount := by
  unfold roundCount
  cases t.rounds <;> simp

/-- The marked declarations of all rounds are those that some round lists. -/
theorem mem_markedIn_iff (h : t.rounds = some rounds) {e : DeclId} :
    (∃ index < t.roundCount, e ∈ t.markedIn index) ↔
      (∃ ids ∈ rounds, e ∈ ids) ∧ t.isMarked e = true := by
  simp only [markedIn, roundCount, h]
  constructor
  · -- an identifier that is found by its index is listed, and the other way round it has an index
    rintro ⟨index, -, he⟩
    cases hids : rounds[index]? with
    | none =>
      rw [hids] at he
      exact absurd he List.not_mem_nil
    | some ids =>
      simp only [hids, List.mem_filter] at he
      exact ⟨⟨ids, List.mem_of_getElem? hids, he.1⟩, he.2⟩
  · rintro ⟨⟨ids, hids, he⟩, hmarked⟩
    rcases List.mem_iff_getElem?.mp hids with ⟨index, hindex⟩
    have hlt : index < rounds.length := (List.getElem?_eq_some_iff.mp hindex).1
    refine ⟨index, by omega, ?_⟩
    simp only [hindex, List.mem_filter]
    exact ⟨he, hmarked⟩

/-- No scan stops exactly when none stops at a marked declaration that some round lists. -/
theorem stop_scans_iff (h : t.rounds = some rounds) :
    (∀ index < t.roundCount, (Scan.ofRound t verify index).stop = none) ↔
      ∀ e, (∃ ids ∈ rounds, e ∈ ids) → t.isMarked e = true →
        (Scan.ofElement t verify e).stop = none := by
  simp only [Scan.stop_ofRound_iff]
  constructor
  · intro hstop e hlisted hmarked
    rcases (mem_markedIn_iff h).mpr ⟨hlisted, hmarked⟩ with ⟨index, hindex, he⟩
    exact hstop index hindex e he
  · intro hstop index hindex e he
    rcases (mem_markedIn_iff h).mp ⟨index, hindex, he⟩ with ⟨hlisted, hmarked⟩
    exact hstop e hlisted hmarked

/-- Scans that do not stop find the pairs of all marked declarations that some round lists. -/
theorem mem_pairs_scans_iff (h : t.rounds = some rounds)
    (hstop : ∀ index < t.roundCount, (Scan.ofRound t verify index).stop = none)
    {pair : String × String} :
    (∃ index < t.roundCount, pair ∈ (Scan.ofRound t verify index).pairs) ↔
      ∃ e, ((∃ ids ∈ rounds, e ∈ ids) ∧ t.isMarked e = true) ∧
        pair ∈ (Scan.ofElement t verify e).pairs := by
  simp only [← mem_markedIn_iff h]
  constructor
  · rintro ⟨index, hindex, hpair⟩
    rw [Scan.pairs_ofRound (hstop index hindex), List.mem_flatMap] at hpair
    rcases hpair with ⟨e, he, hpair⟩
    exact ⟨e, ⟨index, hindex, he⟩, hpair⟩
  · -- the scan of the round has not stopped either, so it came to the declaration
    rintro ⟨e, ⟨index, hindex, he⟩, hpair⟩
    refine ⟨index, hindex, ?_⟩
    rw [Scan.pairs_ofRound (hstop index hindex)]
    exact List.mem_flatMap.mpr ⟨e, he, hpair⟩

/-- Every round of a run has a summary exactly when no scan stops. -/
theorem length_summaries_iff {o : Options} {indices : List Nat} :
    (indices.filterMap (roundSummary? t o)).length = indices.length ↔
      ∀ index ∈ indices, (Scan.ofRound t o.verify index).stop = none := by
  rw [List.filterMap_length_eq_length]
  apply forall₂_congr
  intro index _
  unfold roundSummary?
  cases (Scan.ofRound t o.verify index).stop <;> simp

end Rounds

/-! ## Main statement -/

/-- The catalog of the scans of all rounds does not depend on the order of declarations and rounds,
and neither does whether a scan stops. -/
theorem scanAll_of_perm {t u : SymbolTable} {rounds rounds' : List (List DeclId)} {o : Options}
    (ht : t.rounds = some rounds) (hu : u.rounds = some rounds')
    (hids : (t.declarations.map (·.id)).Nodup) (hperm : u.declarations.Perm t.declarations)
    (hlisted : ∀ id, (∃ ids ∈ rounds, id ∈ ids) ↔ ∃ ids ∈ rounds', id ∈ ids)
    (hstop : ∀ index < t.roundCount, (Scan.ofRound t o.verify index).stop = none) :
    (∀ index < u.roundCount, (Scan.ofRound u o.verify index).stop = none) ∧
      (scanAll u (.start o) (List.range u.roundCount)).1.catalog =
        (scanAll t (.start o) (List.range t.roundCount)).1.catalog := by
  -- both tables answer every look-up alike; only the order of what is scanned differs
  have hsame : t.SameLookups u := sameLookups_of_perm hids hperm
  have hstop' : ∀ index < u.roundCount, (Scan.ofRound u o.verify index).stop = none := by
    rw [stop_scans_iff ht] at hstop
    rw [stop_scans_iff hu]
    intro e he hmarked
    rw [← hsame.ofElement]
    exact hstop e ((hlisted e).mpr he) (by rw [hsame.isMarked, hmarked])
  refine ⟨hstop', ?_⟩
  -- catalogs do not show the order in which pairs came
  apply Catalog.eq_of_same_lists
  intro i p
  simp only [lists_scanAll, List.mem_range, start, Catalog.lists_empty, Bool.false_eq_true,
    false_or, mem_pairs_scans_iff ht hstop, mem_pairs_scans_iff hu hstop', hlisted,
    hsame.isMarked, hsame.ofElement]

/-- Let the declarations of a table have distinct identifiers, and let another table have the same
declarations in any order and rounds that list the same identifiers. If no scan of the compilation
of the first table stops, then none of the second does, and both compilations find the same catalog,
have the same merge report, if any, and leave the same store. -/
theorem compile_of_perm {ds ds' : List Declaration} {rounds rounds' : List (List DeclId)}
    (hids : (ds.map (·.id)).Nodup) (hperm : ds'.Perm ds)
    (hlisted : ∀ id, (∃ ids ∈ rounds, id ∈ ids) ↔ ∃ ids ∈ rounds', id ∈ ids)
    (o : Options) (s : MemoryStore) :
    let t : SymbolTable := ⟨ds, some rounds⟩
    let t' : SymbolTable := ⟨ds', some rounds'⟩
    let run := t.compile MemoryStore.store t.roundCount o s
    let run' := t'.compile MemoryStore.store t'.roundCount o s
    run.1.1.scans.length = run.1.1.rounds →
      run'.1.1.scans.length = run'.1.1.rounds ∧ run'.1.1.catalog = run.1.1.catalog ∧
        run'.1.1.merge = run.1.1.merge ∧ run'.2 = run.2 := by
  intro t t' run run' hscans
  rcases t.compile_outcome MemoryStore.store t.roundCount o s with ⟨hreport, hstore⟩
  rcases t'.compile_outcome MemoryStore.store t'.roundCount o s with ⟨hreport', hstore'⟩
  rw [max_roundCount] at hreport hstore hreport' hstore'
  have hsummaries : ∀ u : SymbolTable, (scanAll u (.start o) (List.range u.roundCount)).1.scans =
      (List.range u.roundCount).filterMap (roundSummary? u o) := by
    intro u
    simp only [scanAll_eq, start, List.nil_append]
  -- as many summaries as rounds: no scan has stopped
  have hstop : ∀ index < t.roundCount, (Scan.ofRound t o.verify index).stop = none := by
    simp only [run, hreport, hsummaries] at hscans
    have hlength : ((List.range t.roundCount).filterMap (roundSummary? t o)).length =
        (List.range t.roundCount).length := by rw [hscans, List.length_range]
    simpa only [List.mem_range] using length_summaries_iff.mp hlength
  rcases scanAll_of_perm (o := o) (t := t) (u := t') rfl rfl hids hperm hlisted hstop with
    ⟨hstop', hcatalog⟩
  have hscans' : run'.1.1.scans.length = run'.1.1.rounds := by
    simp only [run', hreport', hsummaries]
    have hlength : ∀ index ∈ List.range t'.roundCount,
        (Scan.ofRound t' o.verify index).stop = none := by simpa only [List.mem_range] using hstop'
    rw [length_summaries_iff.mpr hlength, List.length_range]
  -- the same catalog merged into the same store
  refine ⟨hscans', ?_, ?_, ?_⟩
  · simp only [run, run', hreport, hreport', hcatalog]
  · simp only [run, run', hreport, hreport', hcatalog]
  · simp only [run, run', hstore, hstore', hcatalog]

/-- The declarations in reverse, in three rounds instead of one: the provider is listed twice, and
an identifier that is not declared is listed before it. -/
theorem compile_of_perm_oneProvider :
    let t : SymbolTable := ⟨oneProvider.declarations, some [[⟨"P"⟩, ⟨"ghost"⟩]]⟩
    let t' : SymbolTable :=
      ⟨oneProvider.declarations.reverse, some [[⟨"ghost"⟩], [], [⟨"P"⟩, ⟨"P"⟩]]⟩
    let run := t.compile MemoryStore.store t.roundCount ⟨true, true⟩ ∅
    let run' := t'.compile MemoryStore.store t'.roundCount ⟨true, true⟩ ∅
    run.1.1.catalog.lists "svc.Greeter" "impl.English" = true ∧ run.1.1.scans.length = 1 ∧
      run'.1.1.scans.length = 3 ∧ run'.1.1.catalog = run.1.1.catalog ∧
      run'.1.1.merge = run.1.1.merge ∧ run'.2 = run.2 := by
  intro t t' run run'
  -- the search does not reduce in the kernel, so the scan is evaluated by itself
  have hscan : Scan.ofRound t true 0 =
      ⟨[.remark "Round 0: marked declarations [DeclId(\"P\")]",
        .remark "provider interface: svc.Greeter", .remark "provider implementer: impl.English",
        .registered "svc.Greeter" "impl.English"], none⟩ := by cbv
  rcases t.compile_outcome MemoryStore.store t.roundCount ⟨true, true⟩ ∅ with ⟨hreport, -⟩
  rcases t'.compile_outcome MemoryStore.store t'.roundCount ⟨true, true⟩ ∅ with ⟨hreport', -⟩
  have hrange : List.range (max t.roundCount 1) = [0] := rfl
  have hlists : run.1.1.catalog.lists "svc.Greeter" "impl.English" = true := by
    simp only [run, hreport, hrange, scanAll_eq, start, List.foldl_cons, List.foldl_nil, hscan]
    decide
  have hscans : run.1.1.scans.length = 1 := by
    simp only [run, hreport, hrange, scanAll_eq, start, roundSummary?, hscan,
      List.filterMap_cons, List.filterMap_nil, List.nil_append, List.length_singleton]
  have hids : (oneProvider.declarations.map (·.id)).Nodup := by decide
  have hlisted : ∀ id : DeclId, (∃ ids ∈ [[⟨"P"⟩, ⟨"ghost"⟩]], id ∈ ids) ↔
      ∃ ids ∈ [[⟨"ghost"⟩], [], [⟨"P"⟩, ⟨"P"⟩]], id ∈ ids := by
    intro id
    simp only [List.mem_cons, List.not_mem_nil, or_false, exists_eq_left, exists_eq_or_imp,
      false_or, or_self]
    exact or_comm
  have hrounds : run.1.1.rounds = 1 := by simp only [run, hreport]; rfl
  have hrounds' : run'.1.1.rounds = 3 := by simp only [run', hreport']; rfl
  have hall : run.1.1.scans.length = run.1.1.rounds := hscans.trans hrounds.symm
  have hsame : run'.1.1.scans.length = run'.1.1.rounds ∧ run'.1.1.catalog = run.1.1.catalog ∧
      run'.1.1.merge = run.1.1.merge ∧ run'.2 = run.2 := by
    simp only [run, run', t, t'] at hall ⊢
    exact compile_of_perm hids (List.reverse_perm _) hlisted ⟨true, true⟩ ∅ hall
  rw [hrounds'] at hsame
  exact ⟨hlists, hscans, hsame⟩

end SymbolTable

end ServiceCatalog
