import ServiceCatalog.Proofs.DeclarationOrder
import ServiceCatalog.Proofs.ScanCourse

/-!
# Tables without rounds

A table without rounds brings all declarations at once. Its marked declarations are picked from the
list of declarations, while those of a round are picked by looking their identifiers up, where the
first declaration of an identifier counts. The two ways differ if an identifier is declared first
without a marker and then again with one: picked from the list it is scanned, and the scan stops
because the declaration that is found has no marker. In all other cases a table without rounds and
the one with a single round that lists all identifiers are compiled alike.

* `Repeats.stop`, `Repeats.found`: scanning declarations again finds nothing new;
* `stop_ofElement_eq_notMarked_iff`: which failed look-up says that there is no marker;
* `repeats_picked`: the two ways of picking differ in repetitions only;
* `compile_withoutRounds`: how the two tables are compiled, and when the declarations that a table
  brings all have markers.
-/

namespace ServiceCatalog

namespace Scan

variable {t : SymbolTable} {verify : Bool} {e id : DeclId}

/-! ## Sequences of scans -/

/-- A scan and those after it register what the first one does, and what the others do if the first
one does not stop. -/
theorem mem_pairs_sequence_cons {s : Scan} {scans : List Scan} {pair : String × String} :
    pair ∈ (sequence (s :: scans)).pairs ↔
      pair ∈ s.pairs ∨ s.stop = none ∧ pair ∈ (sequence scans).pairs := by
  rw [sequence_cons, followedBy]
  cases hstop : s.stop with
  | some cause => simp [pairs]
  | none => simp [pairs, List.filterMap_append]

/-- Whether the second list is the first one with some members repeated. Those that have been seen
may be repeated from the start. -/
inductive Repeats {α : Type} : List α → List α → List α → Prop where
  | nil {seen : List α} : Repeats seen [] []
  | both {a : α} {seen as bs : List α} :
    Repeats (a :: seen) as bs → Repeats seen (a :: as) (a :: bs)
  | again {a : α} {seen as bs : List α} : a ∈ seen → Repeats seen as bs → Repeats seen as (a :: bs)

section Repeats

variable {α : Type} {f : α → Scan} {seen as bs : List α}

/-- Scans that are repeated stop nowhere else. -/
theorem Repeats.stop (h : Repeats seen as bs) (hseen : ∀ a ∈ seen, (f a).stop = none) :
    (sequence (bs.map f)).stop = (sequence (as.map f)).stop := by
  -- the induction follows the two lists: an element of both, or one that comes again in the second
  induction h with
  | nil => rfl
  | @both a seen as bs _ ih =>
    rw [stop_sequence_map, stop_sequence_map] at ih ⊢
    rw [List.findSome?_cons, List.findSome?_cons]
    cases hstop : (f a).stop with
    | some cause => rfl
    | none => exact ih (List.forall_mem_cons.mpr ⟨hstop, hseen⟩)
  | @again a seen as bs ha _ ih =>
    rw [stop_sequence_map, stop_sequence_map] at ih ⊢
    rw [List.findSome?_cons, hseen a ha]
    exact ih hseen

/-- Scans that are repeated register no other pairs. -/
theorem Repeats.found (h : Repeats seen as bs) (hseen : ∀ a ∈ seen, (f a).stop = none)
    (pair : String × String) :
    (∃ a ∈ seen, pair ∈ (f a).pairs) ∨ pair ∈ (sequence (bs.map f)).pairs ↔
      (∃ a ∈ seen, pair ∈ (f a).pairs) ∨ pair ∈ (sequence (as.map f)).pairs := by
  -- what comes again was seen before, so its pairs are there already
  induction h with
  | nil => exact Iff.rfl
  | @both a seen as bs _ ih =>
    simp only [List.map_cons, mem_pairs_sequence_cons]
    cases hstop : (f a).stop with
    | some cause => simp
    | none =>
      have hrest := ih (List.forall_mem_cons.mpr ⟨hstop, hseen⟩)
      simp only [List.mem_cons, exists_eq_or_imp, or_assoc] at hrest
      simp only [true_and]
      rw [or_left_comm, hrest, or_left_comm]
  | @again a seen as bs ha _ ih =>
    have hrest := ih hseen
    simp only [List.map_cons, mem_pairs_sequence_cons, hseen a ha, true_and]
    rw [← hrest]
    constructor
    · rintro (hearlier | hagain | hlater)
      · exact .inl hearlier
      · exact .inl ⟨a, ha, hagain⟩
      · exact .inr hlater
    · rintro (hearlier | hlater)
      · exact .inl hearlier
      · exact .inr (.inr hlater)

end Repeats

end Scan

namespace SymbolTable

variable {t : SymbolTable} {e id : DeclId}

/-- A place that is missing has nothing to do with markers. -/
theorem placement_ne_notMarked : t.placement e ≠ .error (.notMarked id) := by
  intro h
  rcases t.placement_outcome e with ⟨x, hx, -⟩ | ⟨hcycle, -⟩ | ⟨p, hp, -⟩
  · rw [hx] at h
    cases h
  · rw [hcycle] at h
    cases h
  · rw [hp] at h
    cases h

/-- Neither has a reference that cannot be resolved. -/
theorem resolve_ne_notMarked : t.resolve e ≠ .error (.notMarked id) := by
  unfold resolve
  cases t.find? e <;> simp

/-- There is no marker if the identifier is declared without one. -/
theorem marker_eq_notMarked_iff :
    t.marker e = .error (.notMarked id) ↔
      id = e ∧ t.declares e = true ∧ t.isMarked e = false := by
  unfold marker declares isMarked
  -- the first declaration of the identifier decides
  cases t.find? e with
  | none => simp
  | some d =>
    cases hmarker : d.marker with
    | none =>
      simp only [hmarker, Except.error.injEq, SymbolError.notMarked.injEq, Option.isSome_some,
        Option.isSome_none, and_true]
      exact eq_comm
    | some m => simp [hmarker]

theorem marker_eq_ok_iff : (∃ m, t.marker e = .ok m) ↔ t.isMarked e = true := by
  unfold marker isMarked
  cases t.find? e with
  | none => simp
  | some d => cases hmarker : d.marker <;> simp [hmarker]

end SymbolTable

namespace Scan

variable {t : SymbolTable} {verify : Bool} {e id : DeclId}

/-- Only the look-up of its own marker stops the scan of a declaration for want of a marker. -/
theorem stop_ofElement_eq_notMarked_iff :
    (ofElement t verify e).stop = some (.notMarked id) ↔
      id = e ∧ t.declares e = true ∧ t.isMarked e = false := by
  rw [← SymbolTable.marker_eq_notMarked_iff, stop_ofElement]
  constructor
  · -- a look-up fails for want of a marker, of a place or of a service; the first is meant
    intro h
    obtain ⟨p, hp, hfailure⟩ := List.exists_of_findSome?_eq_some h
    rcases failureAt_eq_some_iff.mp hfailure with
      hmarker | ⟨-, hplace | ⟨-, ref, -, hresolve | ⟨-, hplace⟩⟩⟩
    · rwa [element_of_mem_pointsAt hp] at hmarker
    · exact absurd hplace SymbolTable.placement_ne_notMarked
    · exact absurd hresolve SymbolTable.resolve_ne_notMarked
    · exact absurd hplace SymbolTable.placement_ne_notMarked
  · intro hmarker
    have hfirst : failureAt t ⟨e, none⟩ = some (.notMarked id) :=
      failureAt_eq_some_iff.mpr (.inl hmarker)
    rw [pointsAt, List.findSome?_cons, hfirst]

end Scan

namespace SymbolTable

open Session

variable {t : SymbolTable}

/-! ## Two ways of picking declarations -/

/-- The table of some declarations without rounds. -/
def withoutRounds (ds : List Declaration) : SymbolTable := ⟨ds, none⟩

/-- The table of some declarations with a single round, which lists all their identifiers. -/
def inOneRound (ds : List Declaration) : SymbolTable := ⟨ds, some [ds.map (·.id)]⟩

/-- The identifiers of the declarations that have a marker themselves. -/
def pickedFromList (ds : List Declaration) : List DeclId :=
  (ds.filter fun d => d.marker.isSome).map (·.id)

/-- The identifiers of declarations for which one with a marker is found. -/
def pickedByLookUp (t : SymbolTable) (ds : List Declaration) : List DeclId :=
  (ds.map (·.id)).filter t.isMarked

/-- Whether a declaration has a marker, but another one, which has none, is found under its
identifier. -/
def Overshadowed (t : SymbolTable) (d : Declaration) : Prop :=
  d.marker.isSome = true ∧ t.isMarked d.id = false

section Picking

variable {ds before rest : List Declaration} {d : Declaration} {index : Nat}

theorem sameLookups_inOneRound (ds : List Declaration) :
    (withoutRounds ds).SameLookups (inOneRound ds) := fun _ => rfl

theorem markedIn_withoutRounds :
    (withoutRounds ds).markedIn index = if index = 0 then pickedFromList ds else [] := rfl

theorem markedIn_inOneRound :
    (inOneRound ds).markedIn index =
      if index = 0 then (withoutRounds ds).pickedByLookUp ds else [] := by
  cases index <;> rfl

theorem declares_of_mem (h : d ∈ t.declarations) : t.declares d.id = true := by
  unfold declares find?
  rw [List.find?_isSome]
  exact ⟨d, h, by simp⟩

/-- If a declaration has no marker but one is found under its identifier, then that one comes
before it. -/
theorem exists_earlier (ht : t.declarations = before ++ d :: rest) (hnone : d.marker = none)
    (hmarked : t.isMarked d.id = true) : ∃ e ∈ before, e.id = d.id := by
  cases hearlier : before.find? fun e => e.id = d.id with
  | some e => exact ⟨e, List.mem_of_find?_eq_some hearlier, by simpa using List.find?_some hearlier⟩
  | none =>
    have hfind : t.find? d.id = some d := by
      rw [find?, ht, List.find?_append, hearlier]
      simp
    rw [isMarked, hfind] at hmarked
    simp [hnone] at hmarked

theorem pickedFromList_cons :
    pickedFromList (d :: rest) =
      if d.marker.isSome then d.id :: pickedFromList rest else pickedFromList rest := by
  rw [pickedFromList, List.filter_cons]
  split <;> rfl

theorem pickedByLookUp_cons :
    t.pickedByLookUp (d :: rest) =
      if t.isMarked d.id then d.id :: t.pickedByLookUp rest else t.pickedByLookUp rest := by
  rw [pickedByLookUp, List.map_cons, List.filter_cons]
  rfl

/-- If no declaration is overshadowed, looking declarations up picks the same ones in the same
order, and some of them again later. -/
theorem repeats_picked {seen : List DeclId} (ht : t.declarations = before ++ rest)
    (hrest : ∀ d ∈ rest, ¬ t.Overshadowed d)
    (hseen : ∀ e ∈ before, t.isMarked e.id = true → e.id ∈ seen) :
    Scan.Repeats seen (pickedFromList rest) (t.pickedByLookUp rest) := by
  -- the induction is on the declarations that are left; those before them have been picked
  induction rest generalizing before seen with
  | nil => exact .nil
  | cons d rest ih =>
    rcases List.forall_mem_cons.mp hrest with ⟨hd, hrest⟩
    have ht' : t.declarations = (before ++ [d]) ++ rest := by
      rw [ht, List.append_assoc, List.singleton_append]
    rw [pickedFromList_cons, pickedByLookUp_cons]
    cases hmarked : t.isMarked d.id with
    | false =>
      have hmarker : ¬ d.marker.isSome = true := fun h => hd ⟨h, hmarked⟩
      have hunmarked : ∀ e ∈ [d], t.isMarked e.id = true → e.id ∈ seen := by
        intro e he h
        cases List.mem_singleton.mp he
        rw [hmarked] at h
        cases h
      rw [if_neg hmarker, if_neg Bool.false_ne_true]
      exact ih ht' hrest (List.forall_mem_append.mpr ⟨hseen, hunmarked⟩)
    | true =>
      rw [if_pos rfl]
      cases hmarker : d.marker with
      | some m =>
        have hhere : ∀ e ∈ [d], t.isMarked e.id = true → e.id ∈ d.id :: seen := by
          intro e he _
          cases List.mem_singleton.mp he
          exact List.mem_cons_self
        have hearlier : ∀ e ∈ before, t.isMarked e.id = true → e.id ∈ d.id :: seen :=
          fun e he h => List.mem_cons_of_mem d.id (hseen e he h)
        rw [Option.isSome_some, if_pos rfl]
        exact .both (ih ht' hrest (List.forall_mem_append.mpr ⟨hearlier, hhere⟩))
      | none =>
        -- the declaration that is found came before and was picked then
        obtain ⟨e, he, hid⟩ := exists_earlier ht hmarker hmarked
        have hagain : d.id ∈ seen := hid ▸ hseen e he (hid ▸ hmarked)
        have hhere : ∀ e ∈ [d], t.isMarked e.id = true → e.id ∈ seen := by
          intro e he _
          cases List.mem_singleton.mp he
          exact hagain
        rw [Option.isSome_none, if_neg Bool.false_ne_true]
        exact .again hagain (ih ht' hrest (List.forall_mem_append.mpr ⟨hseen, hhere⟩))

/-- If the declarations have distinct identifiers, each is the one that is found. -/
theorem not_overshadowed_of_nodup (h : (t.declarations.map (·.id)).Nodup)
    (hd : d ∈ t.declarations) : ¬ t.Overshadowed d := by
  rintro ⟨hmarker, hunmarked⟩
  have hfind : t.find? d.id = some d := (find?_eq_some_iff h).mpr ⟨hd, rfl⟩
  rw [isMarked, hfind] at hunmarked
  simp only [hmarker, Bool.true_eq_false] at hunmarked

end Picking

/-! ## The scans of the two tables -/

section Scans

variable {ds : List Declaration} {verify : Bool} {index : Nat} {id : DeclId}

theorem ofElement_inOneRound (ds : List Declaration) (verify : Bool) :
    Scan.ofElement (inOneRound ds) verify = Scan.ofElement (withoutRounds ds) verify := by
  funext e
  exact ((sameLookups_inOneRound ds).ofElement verify e).symm

/-- Of all declarations, looking them up picks the same ones as the list, and some again. -/
theorem repeats_all (h : ∀ d ∈ ds, ¬ (withoutRounds ds).Overshadowed d) :
    Scan.Repeats [] (pickedFromList ds) ((withoutRounds ds).pickedByLookUp ds) := by
  have hall : (withoutRounds ds).declarations = [] ++ ds := rfl
  exact repeats_picked hall h (List.forall_mem_nil _)

/-- The scan of each round stops alike, at the same failed look-up if at all. -/
theorem stop_ofRound_inOneRound (h : ∀ d ∈ ds, ¬ (withoutRounds ds).Overshadowed d) :
    (Scan.ofRound (inOneRound ds) verify index).stop =
      (Scan.ofRound (withoutRounds ds) verify index).stop := by
  simp only [Scan.ofRound, Scan.report, markedIn_inOneRound, markedIn_withoutRounds,
    ofElement_inOneRound]
  split
  · exact (repeats_all h).stop (List.forall_mem_nil _)
  · rfl

/-- The scans of each round register the same pairs. -/
theorem mem_pairs_ofRound_inOneRound (h : ∀ d ∈ ds, ¬ (withoutRounds ds).Overshadowed d)
    {pair : String × String} :
    pair ∈ (Scan.ofRound (inOneRound ds) verify index).pairs ↔
      pair ∈ (Scan.ofRound (withoutRounds ds) verify index).pairs := by
  -- the opening remark registers nothing
  have hround : ∀ t : SymbolTable, (Scan.ofRound t verify index).pairs =
      (Scan.sequence ((t.markedIn index).map (Scan.ofElement t verify))).pairs := fun _ => rfl
  rw [hround, hround, markedIn_inOneRound, markedIn_withoutRounds, ofElement_inOneRound]
  split
  · have hfound := (repeats_all h).found (f := Scan.ofElement (withoutRounds ds) verify)
      (List.forall_mem_nil _) pair
    simpa using hfound
  · rfl

/-- A scan stops for want of a marker only at a declaration that the round lists as marked. -/
theorem of_stop_ofRound_eq_notMarked
    (h : (Scan.ofRound t verify index).stop = some (.notMarked id)) :
    id ∈ t.markedIn index ∧ t.isMarked id = false := by
  have hsequence : (Scan.sequence ((t.markedIn index).map (Scan.ofElement t verify))).stop =
      some (.notMarked id) := h
  rw [Scan.stop_sequence_map] at hsequence
  obtain ⟨e, he, hstop⟩ := List.exists_of_findSome?_eq_some hsequence
  rcases Scan.stop_ofElement_eq_notMarked_iff.mp hstop with ⟨rfl, -, hunmarked⟩
  exact ⟨he, hunmarked⟩

/-- What is picked by looking it up has a marker. -/
theorem stop_inOneRound_ne_notMarked :
    (Scan.ofRound (inOneRound ds) verify index).stop ≠ some (.notMarked id) := by
  intro h
  rcases of_stop_ofRound_eq_notMarked h with ⟨hmem, hunmarked⟩
  rw [markedIn_inOneRound] at hmem
  split at hmem
  · have hmarked : (withoutRounds ds).isMarked id = true := (List.mem_filter.mp hmem).2
    rw [(sameLookups_inOneRound ds).isMarked, hunmarked] at hmarked
    cases hmarked
  · cases hmem

/-- What is picked from the list comes from a declaration with a marker. -/
theorem mem_markedIn_withoutRounds_iff :
    id ∈ (withoutRounds ds).markedIn index ↔
      index = 0 ∧ ∃ d ∈ ds, d.marker.isSome = true ∧ d.id = id := by
  rw [markedIn_withoutRounds]
  split
  · rename_i hindex
    simp only [pickedFromList, List.mem_map, List.mem_filter, hindex, true_and, and_assoc]
  · rename_i hindex
    simp only [hindex, false_and, List.not_mem_nil]

/-- All picked declarations have a marker unless one is overshadowed. -/
theorem markers_withoutRounds_iff :
    (∀ index, ∀ id ∈ (withoutRounds ds).markedIn index,
      ∃ m, (withoutRounds ds).marker id = .ok m) ↔
        ∀ d ∈ ds, ¬ (withoutRounds ds).Overshadowed d := by
  simp only [marker_eq_ok_iff, mem_markedIn_withoutRounds_iff]
  -- being marked is a property of the first declaration of an identifier, being picked one of any
  constructor
  · rintro h d hd ⟨hmarker, hunmarked⟩
    have hmarked := h 0 d.id ⟨rfl, d, hd, hmarker, rfl⟩
    rw [hunmarked] at hmarked
    cases hmarked
  · rintro h index id ⟨-, d, hd, hmarker, rfl⟩
    cases hmarked : (withoutRounds ds).isMarked d.id with
    | true => rfl
    | false => exact absurd ⟨hmarker, hmarked⟩ (h d hd)

/-- If a declaration is overshadowed, the scan of all declarations stops, there or before. -/
theorem stop_withoutRounds_of_overshadowed {d : Declaration} (hd : d ∈ ds)
    (hovershadowed : (withoutRounds ds).Overshadowed d) :
    (Scan.ofRound (withoutRounds ds) verify 0).stop ≠ none := by
  -- if the scan came to its end, then the scan of the overshadowed declaration did
  intro hnone
  have hlisted : d.id ∈ (withoutRounds ds).markedIn 0 :=
    mem_markedIn_withoutRounds_iff.mpr ⟨rfl, d, hd, hovershadowed.1, rfl⟩
  have hdeclared : (withoutRounds ds).declares d.id = true := declares_of_mem hd
  have hstop : (Scan.ofElement (withoutRounds ds) verify d.id).stop = some (.notMarked d.id) :=
    Scan.stop_ofElement_eq_notMarked_iff.mpr ⟨rfl, hdeclared, hovershadowed.2⟩
  rw [Scan.stop_ofRound_iff.mp hnone d.id hlisted] at hstop
  cases hstop

/-- Compilations in one round agree if their scans stop alike and register the same pairs. -/
theorem compile_congr_scan {σ : Type} {t u : SymbolTable} (store : Store (StateM σ)) (o : Options)
    (st : σ) (ht : t.roundCount = 1) (hu : u.roundCount = 1)
    (hstop : (Scan.ofRound u o.verify 0).stop = (Scan.ofRound t o.verify 0).stop)
    (hpairs : ∀ pair, pair ∈ (Scan.ofRound u o.verify 0).pairs ↔
      pair ∈ (Scan.ofRound t o.verify 0).pairs) :
    let run := t.compile store t.roundCount o st
    let run' := u.compile store u.roundCount o st
    run'.1.1.rounds = run.1.1.rounds ∧ run'.1.1.scans.length = run.1.1.scans.length ∧
      run'.1.1.catalog = run.1.1.catalog ∧ run'.1.1.merge = run.1.1.merge ∧ run'.2 = run.2 := by
  intro run run'
  rcases t.compile_outcome store t.roundCount o st with ⟨hreport, hstore⟩
  rcases u.compile_outcome store u.roundCount o st with ⟨hreport', hstore'⟩
  rw [max_roundCount, ht] at hreport hstore
  rw [max_roundCount, hu] at hreport' hstore'
  have hcatalog : (scanAll u (.start o) (List.range 1)).1.catalog =
      (scanAll t (.start o) (List.range 1)).1.catalog := by
    apply Catalog.eq_of_same_lists
    intro i p
    simp only [lists_scanAll, List.mem_range, Nat.lt_one_iff, exists_eq_left, start, hpairs]
  -- a round has a summary if its scan came to its end, and that is so in both or in neither
  have hscans : (scanAll u (.start o) (List.range 1)).1.scans.length =
      (scanAll t (.start o) (List.range 1)).1.scans.length := by
    have hrange : List.range 1 = [0] := rfl
    rw [hrange, scanAll_eq, scanAll_eq]
    simp only [start, List.nil_append, List.filterMap_cons, List.filterMap_nil, roundSummary?,
      hstop]
    cases (Scan.ofRound t o.verify 0).stop <;> rfl
  simp only [run, run', ht, hu, hreport, hreport', hstore, hstore', hcatalog, hscans,
    and_self]

end Scans

/-! ## Main statement -/

/-- Compilations of the same declarations without rounds and in one round that lists them all.
Unless a declaration is overshadowed, the scans stop alike, and both compilations have as many
summaries, find the same catalog, have the same merge report, if any, and leave the same store; no
declaration is overshadowed if the identifiers are distinct. That none is overshadowed is also just
what it takes for all declarations that the table without rounds picks to have markers. If one is,
the scan of the table without rounds stops. The scan of the single round never stops for want of a
marker. -/
theorem compile_withoutRounds {σ : Type} (ds : List Declaration) (store : Store (StateM σ))
    (o : Options) (st : σ) :
    let t := withoutRounds ds
    let u := inOneRound ds
    let run := t.compile store t.roundCount o st
    let run' := u.compile store u.roundCount o st
    ((∀ d ∈ ds, ¬ t.Overshadowed d) →
      (∀ index c cause, (u.scan o.verify o.debug index c).1 = .error cause ↔
        (t.scan o.verify o.debug index c).1 = .error cause) ∧
      run'.1.1.rounds = run.1.1.rounds ∧ run'.1.1.scans.length = run.1.1.scans.length ∧
      run'.1.1.catalog = run.1.1.catalog ∧ run'.1.1.merge = run.1.1.merge ∧ run'.2 = run.2) ∧
    ((ds.map (·.id)).Nodup → ∀ d ∈ ds, ¬ t.Overshadowed d) ∧
    ((∀ index, ∀ id ∈ t.markedIn index, ∃ m, t.marker id = .ok m) ↔
      ∀ d ∈ ds, ¬ t.Overshadowed d) ∧
    (∀ d ∈ ds, t.Overshadowed d → ∀ c, ∃ cause, (t.scan o.verify o.debug 0 c).1 = .error cause) ∧
    (∀ index c id, (u.scan o.verify o.debug index c).1 ≠ .error (.notMarked id)) := by
  intro t u run run'
  have hcount : t.roundCount = 1 ∧ u.roundCount = 1 := ⟨rfl, rfl⟩
  constructor
  · intro h
    constructor
    · intro index c cause
      rw [scan_eq_error_iff, scan_eq_error_iff, stop_ofRound_inOneRound h]
    · exact compile_congr_scan store o st hcount.1 hcount.2 (stop_ofRound_inOneRound h)
        fun _ => mem_pairs_ofRound_inOneRound h
  constructor
  · intro hids d hd
    exact not_overshadowed_of_nodup hids hd
  constructor
  · exact markers_withoutRounds_iff
  constructor
  · intro d hd hovershadowed c
    simp only [scan_eq_error_iff]
    exact Option.ne_none_iff_exists'.mp (stop_withoutRounds_of_overshadowed hd hovershadowed)
  · intro index c id
    rw [Ne, scan_eq_error_iff]
    exact stop_inOneRound_ne_notMarked

/-- A provider that is declared again without a marker is scanned once without rounds and twice in
one round, and is registered either way. -/
theorem compile_withoutRounds_repeated :
    let ds : List Declaration := oneProvider.declarations ++
      [⟨⟨"P"⟩, "English", .classType, .topLevel "impl", [], none⟩]
    let t := withoutRounds ds
    let u := inOneRound ds
    let run := t.compile MemoryStore.store t.roundCount ⟨true, false⟩ ∅
    let run' := u.compile MemoryStore.store u.roundCount ⟨true, false⟩ ∅
    t.markedIn 0 = [⟨"P"⟩] ∧ u.markedIn 0 = [⟨"P"⟩, ⟨"P"⟩] ∧
      run.1.1.catalog.lists "svc.Greeter" "impl.English" = true ∧
      run'.1.1.scans.length = run.1.1.scans.length ∧ run'.1.1.catalog = run.1.1.catalog ∧
      run'.1.1.merge = run.1.1.merge ∧ run'.2 = run.2 := by
  intro ds t u run run'
  -- the second declaration of the provider has no marker, so it does not count as overshadowed
  have hnone : ∀ d ∈ ds, ¬ t.Overshadowed d := by
    intro d hd
    rintro ⟨hmarker, hunmarked⟩
    simp only [ds, oneProvider, List.cons_append, List.nil_append, List.mem_cons, List.not_mem_nil,
      or_false] at hd
    rcases hd with rfl | rfl | rfl
    · cases hmarker
    · cases hunmarked
    · cases hmarker
  rcases compile_withoutRounds ds MemoryStore.store ⟨true, false⟩ ∅ with ⟨hsame, -⟩
  rcases hsame hnone with ⟨-, -, hscans, hcatalog, hmerge, hstore⟩
  have hscan : (Scan.ofRound t true 0).pairs = [("svc.Greeter", "impl.English")] := by cbv
  have hpair : ("svc.Greeter", "impl.English") ∈ (Scan.ofRound t true 0).pairs := by
    rw [hscan]
    exact List.mem_singleton_self _
  have hlists : run.1.1.catalog.lists "svc.Greeter" "impl.English" = true := by
    rcases t.compile_outcome MemoryStore.store t.roundCount ⟨true, false⟩ ∅ with ⟨hreport, -⟩
    simp only [run, hreport, lists_scanAll, start]
    exact .inr ⟨0, List.mem_range.mpr Nat.zero_lt_one, hpair⟩
  exact ⟨rfl, rfl, hlists, hscans, hcatalog, hmerge, hstore⟩

/-- The first declaration of `X` has no marker and the second one has. Without rounds the scan stops
there, before it comes to the provider, and nothing is written. In one round `X` is passed over, and
the provider is found and written. -/
theorem overshadowed_compiled_otherwise :
    let ds : List Declaration :=
      [⟨⟨"S"⟩, "Greeter", .interfaceType, .topLevel "svc", [], none⟩,
        ⟨⟨"X"⟩, "Plain", .classType, .topLevel "impl", [], none⟩,
        ⟨⟨"X"⟩, "Plain", .classType, .topLevel "impl", [⟨"S"⟩], some (.ref ⟨"S"⟩)⟩,
        ⟨⟨"P"⟩, "English", .classType, .topLevel "impl", [⟨"S"⟩], some (.ref ⟨"S"⟩)⟩]
    let t := withoutRounds ds
    let u := inOneRound ds
    let run := t.compile MemoryStore.store t.roundCount ⟨true, false⟩ ∅
    let run' := u.compile MemoryStore.store u.roundCount ⟨true, false⟩ ∅
    (⟨"X"⟩ ∈ t.markedIn 0 ∧ t.marker ⟨"X"⟩ = .error (.notMarked ⟨"X"⟩) ∧
      (t.scan true false 0 ∅).1 = .error (.notMarked ⟨"X"⟩)) ∧
    (run.1.1.scans.length = 0 ∧ run'.1.1.scans.length = 1) ∧
    (run.1.1.catalog.lists "svc.Greeter" "impl.English" = false ∧
      run'.1.1.catalog.lists "svc.Greeter" "impl.English" = true) ∧
    (run.2.resources.find? (Service.resourceName "svc.Greeter") = none ∧
      run'.2.resources.find? (Service.resourceName "svc.Greeter") =
        some "impl.English\n".toUTF8.toList) := by
  intro ds t u run run'
  have hscan : Scan.ofRound t true 0 =
      ⟨[.remark "Round 0: marked declarations [DeclId(\"X\"), DeclId(\"P\")]"],
        some (.notMarked ⟨"X"⟩)⟩ := by cbv
  have hscan' : Scan.ofRound u true 0 =
      ⟨[.remark "Round 0: marked declarations [DeclId(\"P\")]",
        .remark "provider interface: svc.Greeter", .remark "provider implementer: impl.English",
        .registered "svc.Greeter" "impl.English"], none⟩ := by cbv
  -- both compilations scan one round, which is evaluated above
  have hround : List.range (max t.roundCount 1) = [0] ∧ List.range (max u.roundCount 1) = [0] :=
    ⟨rfl, rfl⟩
  rcases t.compile_outcome MemoryStore.store t.roundCount ⟨true, false⟩ ∅ with ⟨hreport, hstore⟩
  rcases u.compile_outcome MemoryStore.store u.roundCount ⟨true, false⟩ ∅ with ⟨hreport', hstore'⟩
  simp only [hround, scanAll_eq, start, List.foldl_cons, List.foldl_nil, List.filterMap_cons,
    List.filterMap_nil, List.nil_append, roundSummary?, hscan, hscan']
    at hreport hstore hreport' hstore'
  constructor
  · exact ⟨by decide, by decide, scan_eq_error_iff.mpr (congrArg Scan.stop hscan)⟩
  constructor
  · simp only [run, run', hreport, hreport']
    exact ⟨rfl, rfl⟩
  constructor
  · simp only [run, run', hreport, hreport']
    decide
  · simp only [run, run', hstore, hstore']
    decide +kernel

end SymbolTable

end ServiceCatalog
