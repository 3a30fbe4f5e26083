import ServiceCatalog.Proofs.DeclaredNames
import ServiceCatalog.Proofs.SingleRound

/-!
# Scans of checked tables

Two things that the check of a table looks at matter to a scan. Identifiers are declared once, so a
declaration that is picked for its marker is the one that is found; and what encloses a declaration
is declared, so the way outwards from a declaration never leaves the table. Two other things are not
checked: markers may name types that are not declared, and nesting may go round in circles. The scan
of a table without faults stops for these two causes and for no other.

* `nodup_ids`, `declares_of_path`: what the check makes sure of;
* `placement_of_faultless`, `exists_marker_of_faultless`: which look-ups cannot fail then;
* `of_failureAt_of_faultless`: the look-ups that can still fail on the course of a scan;
* `scanRound_of_faultless`: how a round of such a table ends.
-/

namespace ServiceCatalog

namespace SymbolTable

open Relation

variable {t : SymbolTable} {id x y : DeclId} {index : Nat}

/-! ## What the check makes sure of -/

/-- Declarations without faults have distinct identifiers, none of which was declared before. -/
theorem nodup_of_faultsAfter {earlier : List DeclId} {ds : List Declaration}
    (h : t.faultsAfter earlier ds = []) :
    (ds.map (·.id)).Nodup ∧ ∀ d ∈ ds, d.id ∉ earlier := by
  induction ds generalizing earlier with
  | nil => exact ⟨List.nodup_nil, List.forall_mem_nil _⟩
  | cons d ds ih =>
    obtain ⟨hd, hds⟩ := List.append_eq_nil_iff.mp h
    obtain ⟨hnodup, hlater⟩ := ih hds
    -- an identifier that was declared before would be a fault of the declaration itself
    have hnew : d.id ∉ earlier := by
      intro hearlier
      simp [declarationFaults, hearlier] at hd
    -- and the declarations after it are checked with its identifier among the earlier ones
    have honce : d.id ∉ ds.map (·.id) := by
      intro hmem
      obtain ⟨e, he, heq⟩ := List.mem_map.mp hmem
      exact hlater e he (heq ▸ List.mem_cons_self)
    refine ⟨List.nodup_cons.mpr ⟨honce, hnodup⟩, List.forall_mem_cons.mpr ⟨hnew, ?_⟩⟩
    intro e he hearlier
    exact hlater e he (List.mem_cons_of_mem d.id hearlier)

/-- In a table without faults, identifiers are distinct. -/
theorem nodup_ids (h : t.faults = []) : (t.declarations.map (·.id)).Nodup :=
  (nodup_of_faultsAfter (List.append_eq_nil_iff.mp h).1).1

/-- In a table without faults, what encloses a declaration is declared. -/
theorem declares_of_nestedIn (h : t.faults = []) (hstep : t.NestedIn x y) :
    t.declares y = true := by
  obtain ⟨d, hd, hnested⟩ := hstep
  have henclosing :=
    (faults_of_mem (List.append_eq_nil_iff.mp h).1 (List.mem_of_find?_eq_some hd)).2
  simp only [enclosingFaults, hnested] at henclosing
  cases hy : t.declares y with
  | true => rfl
  | false => simp [hy] at henclosing

/-- In a table without faults, the way outwards from a declaration meets declarations only. -/
theorem declares_of_path (h : t.faults = []) (hid : t.declares id = true)
    (hpath : ReflTransGen t.NestedIn id x) : t.declares x = true := by
  cases hpath with
  | refl => exact hid
  | tail _ hstep => exact declares_of_nestedIn h hstep

/-! ## Look-ups that cannot fail -/

theorem declares_eq_false_iff : t.declares id = false ↔ ∀ d ∈ t.declarations, d.id ≠ id := by
  simp only [declares, Option.isSome_eq_false_iff, Option.isNone_iff_eq_none, find?,
    List.find?_eq_none, decide_eq_true_eq, ne_eq]

/-- In a table without faults, the place of a declaration is found unless nesting has no end. -/
theorem placement_of_faultless (h : t.faults = []) (hid : t.declares id = true) :
    (∃ p, t.placement id = .ok p) ∨
      t.placement id = .error (.nestingCycle id) ∧ t.Endless id := by
  rcases t.placement_outcome id with ⟨x, -, hpath, hnone⟩ | hcycle | ⟨p, hp, -⟩
  · -- the way outwards would leave the table
    have hx := declares_of_path h hid hpath
    rw [declares, hnone] at hx
    cases hx
  · exact .inr hcycle
  · exact .inl ⟨p, hp⟩

/-- In a table without faults, every declaration that a round lists as marked has a marker. -/
theorem exists_marker_of_faultless (h : t.faults = []) (hid : id ∈ t.markedIn index) :
    ∃ m, t.marker id = .ok m := by
  rw [marker_eq_ok_iff]
  unfold markedIn at hid
  split at hid
  · -- a round lists identifiers, and those with a marker are picked by looking them up
    split at hid
    · exact (List.mem_filter.mp hid).2
    · cases hid
  · split at hid
    · -- without rounds the own markers count, and none of them is overshadowed here
      obtain ⟨d, hd, rfl⟩ := List.mem_map.mp hid
      obtain ⟨hd, hmarker⟩ := List.mem_filter.mp hd
      cases hmarked : t.isMarked d.id with
      | true => rfl
      | false => exact absurd ⟨hmarker, hmarked⟩ (not_overshadowed_of_nodup (nodup_ids h) hd)
    · cases hid

theorem resolve_of_declares (h : t.declares id = false) :
    t.resolve id = .error (.unresolvedType id) := by
  rw [declares, Option.isSome_eq_false_iff, Option.isNone_iff_eq_none] at h
  rw [resolve, h]

/-- Whether a type is named as a service by a marked declaration of a round. -/
def NamesService (t : SymbolTable) (index : Nat) (ref : DeclId) : Prop :=
  ∃ e ∈ t.markedIn index, ∃ m, t.marker e = .ok m ∧ ref ∈ m.services

end SymbolTable

namespace Scan

open SymbolTable

variable {t : SymbolTable} {index : Nat} {e ref : DeclId}

/-! ## Look-ups on the course of a scan -/

theorem mem_course_iff {p : Point} :
    p ∈ course t index ↔ p.element ∈ t.markedIn index ∧ p ∈ pointsAt t p.element := by
  rw [course, List.mem_flatMap]
  constructor
  · rintro ⟨e, he, hp⟩
    obtain rfl : p.element = e := element_of_mem_pointsAt hp
    exact ⟨he, hp⟩
  · rintro ⟨he, hp⟩
    exact ⟨p.element, he, hp⟩

/-- The services at a marked declaration are those that its marker names. -/
theorem mem_pointsAt_service_iff :
    ⟨e, some ref⟩ ∈ pointsAt t e ↔ ∃ m, t.marker e = .ok m ∧ ref ∈ m.services := by
  unfold pointsAt
  cases t.marker e with
  | error cause => simp
  | ok m => simp

/-- In a table without faults, a look-up on the course of a scan fails only for a service that is
not declared, or for a declaration whose nesting has no end. -/
theorem of_failureAt_of_faultless (h : t.faults = []) {p : Point} {cause : SymbolError}
    (hp : p ∈ course t index) (hcause : failureAt t p = some cause) :
    (∃ ref, t.NamesService index ref ∧ t.declares ref = false ∧ cause = .unresolvedType ref) ∨
      ∃ id, (id ∈ t.markedIn index ∨ t.NamesService index id) ∧ t.Endless id ∧
        cause = .nestingCycle id := by
  rcases p with ⟨e, service⟩
  obtain ⟨helement, hpoint⟩ := mem_course_iff.mp hp
  obtain ⟨m, hm⟩ := exists_marker_of_faultless h helement
  rcases failureAt_eq_some_iff.mp hcause with hmarker | ⟨-, hplace | ⟨-, ref, rfl, hservice⟩⟩
  · rw [hm] at hmarker
    cases hmarker
  · -- the element is declared, so only a way outwards without an end can fail
    rcases placement_of_faultless h (declares_of_marker hm) with
      ⟨place, hok⟩ | ⟨hcycle, hendless⟩
    · rw [hok] at hplace
      cases hplace
    · rw [hcycle] at hplace
      cases hplace
      exact .inr ⟨e, .inl helement, hendless, rfl⟩
  · have hnamed : t.NamesService index ref :=
      ⟨e, helement, mem_pointsAt_service_iff.mp hpoint⟩
    rcases hservice with hresolve | ⟨⟨d, hd⟩, hplace⟩
    · -- of a service, either the declaration is missing or, again, the way outwards has no end
      cases hdeclared : t.declares ref with
      | false =>
        rw [resolve_of_declares hdeclared] at hresolve
        cases hresolve
        exact .inl ⟨ref, hnamed, hdeclared, rfl⟩
      | true =>
        obtain ⟨d, hd⟩ := Option.isSome_iff_exists.mp hdeclared
        rw [resolve_eq_ok_iff.mpr hd] at hresolve
        cases hresolve
    · rcases placement_of_faultless h (declares_of_resolve hd) with
        ⟨place, hok⟩ | ⟨hcycle, hendless⟩
      · rw [hok] at hplace
        cases hplace
      · rw [hcycle] at hplace
        cases hplace
        exact .inr ⟨ref, .inr hnamed, hendless, rfl⟩

/-- The scan of a round of a table without faults goes through to its end exactly if all services
that are named are declared and no nesting is without end. -/
theorem stop_eq_none_iff_of_faultless (h : t.faults = []) (verify : Bool) (index : Nat) :
    (ofRound t verify index).stop = none ↔
      (∀ ref, t.NamesService index ref → t.declares ref = true) ∧
        ∀ id, id ∈ t.markedIn index ∨ t.NamesService index id → ¬ t.Endless id := by
  rw [stop_ofRound, List.findSome?_eq_none_iff]
  constructor
  · intro hnone
    -- every service that is named is a point of the course, where all look-ups succeed
    have hservice : ∀ ref, t.NamesService index ref →
        (∃ d, t.resolve ref = .ok d) ∧ ∃ place, t.placement ref = .ok place := by
      rintro ref ⟨e, he, hnamed⟩
      have hpoint := hnone ⟨e, some ref⟩
        (mem_course_iff.mpr ⟨he, mem_pointsAt_service_iff.mpr hnamed⟩)
      exact (failureAt_eq_none_iff.mp hpoint).2.2 ref rfl
    -- a place that was found rules out that nesting has no end
    have hendless : ∀ {id place}, t.placement id = .ok place → ¬ t.Endless id := by
      intro id place hplace hendless
      have hcycle := placement_eq_cycle_iff.mpr ⟨rfl, hendless⟩
      rw [hplace] at hcycle
      cases hcycle
    constructor
    · intro ref hnamed
      obtain ⟨⟨d, hd⟩, -⟩ := hservice ref hnamed
      exact declares_of_resolve hd
    · rintro id (hlisted | hnamed)
      · have hpoint := hnone ⟨id, none⟩ (mem_course_iff.mpr ⟨hlisted, List.mem_cons_self⟩)
        obtain ⟨-, ⟨place, hplace⟩, -⟩ := failureAt_eq_none_iff.mp hpoint
        exact hendless hplace
      · obtain ⟨-, place, hplace⟩ := hservice id hnamed
        exact hendless hplace
  · rintro ⟨hdeclared, hends⟩ p hp
    cases hcause : failureAt t p with
    | none => rfl
    | some cause =>
      -- a failure would have one of the two causes that are excluded
      rcases of_failureAt_of_faultless h hp hcause with
        ⟨ref, hnamed, hunknown, -⟩ | ⟨id, hid, hendless, -⟩
      · rw [hdeclared ref hnamed] at hunknown
        cases hunknown
      · exact absurd hendless (hends id hid)

end Scan

/-! ## Main statement -/

/-- The scan of any round of a table without faults ends with a summary, or it fails because a
marked declaration of the round names a service that is not declared, or because one of these
declarations or of the services that they name is nested without an end, so that its way outwards
never meets a namespace. It never fails because an identifier is unknown or because a declaration
has no marker, and it ends with a summary exactly if neither of the two causes is there. All this
holds for any session, whatever its options and what it has found before. -/
theorem Session.scanRound_of_faultless {t : SymbolTable} (h : t.faults = []) (s : Session)
    (index : Nat) :
    let after := (s.scanRound t index).1
    let outcome := (t.scan s.options.verify s.options.debug index s.catalog).1
    ((∃ summary, outcome = .ok summary ∧ after.scans = s.scans ++ [summary]) ∨
      (∃ ref, t.NamesService index ref ∧ (∀ d ∈ t.declarations, d.id ≠ ref) ∧
        outcome = .error (.unresolvedType ref) ∧ after.scans = s.scans) ∨
      ∃ id, (id ∈ t.markedIn index ∨ t.NamesService index id) ∧ t.Endless id ∧
        (∀ x d name, Relation.ReflTransGen t.NestedIn id x → t.find? x = some d →
          d.enclosing ≠ .topLevel name) ∧
        outcome = .error (.nestingCycle id) ∧ after.scans = s.scans) ∧
    (∀ id, outcome ≠ .error (.unknownDeclaration id) ∧ outcome ≠ .error (.notMarked id)) ∧
    ((∃ summary, outcome = .ok summary) ↔
      (∀ ref, t.NamesService index ref → t.declares ref = true) ∧
        ∀ id, id ∈ t.markedIn index ∨ t.NamesService index id → ¬ t.Endless id) := by
  intro after outcome
  have hafter : after.scans = s.scans ++ (roundSummary? t s.options index).toList := by
    simp only [after, scanRound_eq]
  -- either way the scan ends is known from its first failing point
  have hsuccess := Scan.stop_eq_none_iff_of_faultless h s.options.verify index
  cases hstop : (Scan.ofRound t s.options.verify index).stop with
  | none =>
    let summary := (Scan.ofRound t s.options.verify index).summary (t.markedIn index).length
    have hok : outcome = .ok summary := SymbolTable.scan_eq_ok_iff.mpr ⟨hstop, rfl⟩
    refine ⟨.inl ⟨summary, hok, ?_⟩, ?_, iff_of_true ⟨summary, hok⟩ (hsuccess.mp hstop)⟩
    · rw [hafter, roundSummary?, hstop]
      rfl
    · simp [hok]
  | some cause =>
    have herror : outcome = .error cause := SymbolTable.scan_eq_error_iff.mpr hstop
    have hscans : after.scans = s.scans := by
      rw [hafter, roundSummary?, hstop]
      exact List.append_nil _
    have hfails : ¬ ∃ summary, outcome = .ok summary := by
      rw [herror]
      rintro ⟨_, hok⟩
      cases hok
    have hcauses : ¬ (Scan.ofRound t s.options.verify index).stop = none := by
      rw [hstop]
      exact Option.some_ne_none cause
    have hneither := iff_of_false hfails (hsuccess.not.mp hcauses)
    rw [Scan.stop_ofRound] at hstop
    -- the point at which the scan stopped shows the cause
    obtain ⟨p, hp, hfailure⟩ := List.exists_of_findSome?_eq_some hstop
    rcases Scan.of_failureAt_of_faultless h hp hfailure with
      ⟨ref, hnamed, hunknown, rfl⟩ | ⟨id, hid, hendless, rfl⟩
    · have hnowhere := SymbolTable.declares_eq_false_iff.mp hunknown
      refine ⟨.inr (.inl ⟨ref, hnamed, hnowhere, herror, hscans⟩), ?_, hneither⟩
      simp [herror]
    · refine ⟨.inr (.inr ⟨id, hid, hendless, ?_, herror, hscans⟩), ?_, hneither⟩
      · intro x d name hpath hd htop
        obtain ⟨e, he, hnested⟩ := SymbolTable.endless_iff_declared.mp hendless x hpath
        rw [hd] at he
        cases he
        exact hnested name htop
      · simp [herror]

/-- A table without faults: in its first round a provider names a service that is not declared, in
its second round a service that is nested in itself. -/
def looseTable : SymbolTable where
  declarations :=
    [⟨⟨"S"⟩, "Greeter", .interfaceType, .topLevel "svc", [], none⟩,
      ⟨⟨"P"⟩, "English", .classType, .topLevel "impl", [⟨"S"⟩],
        some (.list [.ref ⟨"S"⟩, .ref ⟨"ghost"⟩])⟩,
      ⟨⟨"K"⟩, "Knot", .interfaceType, .nested ⟨"L"⟩, [], none⟩,
      ⟨⟨"L"⟩, "Loop", .classType, .nested ⟨"K"⟩, [], none⟩,
      ⟨⟨"Q"⟩, "French", .classType, .topLevel "impl", [⟨"K"⟩], some (.ref ⟨"K"⟩)⟩]
  rounds := some [[⟨"P"⟩], [⟨"Q"⟩]]

/-- Both rounds of this table fail, each for one of the two causes, and the services are indeed not
declared and nested without an end. -/
theorem Session.scanRound_of_faultless_loose :
    looseTable.faults = [] ∧
    (looseTable.scan true true 0 ∅).1 = .error (.unresolvedType ⟨"ghost"⟩) ∧
    (∀ d ∈ looseTable.declarations, d.id ≠ ⟨"ghost"⟩) ∧
    (looseTable.scan true true 1 ∅).1 = .error (.nestingCycle ⟨"K"⟩) ∧
    looseTable.Endless ⟨"K"⟩ := by
  have hfaults : looseTable.faults = [] := by decide +kernel
  have hghost : (looseTable.scan true true 0 ∅).1 = .error (.unresolvedType ⟨"ghost"⟩) :=
    SymbolTable.scan_eq_error_iff.mpr (by cbv)
  have hknot : (looseTable.scan true true 1 ∅).1 = .error (.nestingCycle ⟨"K"⟩) :=
    SymbolTable.scan_eq_error_iff.mpr (by cbv)
  have hfirst := (scanRound_of_faultless hfaults (.start ⟨true, true⟩) 0).1
  have hsecond := (scanRound_of_faultless hfaults (.start ⟨true, true⟩) 1).1
  simp only [Session.start, hghost] at hfirst
  simp only [Session.start, hknot] at hsecond
  refine ⟨hfaults, hghost, ?_, hknot, ?_⟩
  · -- of the three ways to end, the outcome leaves one
    rcases hfirst with ⟨_, hok, -⟩ | ⟨ref, -, hunknown, hcause, -⟩ | ⟨_, -, -, -, hcause, -⟩
    · cases hok
    · cases hcause
      exact hunknown
    · cases hcause
  · rcases hsecond with ⟨_, hok, -⟩ | ⟨_, -, -, hcause, -⟩ | ⟨id, -, hendless, -, hcause, -⟩
    · cases hok
    · cases hcause
    · cases hcause
      exact hendless

end ServiceCatalog
