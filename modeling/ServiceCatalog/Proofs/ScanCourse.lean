import ServiceCatalog.Proofs.Nesting
import ServiceCatalog.Proofs.SessionRun
import ServiceCatalog.Proofs.Subtyping

/-!
# The course of a scan

A scan comes to each marked declaration of its round and then to each service that the declaration
names. At each of these points it needs look-ups, and it stops at the first point where one of them
fails. Which look-ups these are depends on the table alone: whether a provider is a subtype is asked
only after both types and all their names have been found, and then there is an answer. So checking
for subtypes decides what becomes of a pair, but not how far the scan comes.

* `ofRound_eq_sequence`: a scan as a sequence of scans of the points on its course;
* `ofPoint_of_failure`, `ofPoint_element`, `ofPoint_service`: what is found at a point;
* `stop_ofRound`, `findings_ofRound`, `mem_pairs_ofRound`: where a scan stops, and what it finds and
  registers until then;
* `of_clean_ofRound`: in a clean scan every service that a declaration names was accepted;
* `scanRound_course`: how a round of a session ends, and what is in the catalog afterwards.
-/

namespace ServiceCatalog

namespace Scan

variable {t : SymbolTable} {verify : Bool} {e ref : DeclId}

/-! ## Points -/

/-- A point of a scan: a marked declaration, by itself or with a service that its marker names. -/
structure Point where
  element : DeclId
  service : Option DeclId
deriving Repr, DecidableEq

/-- The points at a marked declaration: first the declaration by itself, then each service that its
marker names, in order. -/
def pointsAt (t : SymbolTable) (e : DeclId) : List Point :=
  ⟨e, none⟩ ::
    match t.marker e with
    | .ok m => m.services.map fun ref => ⟨e, some ref⟩
    | .error _ => []

/-- All points of the scan of a round, in order. -/
def course (t : SymbolTable) (index : Nat) : List Point := (t.markedIn index).flatMap (pointsAt t)

/-- The cause of a failed look-up. -/
def failureOf {α : Type} : Except SymbolError α → Option SymbolError
  | .ok _ => none
  | .error cause => some cause

/-- The first failed look-up at a point: the declaration needs a marker and its names, and the
service needs to be declared and to have its names. -/
def failureAt (t : SymbolTable) (p : Point) : Option SymbolError :=
  (failureOf (t.marker p.element)).or <| (failureOf (t.binaryName p.element)).or <|
    (failureOf (t.qualifiedName p.element)).or <|
      match p.service with
      | none => none
      | some ref =>
        (failureOf (t.resolve ref)).or <| (failureOf (t.binaryName ref)).or <|
          failureOf (t.qualifiedName ref)

/-- The points that a scan passes: those before the first failed look-up. -/
def passed (t : SymbolTable) (index : Nat) : List Point :=
  (course t index).takeWhile fun p => (failureAt t p).isNone

/-- What is found at a point. -/
def ofPoint (t : SymbolTable) (verify : Bool) (p : Point) : Scan :=
  needs (t.marker p.element) fun m =>
  needs (t.binaryName p.element) fun provider =>
    match p.service with
    | none =>
      if m.services = [] then
        needs (t.qualifiedName p.element) fun name => report (.missing p.element name) done
      else done
    | some ref => ofPair t verify p.element provider ref

/-! ## Look-ups at a point -/

theorem failureOf_binaryName : failureOf (t.binaryName e) = failureOf (t.placement e) := by
  rw [SymbolTable.binaryName]
  cases t.placement e <;> rfl

theorem failureOf_qualifiedName : failureOf (t.qualifiedName e) = failureOf (t.placement e) := by
  rw [SymbolTable.qualifiedName]
  cases t.placement e <;> rfl

/-- Both names of a declaration are missing for the same cause. -/
theorem failureAt_eq (p : Point) : failureAt t p =
    (failureOf (t.marker p.element)).or ((failureOf (t.placement p.element)).or
      (p.service.bind fun ref =>
        (failureOf (t.resolve ref)).or (failureOf (t.placement ref)))) := by
  -- the two names at a point fail alike, so one of the look-ups counts
  have htwice : ∀ a b : Option SymbolError, a.or (a.or b) = a.or b := by
    intro a b
    cases a <;> rfl
  rw [failureAt, failureOf_binaryName, failureOf_qualifiedName, htwice]
  cases p.service with
  | none => rfl
  | some ref =>
    simp only [failureOf_binaryName, failureOf_qualifiedName, Option.or_self, Option.bind_some]

theorem failureOf_eq_none_iff {α : Type} {answer : Except SymbolError α} :
    failureOf answer = none ↔ ∃ a, answer = .ok a := by
  cases answer <;> simp [failureOf]

theorem failureOf_eq_some_iff {α : Type} {answer : Except SymbolError α} {cause : SymbolError} :
    failureOf answer = some cause ↔ answer = .error cause := by
  cases answer <;> simp [failureOf]

/-- The look-ups at a point that is passed. -/
theorem failureAt_eq_none_iff {p : Point} : failureAt t p = none ↔
    (∃ m, t.marker p.element = .ok m) ∧ (∃ place, t.placement p.element = .ok place) ∧
      ∀ ref, p.service = some ref →
        (∃ d, t.resolve ref = .ok d) ∧ ∃ place, t.placement ref = .ok place := by
  rw [failureAt_eq]
  simp only [Option.or_eq_none_iff, failureOf_eq_none_iff, Option.bind_eq_none_iff]

/-- The look-ups at a point where one fails, up to that one. -/
theorem failureAt_eq_some_iff {p : Point} {cause : SymbolError} : failureAt t p = some cause ↔
    t.marker p.element = .error cause ∨ (∃ m, t.marker p.element = .ok m) ∧
      (t.placement p.element = .error cause ∨ (∃ place, t.placement p.element = .ok place) ∧
        ∃ ref, p.service = some ref ∧
          (t.resolve ref = .error cause ∨
            (∃ d, t.resolve ref = .ok d) ∧ t.placement ref = .error cause)) := by
  rw [failureAt_eq]
  simp only [Option.or_eq_some_iff, failureOf_eq_some_iff, failureOf_eq_none_iff,
    Option.bind_eq_some_iff]

/-! ## What is found at a point -/

theorem names_of_placement {place : Placement} (h : t.placement e = .ok place) :
    t.binaryName e = .ok (place.render "$") ∧ t.qualifiedName e = .ok (place.render ".") := by
  rw [SymbolTable.binaryName, SymbolTable.qualifiedName, h]
  exact ⟨rfl, rfl⟩

/-- Two types that are declared can be compared. -/
theorem exists_isSubtype {m : Marker} {d : Declaration} (he : t.marker e = .ok m)
    (href : t.resolve ref = .ok d) : ∃ answer, t.isSubtype e ref = .ok answer := by
  have hsub := SymbolTable.declares_of_marker he
  have hsup := SymbolTable.declares_of_resolve href
  exact ⟨_, SymbolTable.isSubtype_of_declared hsub hsup⟩

/-- Where a look-up fails, nothing is found. -/
theorem ofPoint_of_failure {p : Point} {cause : SymbolError} (h : failureAt t p = some cause) :
    ofPoint t verify p = ⟨[], some cause⟩ := by
  unfold ofPoint
  -- the qualified name of the declaration is asked for only after the service has been found, but
  -- it cannot be missing then, since the binary name was there
  rcases failureAt_eq_some_iff.mp h with
    hm | ⟨⟨m, hm⟩, hplace | ⟨⟨place, hplace⟩, ref, hp, hservice⟩⟩
  · rw [hm]
    rfl
  · rw [hm, needs_ok, SymbolTable.binaryName_eq_error_iff.mpr hplace]
    rfl
  · rw [hm, needs_ok, (names_of_placement hplace).1, needs_ok, hp]
    simp only [ofPair]
    rcases hservice with hd | ⟨⟨d, hd⟩, hplace'⟩
    · rw [hd]
      rfl
    · rw [hd, needs_ok, SymbolTable.id_of_resolve hd,
        SymbolTable.qualifiedName_eq_error_iff.mpr hplace']
      rfl

/-- At a declaration that is passed, it is found whether its marker names no service. -/
theorem ofPoint_element (verify : Bool) (h : failureAt t ⟨e, none⟩ = none) :
    ∃ m provider name, t.marker e = .ok m ∧ t.binaryName e = .ok provider ∧
      t.qualifiedName e = .ok name ∧
      ofPoint t verify ⟨e, none⟩ = ⟨if m.services = [] then [.missing e name] else [], none⟩ := by
  obtain ⟨⟨m, hm⟩, ⟨place, hplace⟩, -⟩ := failureAt_eq_none_iff.mp h
  obtain ⟨hbinary, hqualified⟩ := names_of_placement hplace
  refine ⟨m, _, _, hm, hbinary, hqualified, ?_⟩
  simp only [ofPoint, hm, hbinary, hqualified, needs_ok]
  split <;> rfl

/-- At a service that is passed, the names of the two types are found, and the pair is registered or
rejected. -/
theorem ofPoint_service (verify : Bool) (h : failureAt t ⟨e, some ref⟩ = none) :
    ∃ d provider name service serviceName answer,
      t.resolve ref = .ok d ∧ t.binaryName e = .ok provider ∧ t.qualifiedName e = .ok name ∧
      t.binaryName ref = .ok service ∧ t.qualifiedName ref = .ok serviceName ∧
      t.isSubtype e ref = .ok answer ∧
      ofPoint t verify ⟨e, some ref⟩ =
        ⟨[.remark ("provider interface: " ++ serviceName),
          .remark ("provider implementer: " ++ name),
          if verify = true ∧ answer = false then .rejected e name serviceName
          else .registered service provider], none⟩ := by
  obtain ⟨⟨m, hm⟩, ⟨place, hplace⟩, hservice⟩ := failureAt_eq_none_iff.mp h
  obtain ⟨⟨d, hd⟩, place', hplace'⟩ := hservice ref rfl
  obtain ⟨hbinary, hqualified⟩ := names_of_placement hplace
  obtain ⟨hbinary', hqualified'⟩ := names_of_placement hplace'
  obtain ⟨answer, hanswer⟩ := exists_isSubtype hm hd
  have hid : d.id = ref := SymbolTable.id_of_resolve hd
  refine ⟨d, _, _, _, _, answer, hd, hbinary, hqualified, hbinary', hqualified', hanswer, ?_⟩
  -- each look-up is answered, and the branch depends on the check and its answer
  simp only [ofPoint, ofPair, hm, hbinary, hqualified, hd, hid, hbinary', hqualified', accepts,
    hanswer, needs_ok]
  cases verify <;> cases answer <;> rfl

/-- A scan of a point stops exactly where a look-up fails. -/
theorem stop_ofPoint (t : SymbolTable) (verify : Bool) (p : Point) :
    (ofPoint t verify p).stop = failureAt t p := by
  cases h : failureAt t p with
  | some cause => rw [ofPoint_of_failure h]
  | none =>
    rcases p with ⟨e, _ | ref⟩
    · obtain ⟨_, _, _, -, -, -, hfound⟩ := ofPoint_element verify h
      rw [hfound]
    · obtain ⟨_, _, _, _, _, _, -, -, -, -, -, -, hfound⟩ := ofPoint_service verify h
      rw [hfound]

/-! ## The course of a scan -/

/-- The scan of a declaration is the sequence of the scans of its points. -/
theorem ofElement_eq_sequence (t : SymbolTable) (verify : Bool) (e : DeclId) :
    ofElement t verify e = sequence ((pointsAt t e).map (ofPoint t verify)) := by
  cases hfirst : failureAt t ⟨e, none⟩ with
  | some cause =>
    -- the scan stops before it comes to a service
    have hcons : sequence ((pointsAt t e).map (ofPoint t verify)) = ⟨[], some cause⟩ := by
      rw [pointsAt, List.map_cons, ofPoint_of_failure hfirst]
      rfl
    rw [hcons, ofElement]
    rcases failureAt_eq_some_iff.mp hfirst with hm | ⟨⟨m, hm⟩, hplace | ⟨-, ref, href, -⟩⟩
    · rw [hm]
      rfl
    · have hbinary := SymbolTable.binaryName_eq_error_iff.mpr hplace
      have hqualified := SymbolTable.qualifiedName_eq_error_iff.mpr hplace
      rw [hm, needs_ok]
      cases m.services with
      | nil => simp only [hqualified, needs]
      | cons ref refs => simp only [hbinary, needs]
    · cases href
  | none =>
    -- the scan goes on to the services, all under the binary name that was found
    obtain ⟨⟨m, hm⟩, ⟨place, hplace⟩, -⟩ := failureAt_eq_none_iff.mp hfirst
    obtain ⟨hbinary, hqualified⟩ := names_of_placement hplace
    have hservice : ∀ ref, ofPoint t verify ⟨e, some ref⟩ =
        ofPair t verify e (place.render "$") ref := by
      intro ref
      simp only [ofPoint, hm, hbinary, needs_ok]
    rw [ofElement, pointsAt, hm, needs_ok]
    simp only [List.map_cons, List.map_map, Function.comp_def, hservice]
    simp only [ofPoint, hm, hbinary, hqualified, needs_ok]
    cases m.services with
    | nil => rfl
    | cons ref refs =>
      rw [if_neg (List.cons_ne_nil ref refs)]
      rfl

theorem element_of_mem_pointsAt {p : Point} (h : p ∈ pointsAt t e) : p.element = e := by
  unfold pointsAt at h
  rcases List.mem_cons.mp h with rfl | h
  · rfl
  · split at h
    · obtain ⟨ref, -, rfl⟩ := List.mem_map.mp h
      rfl
    · cases h

/-- The scan of a declaration stops at the first of its points where a look-up fails. -/
theorem stop_ofElement (t : SymbolTable) (verify : Bool) (e : DeclId) :
    (ofElement t verify e).stop = (pointsAt t e).findSome? (failureAt t) := by
  rw [ofElement_eq_sequence, stop_sequence_map]
  simp only [stop_ofPoint]

/-- The scan of a round is the sequence of the scans of the points on its course. -/
theorem ofRound_eq_sequence (t : SymbolTable) (verify : Bool) (index : Nat) :
    ofRound t verify index =
      report (.remark (openingRemark index (t.markedIn index)))
        (sequence ((course t index).map (ofPoint t verify))) := by
  have helements : ofElement t verify = fun e => sequence ((pointsAt t e).map (ofPoint t verify)) :=
    funext (ofElement_eq_sequence t verify)
  rw [ofRound, helements, ← sequence_flatMap, course, List.map_flatMap]

/-- A scan stops at the first point where a look-up fails. -/
theorem stop_ofRound (t : SymbolTable) (verify : Bool) (index : Nat) :
    (ofRound t verify index).stop = (course t index).findSome? (failureAt t) := by
  rw [ofRound_eq_sequence]
  show (sequence ((course t index).map (ofPoint t verify))).stop = _
  rw [stop_sequence_map]
  simp only [stop_ofPoint]

/-- A scan finds what there is at the points that it passes. -/
theorem findings_ofRound (t : SymbolTable) (verify : Bool) (index : Nat) :
    (ofRound t verify index).findings =
      .remark (openingRemark index (t.markedIn index)) ::
        (passed t index).flatMap fun p => (ofPoint t verify p).findings := by
  -- a point at which the scan stops has no findings of its own
  have hstops : ∀ p ∈ course t index, (ofPoint t verify p).stop ≠ none →
      (ofPoint t verify p).findings = [] := by
    intro p _ hstop
    rw [stop_ofPoint] at hstop
    obtain ⟨cause, hcause⟩ := Option.ne_none_iff_exists'.mp hstop
    rw [ofPoint_of_failure hcause]
  rw [ofRound_eq_sequence, report, findings_sequence_map _ hstops]
  simp only [stop_ofPoint, passed]

theorem failureAt_of_passed {index : Nat} {p : Point} (h : p ∈ passed t index) :
    failureAt t p = none := by
  unfold passed at h
  have hnone := List.mem_takeWhile_imp h
  exact Option.isNone_iff_eq_none.mp hnone

/-- The pair of a point that is passed is registered unless it is checked and found not to be one of
a subtype. -/
theorem mem_pairs_ofPoint {p : Point} (h : failureAt t p = none) {i q : String} :
    (i, q) ∈ (ofPoint t verify p).pairs ↔
      ∃ ref, p.service = some ref ∧ t.binaryName ref = .ok i ∧ t.binaryName p.element = .ok q ∧
        (verify = true → t.isSubtype p.element ref = .ok true) := by
  rcases p with ⟨e, _ | ref⟩
  · obtain ⟨m, provider, name, -, -, -, hfound⟩ := ofPoint_element verify h
    rw [hfound]
    -- a declaration by itself is no pair
    refine iff_of_false ?_ (by simp)
    simp only [pairs]
    split <;> simp [Finding.pair?]
  · obtain ⟨d, provider, name, service, serviceName, answer, -, hprovider, -, hservice, -, hanswer,
      hfound⟩ := ofPoint_service verify h
    rw [hfound]
    simp only [pairs, Option.some.injEq, exists_eq_left', hprovider, hservice, hanswer,
      Except.ok.injEq]
    -- the four cases of the check and its answer; only a rejection leaves the pair out
    cases verify <;> cases answer <;> simp [Finding.pair?, eq_comm]

/-- A scan registers the pairs of the points that it passes. -/
theorem mem_pairs_ofRound {index : Nat} {i q : String} :
    (i, q) ∈ (ofRound t verify index).pairs ↔
      ∃ e ref, ⟨e, some ref⟩ ∈ passed t index ∧ t.binaryName ref = .ok i ∧
        t.binaryName e = .ok q ∧ (verify = true → t.isSubtype e ref = .ok true) := by
  have hpairs : (ofRound t verify index).pairs =
      (passed t index).flatMap fun p => (ofPoint t verify p).pairs := by
    rw [pairs, findings_ofRound, List.filterMap_cons]
    simp only [Finding.pair?, List.filterMap_flatMap]
    rfl
  rw [hpairs, List.mem_flatMap]
  constructor
  · rintro ⟨p, hp, hpair⟩
    obtain ⟨ref, hservice, hpair⟩ := (mem_pairs_ofPoint (failureAt_of_passed hp)).mp hpair
    refine ⟨p.element, ref, ?_, hpair⟩
    rw [← hservice]
    exact hp
  · rintro ⟨e, ref, hp, hpair⟩
    exact ⟨_, hp, (mem_pairs_ofPoint (failureAt_of_passed hp)).mpr ⟨ref, rfl, hpair⟩⟩

/-! ## Clean scans -/

/-- A scan that does not stop passes all points. -/
theorem passed_eq_course {index : Nat} (h : (ofRound t verify index).stop = none) :
    passed t index = course t index := by
  rw [stop_ofRound, List.findSome?_eq_none_iff] at h
  rw [passed, List.takeWhile_eq_self_iff]
  intro p hp
  rw [h p hp, Option.isNone_none]

/-- In a clean scan of a round every marked declaration names a service, and every service that it
names was resolved, accepted and registered. -/
theorem of_clean_ofRound {index : Nat} (h : (ofRound t verify index).Clean)
    (helement : e ∈ t.markedIn index) :
    ∃ m provider, t.marker e = .ok m ∧ m.services ≠ [] ∧ t.binaryName e = .ok provider ∧
      ∀ ref ∈ m.services, ∃ d service, t.resolve ref = .ok d ∧ t.binaryName ref = .ok service ∧
        (verify = true → t.isSubtype e ref = .ok true) ∧
          (service, provider) ∈ (ofRound t verify index).pairs := by
  have hall := passed_eq_course h.stop
  -- no finding of the scan is a fault, so none at any of its points is
  have hfaults : ∀ p ∈ passed t index, ∀ f ∈ (ofPoint t verify p).findings, f.isFault = false := by
    intro p hp f hf
    refine h.faults f ?_
    rw [findings_ofRound]
    exact List.mem_cons_of_mem _ (List.mem_flatMap.mpr ⟨p, hp, hf⟩)
  have hpoints : ∀ p ∈ pointsAt t e, p ∈ passed t index := by
    intro p hp
    rw [hall]
    exact List.mem_flatMap.mpr ⟨e, helement, hp⟩
  -- the first point shows that the marker names a service, the others show that it is accepted
  have hfirst : (⟨e, none⟩ : Point) ∈ passed t index := hpoints _ List.mem_cons_self
  obtain ⟨m, provider, name, hm, hprovider, -, hfound⟩ :=
    ofPoint_element verify (failureAt_of_passed hfirst)
  refine ⟨m, provider, hm, ?_, hprovider, ?_⟩
  · intro hnil
    have hmissing : Finding.missing e name ∈ (ofPoint t verify ⟨e, none⟩).findings := by
      rw [hfound, if_pos hnil]
      exact List.mem_singleton_self _
    exact absurd (hfaults _ hfirst _ hmissing) (by simp [Finding.isFault, Finding.isMissing])
  · intro ref href
    have hpoint : (⟨e, some ref⟩ : Point) ∈ passed t index := by
      refine hpoints _ (List.mem_cons_of_mem _ ?_)
      rw [hm]
      exact List.mem_map_of_mem href
    obtain ⟨d, _, name, service, serviceName, answer, hd, -, -, hservice, -, hanswer, hfound⟩ :=
      ofPoint_service verify (failureAt_of_passed hpoint)
    have hsubtype : verify = true → t.isSubtype e ref = .ok true := by
      intro hverify
      cases answer with
      | true => exact hanswer
      | false =>
        -- a pair that fails the check is reported as an error
        have hrejected : Finding.rejected e name serviceName ∈
            (ofPoint t verify ⟨e, some ref⟩).findings := by
          rw [hfound, if_pos ⟨hverify, rfl⟩]
          simp
        exact absurd (hfaults _ hpoint _ hrejected) (by simp [Finding.isFault, Finding.isRejected])
    exact ⟨d, service, hd, hservice, hsubtype,
      mem_pairs_ofRound.mpr ⟨e, ref, hpoint, hservice, hprovider, hsubtype⟩⟩

end Scan

/-! ## Main statement -/

/-- The points of a round are its marked declarations and, after each of them, the services that its
marker names. The scan of the round fails exactly if a look-up fails at one of the points, and then
with the failure of the first such point; points and failures depend on the table alone, so that any
other session fails alike, whatever its options and what it has found before. Either way the catalog
then lists what it listed before and the pairs of the points that were passed; if subtypes are
checked, only those of them that are pairs of a subtype and its service, and the check always has an
answer. -/
theorem Session.scanRound_course (t : SymbolTable) (s : Session) (index : Nat) :
    let after := (s.scanRound t index).1
    let outcome := (t.scan s.options.verify s.options.debug index s.catalog).1
    (∀ cause, outcome = .error cause ↔
      (Scan.course t index).findSome? (Scan.failureAt t) = some cause) ∧
    ((∃ summary, outcome = .ok summary) ↔
      ∀ p ∈ Scan.course t index, Scan.failureAt t p = none) ∧
    (∀ (other : Session) cause,
      (t.scan other.options.verify other.options.debug index other.catalog).1 = .error cause ↔
        outcome = .error cause) ∧
    after.scans = s.scans ++ outcome.toOption.toList ∧
    (∀ e ref, ⟨e, some ref⟩ ∈ Scan.passed t index →
      ∃ i p answer, t.binaryName ref = .ok i ∧ t.binaryName e = .ok p ∧
        t.isSubtype e ref = .ok answer) ∧
    ∀ i p, after.catalog.lists i p = true ↔ s.catalog.lists i p = true ∨
      ∃ e ref, ⟨e, some ref⟩ ∈ Scan.passed t index ∧ t.binaryName ref = .ok i ∧
        t.binaryName e = .ok p ∧ (s.options.verify = true → t.isSubtype e ref = .ok true) := by
  intro after outcome
  have hstop := Scan.stop_ofRound t s.options.verify index
  refine ⟨?_, ?_, ?_, ?_, ?_, ?_⟩
  · intro cause
    rw [← hstop]
    exact SymbolTable.scan_eq_error_iff
  · rw [← List.findSome?_eq_none_iff, ← hstop]
    simp only [outcome, SymbolTable.scan_eq_ok_iff, exists_and_left, exists_eq, and_true]
  · intro other cause
    -- the stop of either scan is the first failure on the course, which knows no options
    simp only [outcome, SymbolTable.scan_eq_error_iff, Scan.stop_ofRound]
  · simp only [after, outcome, scanRound]
    cases (t.scan s.options.verify s.options.debug index s.catalog).1 <;> simp [Except.toOption]
  · intro e ref hp
    obtain ⟨_, provider, _, service, _, answer, -, hprovider, -, hservice, -, hanswer, -⟩ :=
      Scan.ofPoint_service s.options.verify (Scan.failureAt_of_passed hp)
    exact ⟨service, provider, answer, hservice, hprovider, hanswer⟩
  · intro i p
    have hcatalog : after.catalog = (Scan.ofRound t s.options.verify index).addTo s.catalog := by
      simp only [after, scanRound_eq]
    rw [hcatalog, Scan.lists_addTo, Scan.mem_pairs_ofRound]

end ServiceCatalog
