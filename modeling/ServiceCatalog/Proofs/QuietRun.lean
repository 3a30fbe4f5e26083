import ServiceCatalog.Compilation
import ServiceCatalog.Proofs.QuietScan

/-!
# Runs that report no notes

A merge logs what it reads and writes, as a scan does what it comes to. What is logged decides
nothing: of two runs that differ in the notes alone, both make the same requests to the store, come
to the same result at every service and fail at the same one. So two sessions end every round in the
same state, on the same store, and one reports what the other does apart from the notes.

* `Merge.Quiet`: what two such parts of a merge have in common, with `mergeInto_quiet` for one
  resource and `mergeServices_quiet` for services up to the first that fails;
* `Session.SameButNotes`: what two such sessions have in common, with `scanRound_quiet`,
  `finish_quiet` and `handle_quiet` for one round and `handleAll_quiet` for any rounds in any order;
* `SymbolTable.compile_quiet`: a compilation with notes and the same one without them.
-/

namespace ServiceCatalog

/-! ## Merges -/

namespace Merge

variable {σ : Type}

/-- Whether a part of a merge is another one without its notes: on the same store it has the same
result, leaves the same store and reports what the other one does apart from notes. -/
def Quiet {α : Type} (loud silent : StateM σ (Journal × α)) : Prop :=
  ∀ st, silent st = (((loud st).1.1.shown false, (loud st).1.2), (loud st).2)

/-- What a resource names does not depend on the notes, and a warning about it is no note. -/
theorem existing_quiet (debug : Bool) (resource : String) (content : Except Fault Bytes) :
    existing false resource content =
      ((existing debug resource content).1, (existing debug resource content).2.shown false) := by
  cases content with
  | ok content =>
    simp only [existing]
    -- the notes on a missing resource and on the old names are left out; the warning stays
    cases Service.readEntries? content with
    | none => rfl
    | some names => simp only [Journal.shown_log]
  | error fault =>
    simp only [existing]
    cases fault.isMissing with
    | true => simp only [if_true, Journal.shown_log]
    | false => rfl

/-- The merge into one resource. Both runs read it once and, if there is something to write, write
the same content; they log at the same points. -/
theorem mergeInto_quiet (store : Store (StateM σ)) (debug : Bool) (resource : String)
    (ps : NameSet) :
    Quiet (mergeInto debug store resource ps) (mergeInto false store resource ps) := by
  intro st
  simp only [mergeInto, bind_apply, existing_quiet debug]
  rcases store.read resource st with ⟨content, st'⟩
  rcases existing debug resource content with ⟨old, reading⟩
  -- both runs decide alike, since the old names are the same
  by_cases hold : ps ⊆ old
  · simp only [if_pos hold, pure_apply, Journal.shown_append, Journal.shown_log]
  · simp only [if_neg hold, bind_apply]
    rcases writeNames store resource (old ∪ ps) st' with ⟨fault | _, st''⟩
    · simp only [pure_apply, Journal.shown_append, Journal.shown_log]
    · simp only [pure_apply, Journal.shown_append, Journal.shown_log]

/-- The merge of a service. An unfit name is found out before anything is logged. -/
theorem mergeService_quiet (store : Store (StateM σ)) (debug : Bool) (i : String) (ps : NameSet) :
    Quiet (mergeService debug store i ps) (mergeService false store i ps) := by
  unfold mergeService
  cases Service.nameFault? i with
  | some fault => exact fun _ => rfl
  | none => exact mergeInto_quiet store debug (Service.resourceName i) ps

/-- Services one after another: both runs go on after a service or end at it. -/
theorem mergeServices_quiet (store : Store (StateM σ)) (debug : Bool)
    (es : List (String × NameSet)) :
    Quiet (mergeServices debug store es) (mergeServices false store es) := by
  -- the induction is on the services; no step can see what was logged before it
  induction es with
  | nil => exact fun _ => rfl
  | cons e es ih =>
    obtain ⟨i, ps⟩ := e
    intro st
    rw [mergeServices, mergeServices, bind_apply, bind_apply,
      mergeService_quiet store debug i ps st]
    rcases mergeService debug store i ps st with ⟨⟨journal, failure | change⟩, st'⟩
    · rfl
    · -- the services after it start from the same store
      simp only [bind_apply, ih st', pure_apply, Journal.shown_append]

end Merge

theorem Catalog.mergeInto_quiet {σ : Type} (c : Catalog) (debug : Bool) (store : Store (StateM σ)) :
    Merge.Quiet (c.mergeInto debug store) (c.mergeInto false store) :=
  Merge.mergeServices_quiet store debug c.services.entries

namespace Session

variable {σ : Type}

/-! ## One round -/

/-- The same session with notes switched off. -/
def quiet (s : Session) : Session := { s with options := { s.options with debug := false } }

/-- Whether one run is another one without its notes: it ends in the same state, leaves the same
store and reports the same diagnostics apart from notes. -/
structure SameButNotes (loud silent : (Session × Journal) × σ) : Prop where
  session : silent.1.1 = loud.1.1.quiet
  journal : silent.1.2 = loud.1.2.shown false
  store : silent.2 = loud.2

/-- What ends the work is reported after what was reported before it, and is no note. -/
theorem shown_append_fatal (j : Journal) (failure : Failure) :
    Journal.shown false (j ++ [.fatal failure]) = j.shown false ++ [.fatal failure] :=
  Journal.shown_append false j [.fatal failure]

/-- The scan of a round, whether it comes to its end or not. -/
theorem scanRound_quiet (s : Session) (t : SymbolTable) (index : Nat) (st : σ) :
    SameButNotes (s.scanRound t index, st) (s.quiet.scanRound t index, st) := by
  have hquiet : s.quiet.scanRound t index =
      ((s.scanRound t index).1.quiet, (s.scanRound t index).2.shown false) := by
    simp only [scanRound, quiet, t.scan_quiet s.options.verify s.options.debug index s.catalog]
    rcases t.scan s.options.verify s.options.debug index s.catalog with
      ⟨cause | summary, catalog, journal⟩
    · simp only [shown_append_fatal]
    · rfl
  -- the state differs in the flag alone, the journal in the notes
  rw [hquiet]
  constructor <;> rfl

/-- The merge at the end, whether it succeeds or not. -/
theorem finish_quiet (store : Store (StateM σ)) (s : Session) (st : σ) :
    SameButNotes (s.finish store st) (s.quiet.finish store st) := by
  by_cases hfinished : s.finished = true
  · have hquiet : s.quiet.finished = true := hfinished
    rw [finish, finish, if_pos hfinished, if_pos hquiet]
    constructor <;> rfl
  · have hquiet : ¬ s.quiet.finished = true := hfinished
    have hmerge : s.quiet.catalog.mergeInto s.quiet.options.debug store st = _ :=
      s.catalog.mergeInto_quiet s.options.debug store st
    rw [finish, finish, if_neg hfinished, if_neg hquiet, bind_apply, bind_apply, hmerge]
    -- a failed merge adds an error, which is shown either way
    rcases s.catalog.mergeInto s.options.debug store st with ⟨⟨journal, failure | report⟩, st'⟩
    · exact ⟨rfl, (shown_append_fatal journal failure).symm, rfl⟩
    · exact ⟨rfl, rfl, rfl⟩

/-- Handling any round with notes and without them. -/
theorem handle_quiet (store : Store (StateM σ)) (s : Session) (t : SymbolTable) (round : Round)
    (st : σ) : SameButNotes (s.handle store t round st) (s.quiet.handle store t round st) := by
  unfold handle
  split
  · exact finish_quiet store s st
  · exact scanRound_quiet s t round.index st

/-! ## Any rounds -/

theorem handleAll_cons (store : Store (StateM σ)) (t : SymbolTable) (s : Session) (round : Round)
    (rounds : List Round) (st : σ) :
    handleAll store t s (round :: rounds) st =
      let first := s.handle store t round st
      let rest := handleAll store t first.1.1 rounds first.2
      ((rest.1.1, first.1.2 ++ rest.1.2), rest.2) := rfl

/-- Handling rounds in any order, with any number of last ones among them. -/
theorem handleAll_quiet (store : Store (StateM σ)) (t : SymbolTable) (s : Session)
    (rounds : List Round) (st : σ) :
    SameButNotes (handleAll store t s rounds st) (handleAll store t s.quiet rounds st) := by
  -- the induction is on the rounds, with the state and the store varying
  induction rounds generalizing s st with
  | nil => exact ⟨rfl, rfl, rfl⟩
  | cons round rounds ih =>
    have hround := handle_quiet store s t round st
    -- the rounds after it start from the same state and the same store
    have hrest := ih (s.handle store t round st).1.1 (s.handle store t round st).2
    simp only [handleAll_cons, hround.session, hround.store, hround.journal]
    constructor
    · exact hrest.session
    · rw [hrest.journal, Journal.shown_append]
    · exact hrest.store

end Session

/-! ## Compilations -/

/-- A compilation with notes and the same one without them, over any table, in any number of rounds
and on any store, whatever its requests answer: both have the same report (rounds, summaries, what
the merge did, what was found) and leave the same store. The one without notes reports none, and it
reports all other diagnostics in the same order. -/
theorem SymbolTable.compile_quiet {σ : Type} (t : SymbolTable) (store : Store (StateM σ))
    (rounds : Nat) (verify : Bool) (st : σ) :
    let loud := t.compile store rounds ⟨verify, true⟩ st
    let silent := t.compile store rounds ⟨verify, false⟩ st
    silent.1.1 = loud.1.1 ∧ silent.2 = loud.2 ∧ (∀ d ∈ silent.1.2, d.severity ≠ .note) ∧
      silent.1.2 = loud.1.2.filter fun d => d.severity ≠ .note := by
  intro loud silent
  let run (debug : Bool) :=
    Session.handleAll store t (.start ⟨verify, debug⟩) (roundsOf (max rounds 1)) st
  have hrun : Session.SameButNotes (run true) (run false) :=
    Session.handleAll_quiet store t (.start ⟨verify, true⟩) (roundsOf (max rounds 1)) st
  -- a report holds nothing of the state in which notes could be seen
  let report (s : Session) : CompilationReport := ⟨max rounds 1, s.scans, s.merge, s.catalog⟩
  have hquiet : ∀ s : Session, report s.quiet = report s := fun _ => rfl
  have hloud : loud.1.1 = report (run true).1.1 := rfl
  have hsilent : silent.1.1 = report (run false).1.1 := rfl
  have hjournal : silent.1.2 = loud.1.2.shown false := hrun.journal
  constructor
  · rw [hsilent, hrun.session, hquiet, hloud]
  constructor
  · exact hrun.store
  constructor
  · intro d hd
    rw [hjournal] at hd
    exact Journal.severity_of_mem_shown hd
  · exact hjournal

end ServiceCatalog
