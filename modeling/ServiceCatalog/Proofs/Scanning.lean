import ServiceCatalog.Proofs.Findings

/-!
# Scans one after another

A scan is put together from smaller ones, which follow one another up to the first that stops.

* `sequence_flatMap`: a sequence of sequences is one sequence;
* `stop_sequence_map`, `findings_sequence_map`: where a sequence stops and what it finds until then;
* `Clean`: a scan that went through to its end and found no fault.
-/

namespace ServiceCatalog

namespace Finding

/-- Whether a finding is reported as an error. -/
def isFault (f : Finding) : Bool := f.isMissing || f.isRejected

end Finding

namespace SymbolTable

variable {t : SymbolTable} {ref : DeclId} {d : Declaration}

/-- A reference resolves to the declaration of its identifier. -/
theorem resolve_eq_ok_iff : t.resolve ref = .ok d ↔ t.find? ref = some d := by
  unfold resolve
  cases t.find? ref <;> simp

theorem id_of_find? (h : t.find? ref = some d) : d.id = ref := by
  simpa using List.find?_some h

theorem id_of_resolve (h : t.resolve ref = .ok d) : d.id = ref :=
  id_of_find? (resolve_eq_ok_iff.mp h)

theorem declares_of_resolve (h : t.resolve ref = .ok d) : t.declares ref = true := by
  rw [declares, resolve_eq_ok_iff.mp h, Option.isSome_some]

theorem declares_of_marker {m : Marker} (h : t.marker ref = .ok m) : t.declares ref = true := by
  unfold marker at h
  unfold declares
  cases hd : t.find? ref with
  | none =>
    rw [hd] at h
    cases h
  | some d => rfl

end SymbolTable

namespace Scan

/-- Whether a scan did not stop and found no fault. -/
structure Clean (s : Scan) : Prop where
  stop : s.stop = none
  faults : ∀ f ∈ s.findings, f.isFault = false

theorem needs_ok {α : Type} (a : α) (next : α → Scan) : needs (.ok a) next = next a := rfl

/-! ## Sequences of scans -/

section Sequences

variable {α : Type}

theorem sequence_cons (s : Scan) (scans : List Scan) :
    sequence (s :: scans) = s.followedBy (sequence scans) := rfl

theorem followedBy_assoc (first second third : Scan) :
    (first.followedBy second).followedBy third = first.followedBy (second.followedBy third) := by
  unfold followedBy
  cases first.stop with
  | some cause => rfl
  | none => cases second.stop <;> simp

theorem sequence_append (scans later : List Scan) :
    sequence (scans ++ later) = (sequence scans).followedBy (sequence later) := by
  induction scans with
  | nil => rfl
  | cons s scans ih =>
    rw [List.cons_append, sequence_cons, sequence_cons, ih, followedBy_assoc]

/-- A sequence of sequences is one sequence. -/
theorem sequence_flatMap (f : α → List Scan) (as : List α) :
    sequence (as.flatMap f) = sequence (as.map fun a => sequence (f a)) := by
  induction as with
  | nil => rfl
  | cons a as ih => rw [List.flatMap_cons, sequence_append, ih, List.map_cons, sequence_cons]

/-- Scans one after another stop where the first of them stops that does. -/
theorem stop_sequence_map (f : α → Scan) (as : List α) :
    (sequence (as.map f)).stop = as.findSome? fun a => (f a).stop := by
  induction as with
  | nil => rfl
  | cons a as ih =>
    rw [List.map_cons, sequence_cons, List.findSome?_cons, ← ih, followedBy]
    cases (f a).stop <;> rfl

/-- If scans that stop find nothing, then a sequence of scans finds what those find that come before
the first one that stops. -/
theorem findings_sequence_map (f : α → Scan) {as : List α}
    (h : ∀ a ∈ as, (f a).stop ≠ none → (f a).findings = []) :
    (sequence (as.map f)).findings =
      (as.takeWhile fun a => (f a).stop.isNone).flatMap fun a => (f a).findings := by
  induction as with
  | nil => rfl
  | cons a as ih =>
    rcases List.forall_mem_cons.mp h with ⟨ha, has⟩
    rw [List.map_cons, sequence_cons, followedBy, List.takeWhile_cons]
    -- a scan that stops contributes nothing, so it is the end of the findings as well
    cases hstop : (f a).stop with
    | some cause => exact ha (by simp [hstop])
    | none => simp [ih has]

end Sequences

end Scan

end ServiceCatalog
