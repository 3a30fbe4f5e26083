import Mathlib.Logic.Relation
import ServiceCatalog.Symbol.Supertypes

/-!
# Subtypes as reachable supertypes

The search for a supertype visits each identifier once and gives up on one that it has visited, so
what it finds depends on the identifiers that are still pending. It loses nothing: a path that comes
back to an identifier that has just been visited can be started from a supertype of that identifier
instead.

* `exists_path_past_cons`: visiting an identifier leaves a path from one of its supertypes;
* `reaches_iff`: the search finds the goal exactly if a path leads to it past the visited ones;
* `isSubtype_eq_reachable`: what the question for a subtype answers, for any two identifiers.
-/

namespace ServiceCatalog.SymbolTable

open Relation

variable {t : SymbolTable} {sub sup goal id : DeclId} {d : Declaration}
  {visited pending : List DeclId}

/-! ## Paths along supertypes -/

/-- Whether the declaration of one identifier lists another one as a supertype. -/
def Extends (t : SymbolTable) (sub sup : DeclId) : Prop :=
  ∃ d, t.find? sub = some d ∧ sup ∈ d.supertypes

/-- Whether one identifier extends another one and has not been visited. -/
def ExtendsPast (t : SymbolTable) (visited : List DeclId) (sub sup : DeclId) : Prop :=
  sub ∉ visited ∧ t.Extends sub sup

theorem extendsPast_nil : t.ExtendsPast [] = t.Extends := by
  funext sub sup
  simp [ExtendsPast]

/-- No path leads on from where there is no step. -/
theorem not_path_of_no_step {r : DeclId → DeclId → Prop} (hne : id ≠ goal)
    (hstep : ∀ next, ¬ r id next) : ¬ ReflTransGen r id goal := by
  intro hpath
  rcases hpath.cases_head with heq | ⟨next, hnext, -⟩
  · exact hne heq
  · exact hstep next hnext

/-- A path past one more visited identifier is one past the others. -/
theorem path_past_of_cons (h : ReflTransGen (t.ExtendsPast (id :: visited)) sub goal) :
    ReflTransGen (t.ExtendsPast visited) sub goal := by
  refine ReflTransGen.mono ?_ _ _ h
  rintro a b ⟨ha, hextends⟩
  rw [List.mem_cons, not_or] at ha
  exact ⟨ha.2, hextends⟩

/-- A path to the goal leads past an identifier, or one of its supertypes has a path that does. -/
theorem exists_path_past_cons (hd : t.find? id = some d)
    (h : ReflTransGen (t.ExtendsPast visited) sub goal) :
    ReflTransGen (t.ExtendsPast (id :: visited)) sub goal ∨
      ∃ next ∈ d.supertypes, ReflTransGen (t.ExtendsPast (id :: visited)) next goal := by
  -- from the goal backwards, so that the rest of the path has been dealt with at each step
  induction h using ReflTransGen.head_induction_on with
  | refl => exact .inl .refl
  | @head a next hstep _ ih =>
    rcases ih with hpath | hsupertype
    · by_cases ha : a = id
      · -- the path goes through the identifier here for the last time
        subst ha
        obtain ⟨-, e, he, hnext⟩ := hstep
        obtain rfl : d = e := Option.some.inj (hd.symm.trans he)
        exact .inr ⟨next, hnext, hpath⟩
      · have hfresh : a ∉ id :: visited := by
          rw [List.mem_cons, not_or]
          exact ⟨ha, hstep.1⟩
        exact .inl (.head ⟨hfresh, hstep.2⟩ hpath)
    · exact .inr hsupertype

/-- Visiting an identifier that is not the goal moves its paths to its supertypes. -/
theorem path_past_iff (hne : id ≠ goal) (hid : id ∉ visited) (hd : t.find? id = some d) :
    ReflTransGen (t.ExtendsPast visited) id goal ↔
      ∃ next ∈ d.supertypes, ReflTransGen (t.ExtendsPast (id :: visited)) next goal := by
  constructor
  · intro h
    have hclosed : ¬ ReflTransGen (t.ExtendsPast (id :: visited)) id goal :=
      not_path_of_no_step hne fun _ hstep => hstep.1 List.mem_cons_self
    exact (exists_path_past_cons hd h).resolve_left hclosed
  · rintro ⟨next, hnext, hpath⟩
    exact .head ⟨hid, d, hd, hnext⟩ (path_past_of_cons hpath)

/-! ## The search -/

/-- The search finds the goal exactly if a path leads to it from a pending identifier, past all that
have been visited. -/
theorem reaches_iff :
    t.reaches goal visited pending = true ↔
      ∃ id ∈ pending, ReflTransGen (t.ExtendsPast visited) id goal := by
  -- the cases are those of the search: nothing pending, the goal, visited, not declared, declared
  induction visited, pending using SymbolTable.reaches.induct t goal with
  | case1 visited => simp [reaches_nil]
  | case2 visited pending =>
    rw [reaches_cons, if_pos rfl]
    exact iff_of_true rfl ⟨goal, List.mem_cons_self, .refl⟩
  | case3 visited id pending hne hid ih =>
    -- dropping a visited identifier loses no path: none past the visited ones starts there
    have hclosed : ¬ ReflTransGen (t.ExtendsPast visited) id goal :=
      not_path_of_no_step hne fun _ hstep => hstep.1 hid
    rw [reaches_cons, if_neg hne, if_pos hid, ih]
    simp [hclosed]
  | case4 visited id pending hne hid hnone ih =>
    -- an identifier that is not declared has no supertypes, so no path goes on from it
    have hclosed : ¬ ReflTransGen (t.ExtendsPast visited) id goal := by
      refine not_path_of_no_step hne ?_
      rintro _ ⟨-, e, he, -⟩
      rw [hnone] at he
      cases he
    rw [reaches_cons, if_neg hne, if_neg hid, hnone]
    simp only [ih, List.mem_cons, exists_eq_or_imp, hclosed, false_or]
  | case5 visited id pending hne hid d hd ih =>
    rw [reaches_cons, if_neg hne, if_neg hid, hd]
    simp only [ih, List.mem_cons, exists_eq_or_imp, path_past_iff hne hid hd]
    simp only [List.mem_append, or_and_right, exists_or]
    -- a path from another pending identifier through this one starts at one of its supertypes
    constructor
    · rintro (hsupertype | ⟨other, hother, hpath⟩)
      · exact .inl hsupertype
      · exact .inr ⟨other, hother, path_past_of_cons hpath⟩
    · rintro (hsupertype | ⟨other, hother, hpath⟩)
      · exact .inl hsupertype
      · rcases exists_path_past_cons hd hpath with hpath | hsupertype
        · exact .inr ⟨other, hother, hpath⟩
        · exact .inl hsupertype

/-- A search from the start finds the goal exactly if it can be reached along supertypes. -/
theorem reaches_singleton_iff : t.reaches sup [] [sub] = true ↔ ReflTransGen t.Extends sub sup := by
  rw [reaches_iff, extendsPast_nil]
  simp

/-! ## Main statement -/

theorem isSubtype_of_declared (hsub : t.declares sub = true) (hsup : t.declares sup = true) :
    t.isSubtype sub sup = .ok (t.reaches sup [] [sub]) := by
  obtain ⟨d, hd⟩ := Option.isSome_iff_exists.mp hsub
  obtain ⟨e, he⟩ := Option.isSome_iff_exists.mp hsup
  simp only [isSubtype, hd, he]

/-- Only declared types are found to be subtypes. -/
theorem declares_of_isSubtype {answer : Bool} (h : t.isSubtype sub sup = .ok answer) :
    t.declares sub = true ∧ t.declares sup = true := by
  unfold isSubtype at h
  unfold declares
  -- either look-up would have failed
  cases hsub : t.find? sub with
  | none =>
    rw [hsub] at h
    cases h
  | some d =>
    cases hsup : t.find? sup with
    | none =>
      rw [hsub, hsup] at h
      cases h
    | some e => exact ⟨rfl, rfl⟩

theorem isSubtype_eq_ok_true_iff :
    t.isSubtype sub sup = .ok true ↔
      t.declares sub = true ∧ t.declares sup = true ∧ ReflTransGen t.Extends sub sup := by
  constructor
  · intro h
    obtain ⟨hsub, hsup⟩ := declares_of_isSubtype h
    rw [isSubtype_of_declared hsub hsup] at h
    exact ⟨hsub, hsup, reaches_singleton_iff.mp (Except.ok.inj h)⟩
  · rintro ⟨hsub, hsup, hpath⟩
    rw [isSubtype_of_declared hsub hsup, reaches_singleton_iff.mpr hpath]

/-- The question for a subtype always has an answer. It fails for the first of the two identifiers
that is not declared; if both are declared, it is true exactly if the second can be reached from the
first along supertypes, and false otherwise. So on declared types it is reflexive and transitive. -/
theorem isSubtype_eq_reachable (t : SymbolTable) (sub sup : DeclId) :
    (t.declares sub = false → t.isSubtype sub sup = .error (.unknownDeclaration sub)) ∧
    (t.declares sub = true → t.declares sup = false →
      t.isSubtype sub sup = .error (.unknownDeclaration sup)) ∧
    (t.declares sub = true → t.declares sup = true →
      (ReflTransGen t.Extends sub sup ∧ t.isSubtype sub sup = .ok true) ∨
        (¬ ReflTransGen t.Extends sub sup ∧ t.isSubtype sub sup = .ok false)) ∧
    (t.declares sub = true → t.isSubtype sub sub = .ok true) ∧
    ∀ top, t.isSubtype sub sup = .ok true → t.isSubtype sup top = .ok true →
      t.isSubtype sub top = .ok true := by
  refine ⟨?_, ?_, ?_, ?_, ?_⟩
  · intro hsub
    rw [declares, Option.isSome_eq_false_iff, Option.isNone_iff_eq_none] at hsub
    rw [isSubtype, hsub]
  · intro hsub hsup
    obtain ⟨d, hd⟩ := Option.isSome_iff_exists.mp hsub
    rw [declares, Option.isSome_eq_false_iff, Option.isNone_iff_eq_none] at hsup
    rw [isSubtype, hd, hsup]
  · -- the answer is that of the search, which starts with nothing visited
    intro hsub hsup
    rw [isSubtype_of_declared hsub hsup]
    cases hfound : t.reaches sup [] [sub] with
    | true => exact .inl ⟨reaches_singleton_iff.mp hfound, rfl⟩
    | false =>
      refine .inr ⟨?_, rfl⟩
      rw [← reaches_singleton_iff, hfound]
      exact Bool.false_ne_true
  · intro hsub
    exact isSubtype_eq_ok_true_iff.mpr ⟨hsub, hsub, .refl⟩
  · intro top hsup htop
    obtain ⟨hsub, -, hpath⟩ := isSubtype_eq_ok_true_iff.mp hsup
    obtain ⟨-, htop, hrest⟩ := isSubtype_eq_ok_true_iff.mp htop
    exact isSubtype_eq_ok_true_iff.mpr ⟨hsub, htop, hpath.trans hrest⟩

/-- A table with a cycle of three types, one of which extends itself and another one a type that is
not declared, and a type outside the cycle, whose second declaration comes too late. -/
def knot : SymbolTable where
  declarations :=
    [⟨⟨"A"⟩, "A", .classType, .topLevel "p", [⟨"A"⟩, ⟨"B"⟩, ⟨"B"⟩], none⟩,
      ⟨⟨"B"⟩, "B", .classType, .topLevel "p", [⟨"ghost"⟩, ⟨"C"⟩], none⟩,
      ⟨⟨"C"⟩, "C", .classType, .topLevel "p", [⟨"A"⟩, ⟨"D"⟩], none⟩,
      ⟨⟨"D"⟩, "D", .interfaceType, .topLevel "p", [], none⟩,
      ⟨⟨"D"⟩, "D", .interfaceType, .topLevel "p", [⟨"A"⟩], none⟩]
  rounds := none

/-- In the cycle every type is a subtype of the one outside, but not the other way round. -/
theorem isSubtype_eq_reachable_knot :
    knot.isSubtype ⟨"A"⟩ ⟨"D"⟩ = .ok true ∧ ¬ ReflTransGen knot.Extends ⟨"D"⟩ ⟨"A"⟩ ∧
      knot.isSubtype ⟨"A"⟩ ⟨"ghost"⟩ = .error (.unknownDeclaration ⟨"ghost"⟩) := by
  obtain ⟨-, -, hup, -, htrans⟩ := isSubtype_eq_reachable knot ⟨"A"⟩ ⟨"B"⟩
  obtain ⟨-, -, hdown, -⟩ := isSubtype_eq_reachable knot ⟨"D"⟩ ⟨"A"⟩
  have hextends : knot.Extends ⟨"A"⟩ ⟨"B"⟩ := ⟨_, rfl, by decide⟩
  have hrest : knot.isSubtype ⟨"B"⟩ ⟨"D"⟩ = .ok true := by cbv
  have hoff : knot.isSubtype ⟨"D"⟩ ⟨"A"⟩ = .ok false := by cbv
  refine ⟨?_, ?_, ?_⟩
  · -- the first step is a single one, and the search finds the rest
    rcases hup rfl rfl with ⟨-, hfirst⟩ | ⟨hnone, -⟩
    · exact htrans ⟨"D"⟩ hfirst hrest
    · exact absurd (ReflTransGen.single hextends) hnone
  · rcases hdown rfl rfl with ⟨-, htrue⟩ | ⟨hnone, -⟩
    · rw [hoff] at htrue
      cases htrue
    · exact hnone
  · exact (isSubtype_eq_reachable knot ⟨"A"⟩ ⟨"ghost"⟩).2.1 rfl rfl

end ServiceCatalog.SymbolTable
