import Mathlib.Logic.Relation
import Mathlib.Order.OrderIsoNat
import ServiceCatalog.Symbol.Naming

/-!
# Names and nesting

A declaration is nested in at most one other, so the way outwards from an identifier is a chain. The
chain ends in a declaration at the top of a namespace or at an identifier that is not declared, or
it never ends. Names are found by going along the chain, and a chain that comes back to an
identifier on it never ends.

* `NestedIn.unique`, `Outermost.unique`: the chain and its end are determined;
* `endless_iff`: a chain is infinite exactly if it has no end;
* `placement_outcome`: what looking for the place of a declaration gives, for each kind of chain;
* `names_of_nesting`: the same for binary and qualified names, with all their parts.
-/

namespace ServiceCatalog.SymbolTable

open Relation

variable {t : SymbolTable} {id x y outer : DeclId} {visited : List DeclId}
  {inner names : List String} {name : String} {p : Placement}

/-! ## The way outwards -/

/-- Whether the declaration of one identifier is nested in another one. -/
def NestedIn (t : SymbolTable) (inner outer : DeclId) : Prop :=
  ∃ d, t.find? inner = some d ∧ d.enclosing = .nested outer

/-- Whether the way outwards from one identifier ends at another one. -/
structure Outermost (t : SymbolTable) (id x : DeclId) : Prop where
  path : ReflTransGen t.NestedIn id x
  last : ∀ y, ¬ t.NestedIn x y

/-- Whether a declaration stands in a namespace, with these simple names from the outermost
declaration to itself. -/
inductive StandsAt (t : SymbolTable) : DeclId → String → List String → Prop where
  | top {id : DeclId} {d : Declaration} {name : String} :
      t.find? id = some d → d.enclosing = .topLevel name → StandsAt t id name [d.simpleName]
  | nested {id outer : DeclId} {d : Declaration} {name : String} {names : List String} :
      t.find? id = some d → d.enclosing = .nested outer → StandsAt t outer name names →
        StandsAt t id name (names ++ [d.simpleName])

theorem NestedIn.unique (hx : t.NestedIn id x) (hy : t.NestedIn id y) : x = y := by
  obtain ⟨d, hd, hx⟩ := hx
  obtain ⟨e, he, hy⟩ := hy
  obtain rfl : d = e := Option.some.inj (hd.symm.trans he)
  exact Scope.nested.inj (hx.symm.trans hy)

/-- No declaration is around one at the top of a namespace. -/
theorem not_nestedIn_of_top {d : Declaration} (hd : t.find? id = some d)
    (htop : d.enclosing = .topLevel name) : ¬ t.NestedIn id y := by
  rintro ⟨e, he, hnested⟩
  obtain rfl : d = e := Option.some.inj (hd.symm.trans he)
  rw [htop] at hnested
  cases hnested

/-- The way outwards ends at one place at most. -/
theorem Outermost.unique (hx : t.Outermost id x) (hy : t.Outermost id y) : x = y := by
  have hright : Relator.RightUnique t.NestedIn := fun _ _ _ ha hb => ha.unique hb
  rcases ReflTransGen.total_of_right_unique hright hx.path hy.path with hxy | hyx
  · rcases hxy.cases_head with heq | ⟨z, hz, -⟩
    · exact heq
    · exact absurd hz (hx.last z)
  · rcases hyx.cases_head with heq | ⟨z, hz, -⟩
    · exact heq.symm
    · exact absurd hz (hy.last z)

theorem outermost_of_unknown (hpath : ReflTransGen t.NestedIn id x) (hx : t.find? x = none) :
    t.Outermost id x := by
  refine ⟨hpath, ?_⟩
  rintro y ⟨d, hd, -⟩
  rw [hx] at hd
  cases hd

/-- A declaration that stands in a namespace is enclosed by one at the top of it. -/
theorem StandsAt.exists_outermost (h : t.StandsAt id name names) :
    ∃ x d, t.Outermost id x ∧ t.find? x = some d ∧ d.enclosing = .topLevel name := by
  induction h with
  | @top id d name hd htop =>
    exact ⟨id, d, ⟨.refl, fun _ => not_nestedIn_of_top hd htop⟩, hd, htop⟩
  | @nested id outer d name names hd hnested _ ih =>
    obtain ⟨x, e, hx, he, htop⟩ := ih
    exact ⟨x, e, ⟨.head ⟨d, hd, hnested⟩ hx.path, hx.last⟩, he, htop⟩

/-- A declaration stands at one place at most. -/
theorem StandsAt.unique {name' : String} {names' : List String} (h : t.StandsAt id name names)
    (h' : t.StandsAt id name' names') : name = name' ∧ names = names' := by
  -- at each step the declaration and its scope are the same on both ways
  induction h generalizing names' with
  | @top id d name hd htop =>
    cases h' with
    | @top _ e _ he htop' =>
      obtain rfl : d = e := Option.some.inj (hd.symm.trans he)
      exact ⟨Scope.topLevel.inj (htop.symm.trans htop'), rfl⟩
    | @nested _ outer e _ _ he hnested _ =>
      exact absurd ⟨e, he, hnested⟩ (not_nestedIn_of_top hd htop)
  | @nested id outer d name names hd hnested _ ih =>
    cases h' with
    | @top _ e _ he htop => exact absurd ⟨d, hd, hnested⟩ (not_nestedIn_of_top he htop)
    | @nested _ outer' e _ names' he hnested' hstands =>
      obtain rfl : d = e := Option.some.inj (hd.symm.trans he)
      obtain rfl : outer = outer' := Scope.nested.inj (hnested.symm.trans hnested')
      obtain ⟨rfl, rfl⟩ := ih hstands
      exact ⟨rfl, rfl⟩

theorem StandsAt.names_ne_nil (h : t.StandsAt id name names) : names ≠ [] := by
  cases h <;> simp

/-- The simple names on the way are those of declarations. -/
theorem StandsAt.exists_declared (h : t.StandsAt id name names) {n : String} (hn : n ∈ names) :
    ∃ d ∈ t.declarations, d.simpleName = n := by
  induction h with
  | @top id d name hd htop =>
    exact ⟨d, List.mem_of_find?_eq_some hd, (List.mem_singleton.mp hn).symm⟩
  | @nested id outer d name names hd hnested _ ih =>
    rcases List.mem_append.mp hn with hn | hn
    · exact ih hn
    · exact ⟨d, List.mem_of_find?_eq_some hd, (List.mem_singleton.mp hn).symm⟩

/-! ## Chains without end -/

/-- Whether the way outwards from an identifier is infinite. -/
def Endless (t : SymbolTable) (id : DeclId) : Prop :=
  ∃ way : ℕ → DeclId, way 0 = id ∧ ∀ n, t.NestedIn (way n) (way (n + 1))

/-- The way outwards can be followed to its end exactly if there is one. -/
theorem acc_iff_outermost :
    Acc (fun outer inner => t.NestedIn inner outer) id ↔ ∃ x, t.Outermost id x := by
  constructor
  · intro hacc
    induction hacc with
    | intro id _ ih =>
      -- one step further outwards, or this is the end
      by_cases hstep : ∃ y, t.NestedIn id y
      · obtain ⟨y, hy⟩ := hstep
        obtain ⟨x, hx⟩ := ih y hy
        exact ⟨x, .head hy hx.path, hx.last⟩
      · exact ⟨id, .refl, not_exists.mp hstep⟩
  · rintro ⟨x, hpath, hlast⟩
    induction hpath using ReflTransGen.head_induction_on with
    | refl => exact ⟨_, fun y hy => absurd hy (hlast y)⟩
    | @head a b hstep _ ih =>
      -- the way leads nowhere else than along the path
      refine ⟨a, fun y hy => ?_⟩
      exact hstep.unique hy ▸ ih

/-- The way outwards is infinite exactly if it does not end anywhere. -/
theorem endless_iff : t.Endless id ↔ ∀ x, ¬ t.Outermost id x := by
  rw [← not_exists, ← acc_iff_outermost]
  exact (not_acc_iff_exists_descending_chain
    (r := fun outer inner => t.NestedIn inner outer)).symm

/-- A chain that comes back to its start does not end anywhere. -/
theorem endless_of_cycle (h : TransGen t.NestedIn id id) : t.Endless id := by
  -- every identifier on the chain leads back to the start
  have hback : ∀ x, ReflTransGen t.NestedIn id x → TransGen t.NestedIn x id := by
    intro x hx
    induction hx with
    | refl => exact h
    | @tail x y _ hxy ih =>
      obtain ⟨z, hz, hrest⟩ := TransGen.head'_iff.mp ih
      obtain rfl : y = z := hxy.unique hz
      exact .trans_right hrest h
  rw [endless_iff]
  -- an end would lie on the way back to the start, so it would have a next step
  rintro x ⟨hpath, hlast⟩
  obtain ⟨y, hy, -⟩ := TransGen.head'_iff.mp (hback x hpath)
  exact hlast y hy

theorem Endless.head (hstep : t.NestedIn id outer) (h : t.Endless outer) : t.Endless id := by
  rw [endless_iff] at h ⊢
  rintro x ⟨hpath, hlast⟩
  rcases hpath.cases_head with rfl | ⟨y, hy, hrest⟩
  · exact hlast outer hstep
  · obtain rfl : outer = y := hstep.unique hy
    exact h x ⟨hrest, hlast⟩

/-- The way outwards is infinite exactly if it leads neither to an identifier that is not declared
nor to a declaration at the top of a namespace. -/
theorem endless_iff_declared : t.Endless id ↔ ∀ x, ReflTransGen t.NestedIn id x →
    ∃ d, t.find? x = some d ∧ ∀ name, d.enclosing ≠ .topLevel name := by
  rw [endless_iff]
  constructor
  · intro h x hpath
    -- an end is an identifier that is not declared or one at the top of a namespace
    cases hd : t.find? x with
    | none => exact absurd (outermost_of_unknown hpath hd) (h x)
    | some d =>
      refine ⟨d, rfl, ?_⟩
      intro name htop
      exact h x ⟨hpath, fun _ => not_nestedIn_of_top hd htop⟩
  · rintro h x ⟨hpath, hlast⟩
    obtain ⟨d, hd, htop⟩ := h x hpath
    cases henclosing : d.enclosing with
    | topLevel name => exact htop name henclosing
    | nested outer => exact hlast outer ⟨d, hd, henclosing⟩

/-! ## Looking for the place of a declaration -/

/-- The place that is found is the one where the declaration stands. -/
theorem standsAt_of_placementFrom {origin : DeclId}
    (h : t.placementFrom origin visited inner id = .ok p) :
    ∃ names, t.StandsAt id p.namespaceName names ∧ p.names = names ++ inner := by
  -- the cases are those of the search: not declared, visited before, at the top, nested
  induction visited, inner, id using SymbolTable.placementFrom.induct t with
  | case1 visited inner id hnone =>
    rw [placementFrom_eq, hnone] at h
    cases h
  | case2 visited inner id d hd hid =>
    rw [placementFrom_eq] at h
    simp only [hd, if_pos hid] at h
    cases h
  | case3 visited inner id d hd hid name hname =>
    rw [placementFrom_eq] at h
    simp only [hd, if_neg hid, hname] at h
    cases h
    exact ⟨[d.simpleName], .top hd hname, rfl⟩
  | case4 visited inner id d hd hid outer houter ih =>
    rw [placementFrom_eq] at h
    simp only [hd, if_neg hid, houter] at h
    obtain ⟨names, hstands, hnames⟩ := ih h
    refine ⟨names ++ [d.simpleName], .nested hd houter hstands, ?_⟩
    rw [hnames, List.append_assoc, List.singleton_append]

/-- If all identifiers that were visited lead to the current one, then no place is found for one of
two reasons: an identifier on the way is not declared, or the way does not end. -/
theorem of_placementFrom_error {origin : DeclId} {cause : SymbolError}
    (hvisited : ∀ v ∈ visited, TransGen t.NestedIn v id)
    (h : t.placementFrom origin visited inner id = .error cause) :
    (∃ x, cause = .unknownDeclaration x ∧ ReflTransGen t.NestedIn id x ∧ t.find? x = none) ∨
      cause = .nestingCycle origin ∧ t.Endless id := by
  -- the invariant: all visited identifiers lead on to the current one
  induction visited, inner, id using SymbolTable.placementFrom.induct t with
  | case1 visited inner id hnone =>
    rw [placementFrom_eq, hnone] at h
    exact .inl ⟨id, (Except.error.inj h).symm, .refl, hnone⟩
  | case2 visited inner id d hd hid =>
    rw [placementFrom_eq] at h
    simp only [hd, if_pos hid] at h
    -- the identifier was visited before, so it leads back to itself
    exact .inr ⟨(Except.error.inj h).symm, endless_of_cycle (hvisited id hid)⟩
  | case3 visited inner id d hd hid name hname =>
    rw [placementFrom_eq] at h
    simp only [hd, if_neg hid, hname] at h
    cases h
  | case4 visited inner id d hd hid outer houter ih =>
    rw [placementFrom_eq] at h
    simp only [hd, if_neg hid, houter] at h
    -- all that were visited lead on to the next identifier, and so does this one
    have hstep : t.NestedIn id outer := ⟨d, hd, houter⟩
    have hnext : ∀ v ∈ id :: visited, TransGen t.NestedIn v outer :=
      List.forall_mem_cons.mpr ⟨.single hstep, fun v hv => (hvisited v hv).tail hstep⟩
    rcases ih hnext h with ⟨x, hx, hpath, hnone⟩ | ⟨hcause, hendless⟩
    · exact .inl ⟨x, hx, .head hstep hpath, hnone⟩
    · exact .inr ⟨hcause, hendless.head hstep⟩

/-- What looking for the place of a declaration gives. -/
theorem placement_outcome (t : SymbolTable) (id : DeclId) :
    (∃ x, t.placement id = .error (.unknownDeclaration x) ∧
      ReflTransGen t.NestedIn id x ∧ t.find? x = none) ∨
    (t.placement id = .error (.nestingCycle id) ∧ t.Endless id) ∨
    ∃ p, t.placement id = .ok p ∧ t.StandsAt id p.namespaceName p.names := by
  cases hplacement : t.placement id with
  | ok p =>
    obtain ⟨names, hstands, hnames⟩ := standsAt_of_placementFrom hplacement
    rw [List.append_nil] at hnames
    exact .inr (.inr ⟨p, rfl, hnames ▸ hstands⟩)
  | error cause =>
    -- at the start nothing has been visited
    have hnone : ∀ v ∈ ([] : List DeclId), TransGen t.NestedIn v id := by simp
    rcases of_placementFrom_error hnone hplacement with ⟨x, rfl, hx⟩ | ⟨rfl, hendless⟩
    · exact .inl ⟨x, rfl, hx⟩
    · exact .inr (.inl ⟨rfl, hendless⟩)

theorem placement_eq_ok_iff : t.placement id = .ok ⟨name, names⟩ ↔ t.StandsAt id name names := by
  constructor
  · intro h
    obtain ⟨names', hstands, hnames⟩ := standsAt_of_placementFrom h
    rw [List.append_nil] at hnames
    obtain rfl : names = names' := hnames
    exact hstands
  · intro h
    obtain ⟨x, d, hx, hd, -⟩ := h.exists_outermost
    rcases t.placement_outcome id with ⟨y, -, hpath, hnone⟩ | ⟨-, hendless⟩ | ⟨p, hp, hstands⟩
    · -- the end of the way is declared
      rw [hx.unique (outermost_of_unknown hpath hnone), hnone] at hd
      cases hd
    · exact absurd hx (endless_iff.mp hendless x)
    · obtain ⟨rfl, rfl⟩ := h.unique hstands
      exact hp

theorem placement_eq_unknown_iff : t.placement id = .error (.unknownDeclaration x) ↔
    ReflTransGen t.NestedIn id x ∧ t.find? x = none := by
  -- of the three outcomes one is the wanted one, and the other two contradict the chain
  rcases t.placement_outcome id with ⟨y, hy, hpath, hnone⟩ | ⟨hcycle, hendless⟩ | ⟨p, hp, hstands⟩
  · rw [hy, Except.error.injEq, SymbolError.unknownDeclaration.injEq]
    constructor
    · rintro rfl
      exact ⟨hpath, hnone⟩
    · rintro ⟨hpath', hnone'⟩
      exact (outermost_of_unknown hpath hnone).unique (outermost_of_unknown hpath' hnone')
  · refine iff_of_false (by simp [hcycle]) ?_
    rintro ⟨hpath, hnone⟩
    exact endless_iff.mp hendless x (outermost_of_unknown hpath hnone)
  · refine iff_of_false (by simp [hp]) ?_
    rintro ⟨hpath, hnone⟩
    obtain ⟨y, d, hy, hd, -⟩ := hstands.exists_outermost
    rw [hy.unique (outermost_of_unknown hpath hnone), hnone] at hd
    cases hd

theorem placement_eq_cycle_iff : t.placement id = .error (.nestingCycle x) ↔
    x = id ∧ t.Endless id := by
  rcases t.placement_outcome id with ⟨y, hy, hpath, hnone⟩ | ⟨hcycle, hendless⟩ | ⟨p, hp, hstands⟩
  · refine iff_of_false (by simp [hy]) ?_
    rintro ⟨-, hendless⟩
    exact endless_iff.mp hendless y (outermost_of_unknown hpath hnone)
  · rw [hcycle, Except.error.injEq, SymbolError.nestingCycle.injEq, and_iff_left hendless]
    exact eq_comm
  · refine iff_of_false (by simp [hp]) ?_
    rintro ⟨-, hendless⟩
    obtain ⟨y, d, hy, -⟩ := hstands.exists_outermost
    exact endless_iff.mp hendless y hy

/-! ## Names -/

/-- A name is missing exactly if the place is. -/
theorem map_placement_eq_error_iff {render : Placement → String} {cause : SymbolError} :
    (t.placement id).map render = .error cause ↔ t.placement id = .error cause := by
  cases t.placement id <;> simp [Except.map]

theorem binaryName_eq_error_iff {cause : SymbolError} :
    t.binaryName id = .error cause ↔ t.placement id = .error cause :=
  map_placement_eq_error_iff

theorem qualifiedName_eq_error_iff {cause : SymbolError} :
    t.qualifiedName id = .error cause ↔ t.placement id = .error cause :=
  map_placement_eq_error_iff

/-- A name starts with the namespace and a dot, unless the namespace is the unnamed one. -/
theorem map_placement_eq_ok_iff {separator text : String} :
    (t.placement id).map (Placement.render separator) = .ok text ↔
      ∃ name names, t.StandsAt id name names ∧
        text = (if name = "" then "" else name ++ ".") ++ separator.intercalate names := by
  constructor
  · intro h
    cases hplacement : t.placement id with
    | error cause =>
      rw [hplacement] at h
      cases h
    | ok p =>
      rw [hplacement] at h
      refine ⟨p.namespaceName, p.names, placement_eq_ok_iff.mp hplacement, ?_⟩
      rw [← Except.ok.inj h, Placement.render]
      split <;> simp
  · rintro ⟨name, names, hstands, rfl⟩
    rw [placement_eq_ok_iff.mpr hstands, Except.map, Placement.render]
    simp only
    split <;> simp

/-- Follow the declarations around an identifier outwards. If the way leads to an identifier that is
not declared, then the names of the first one are missing because of it. If the way is infinite,
that is, if it leads neither to such an identifier nor to a namespace, then the names are missing
because of that. Otherwise it leads to a namespace, and the names are put together of the namespace,
if it is not the unnamed one, and all the simple names on the way, the outermost first. The binary
and the qualified name differ in nothing but the separator between the simple names. -/
theorem names_of_nesting (t : SymbolTable) (id : DeclId) :
    (∀ x, t.binaryName id = .error (.unknownDeclaration x) ↔
      ReflTransGen t.NestedIn id x ∧ t.declares x = false) ∧
    (∀ x, t.binaryName id = .error (.nestingCycle x) ↔ x = id ∧ t.Endless id) ∧
    (t.Endless id ↔ ∀ x, ReflTransGen t.NestedIn id x →
      ∃ d, t.find? x = some d ∧ ∀ name, d.enclosing ≠ .topLevel name) ∧
    (∀ text, t.binaryName id = .ok text ↔ ∃ name names, t.StandsAt id name names ∧
      text = (if name = "" then "" else name ++ ".") ++ "$".intercalate names) ∧
    (∀ text, t.qualifiedName id = .ok text ↔ ∃ name names, t.StandsAt id name names ∧
      text = (if name = "" then "" else name ++ ".") ++ ".".intercalate names) ∧
    (∀ cause, t.qualifiedName id = .error cause ↔ t.binaryName id = .error cause) ∧
    ((∃ x, ReflTransGen t.NestedIn id x ∧ t.declares x = false) ∨ t.Endless id ∨
      ∃ name names, t.StandsAt id name names) := by
  have hdeclares : ∀ x, t.declares x = false ↔ t.find? x = none := by
    intro x
    rw [declares, Option.isSome_eq_false_iff, Option.isNone_iff_eq_none]
  simp only [hdeclares]
  refine ⟨?_, ?_, endless_iff_declared, ?_, ?_, ?_, ?_⟩
  · intro x
    rw [binaryName_eq_error_iff, placement_eq_unknown_iff]
  · intro x
    rw [binaryName_eq_error_iff, placement_eq_cycle_iff]
  · intro text
    exact map_placement_eq_ok_iff
  · intro text
    exact map_placement_eq_ok_iff
  · intro cause
    rw [binaryName_eq_error_iff, qualifiedName_eq_error_iff]
  · rcases t.placement_outcome id with ⟨x, -, hx⟩ | ⟨-, hendless⟩ | ⟨p, -, hstands⟩
    · exact .inl ⟨x, hx⟩
    · exact .inr (.inl hendless)
    · exact .inr (.inr ⟨_, _, hstands⟩)

end ServiceCatalog.SymbolTable
