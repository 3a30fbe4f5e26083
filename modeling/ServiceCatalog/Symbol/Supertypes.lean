import ServiceCatalog.Symbol.Lookup

/-!
# Subtypes

A declaration is a subtype of those that can be reached from it by following supertypes any number
of times. Supertypes that are not declared lead nowhere.
-/

namespace ServiceCatalog.SymbolTable

/-- The declarations whose identifiers have not been visited. -/
def unvisited (t : SymbolTable) (visited : List DeclId) : List Declaration :=
  t.declarations.filter fun d => d.id ∉ visited

/-- Visiting a declared identifier leaves fewer declarations unvisited. -/
theorem length_unvisited_cons_lt {t : SymbolTable} {id : DeclId} {d : Declaration}
    {visited : List DeclId} (hd : t.find? id = some d) (hid : id ∉ visited) :
    (t.unvisited (id :: visited)).length < (t.unvisited visited).length := by
  have hmem : d ∈ t.declarations := List.mem_of_find?_eq_some hd
  have hdid : d.id = id := by simpa using List.find?_some hd
  have hsplit : t.unvisited (id :: visited) =
      (t.unvisited visited).filter fun e => e.id ≠ id := by
    simp only [unvisited, List.filter_filter]
    congr 1
    funext e
    simp [List.mem_cons, not_or]
  rw [hsplit]
  refine List.length_filter_lt_length_iff_exists.mpr ⟨d, ?_, by simp [hdid]⟩
  simp [unvisited, hmem, hdid, hid]

/-- Whether the goal can be reached from one of the pending identifiers without passing through a
visited one. -/
def reaches (t : SymbolTable) (goal : DeclId) (visited : List DeclId) : List DeclId → Bool
  | [] => false
  | id :: pending =>
    if id = goal then true
    else if _hid : id ∈ visited then t.reaches goal visited pending
    else
      match _hd : t.find? id with
      | none => t.reaches goal visited pending
      -- what a declaration extends is searched before what was pending
      | some d => t.reaches goal (id :: visited) (d.supertypes ++ pending)
termination_by pending => ((t.unvisited visited).length, pending.length)
decreasing_by
  · exact Prod.Lex.right _ (Nat.lt_succ_self _)
  · exact Prod.Lex.right _ (Nat.lt_succ_self _)
  · exact Prod.Lex.left _ _ (length_unvisited_cons_lt ‹_› ‹_›)

theorem reaches_nil (t : SymbolTable) (goal : DeclId) (visited : List DeclId) :
    t.reaches goal visited [] = false := by
  rw [reaches]

/-- One step of the search. -/
theorem reaches_cons (t : SymbolTable) (goal : DeclId) (visited : List DeclId) (id : DeclId)
    (pending : List DeclId) :
    t.reaches goal visited (id :: pending) =
      if id = goal then true
      else if id ∈ visited then t.reaches goal visited pending
      else
        match t.find? id with
        | none => t.reaches goal visited pending
        | some d => t.reaches goal (id :: visited) (d.supertypes ++ pending) := by
  rw [reaches]
  split
  · rfl
  · split
    · rfl
    · split <;> simp only [*]

/-- Whether one declared type is another or one of its subtypes. -/
def isSubtype (t : SymbolTable) (sub sup : DeclId) : Except SymbolError Bool :=
  match t.find? sub, t.find? sup with
  | none, _ => .error (.unknownDeclaration sub)
  | some _, none => .error (.unknownDeclaration sup)
  | some _, some _ => .ok (t.reaches sup [] [sub])

end ServiceCatalog.SymbolTable
