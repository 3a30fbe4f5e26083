import ServiceCatalog.Symbol.Supertypes

/-!
# Names of declarations

The name of a declaration is made of the namespace and the simple names of the declarations around
it. Catalogs use the binary name, in which `$` stands before a nested declaration; messages use the
qualified name, in which `.` does.
-/

namespace ServiceCatalog

/-- Where a declaration stands: the namespace, and the simple names from the outermost declaration
to the declaration itself. -/
structure Placement where
  namespaceName : String
  names : List String
deriving Repr, DecidableEq

/-- The namespace, a dot, and the simple names with a separator between them. The unnamed namespace
is left out with its dot. -/
def Placement.render (separator : String) (p : Placement) : String :=
  let name := separator.intercalate p.names
  if p.namespaceName = "" then name else p.namespaceName ++ "." ++ name

namespace SymbolTable

/-- Follows enclosing declarations outwards from an identifier, given the identifiers and the
simple names inside it. -/
def placementFrom (t : SymbolTable) (origin : DeclId) (visited : List DeclId)
    (inner : List String) (id : DeclId) : Except SymbolError Placement :=
  match _hd : t.find? id with
  | none => .error (.unknownDeclaration id)
  | some d =>
    if _hid : id ∈ visited then .error (.nestingCycle origin)
    else
      match d.enclosing with
      | .topLevel name => .ok ⟨name, d.simpleName :: inner⟩
      | .nested outer =>
        t.placementFrom origin (id :: visited) (d.simpleName :: inner) outer
termination_by (t.unvisited visited).length
decreasing_by exact length_unvisited_cons_lt ‹_› ‹_›

/-- One step outwards. -/
theorem placementFrom_eq (t : SymbolTable) (origin : DeclId) (visited : List DeclId)
    (inner : List String) (id : DeclId) :
    t.placementFrom origin visited inner id =
      match t.find? id with
      | none => .error (.unknownDeclaration id)
      | some d =>
        if id ∈ visited then .error (.nestingCycle origin)
        else
          match d.enclosing with
          | .topLevel name => .ok ⟨name, d.simpleName :: inner⟩
          | .nested outer =>
            t.placementFrom origin (id :: visited) (d.simpleName :: inner) outer := by
  rw [placementFrom]
  split
  · next hd => simp only [hd]
  · next d hd =>
    simp only [hd]
    split
    · rfl
    · cases d.enclosing <;> rfl

/-- Where a declaration stands. -/
def placement (t : SymbolTable) (id : DeclId) : Except SymbolError Placement :=
  t.placementFrom id [] [] id

/-- The name of a declaration in catalogs, such as `p.A$B$C`. -/
def binaryName (t : SymbolTable) (id : DeclId) : Except SymbolError String :=
  (t.placement id).map (Placement.render "$")

/-- The name of a declaration in messages, such as `p.A.B.C`. -/
def qualifiedName (t : SymbolTable) (id : DeclId) : Except SymbolError String :=
  (t.placement id).map (Placement.render ".")

end SymbolTable

end ServiceCatalog
