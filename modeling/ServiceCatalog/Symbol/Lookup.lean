import ServiceCatalog.Symbol.Marker

/-!
# Looking up declarations

Of several declarations with one identifier the first one counts.
-/

namespace ServiceCatalog.SymbolTable

/-- The declaration with an identifier. -/
def find? (t : SymbolTable) (id : DeclId) : Option Declaration :=
  t.declarations.find? fun d => d.id = id

/-- Whether an identifier is declared. -/
def declares (t : SymbolTable) (id : DeclId) : Bool := (t.find? id).isSome

/-- The declaration with an identifier that must be declared. -/
def declaration (t : SymbolTable) (id : DeclId) : Except SymbolError Declaration :=
  match t.find? id with
  | some d => .ok d
  | none => .error (.unknownDeclaration id)

/-- The declaration that a reference names. -/
def resolve (t : SymbolTable) (ref : DeclId) : Except SymbolError Declaration :=
  match t.find? ref with
  | some d => .ok d
  | none => .error (.unresolvedType ref)

/-- The marker of a declaration that must have one. -/
def marker (t : SymbolTable) (id : DeclId) : Except SymbolError Marker :=
  match t.find? id with
  | none => .error (.unknownDeclaration id)
  | some d =>
    match d.marker with
    | some m => .ok m
    | none => .error (.notMarked id)

/-- Whether an identifier is declared by a declaration with a marker. -/
def isMarked (t : SymbolTable) (id : DeclId) : Bool :=
  match t.find? id with
  | some d => d.marker.isSome
  | none => false

/-- The number of rounds that bring declarations. There is always at least one. -/
def roundCount (t : SymbolTable) : Nat :=
  match t.rounds with
  | some rounds => max rounds.length 1
  | none => 1

/-- The marked declarations of a round, in the order in which the round lists them. Without a list
of rounds, round 0 brings all declarations. -/
def markedIn (t : SymbolTable) (index : Nat) : List DeclId :=
  match t.rounds with
  | some rounds =>
    match rounds[index]? with
    | some ids => ids.filter t.isMarked
    | none => []
  | none =>
    if index = 0 then (t.declarations.filter fun d => d.marker.isSome).map (·.id) else []

end ServiceCatalog.SymbolTable
