/-!
# Declarations

A symbol table describes the types of a program that is being compiled: their names, how they are
nested, what they extend, and which of them ask to be registered as a provider.
-/

namespace ServiceCatalog

/-- The identifier of a declaration within its table. -/
structure DeclId where
  text : String
deriving Repr, DecidableEq

/-- What a declaration declares. -/
inductive DeclKind where
  | classType
  | interfaceType
  | enumType
  | recordType
  | annotationType
deriving Repr, DecidableEq

/-- What directly encloses a declaration. -/
inductive Scope where
  /-- A namespace; the empty string is the unnamed one. -/
  | topLevel (namespaceName : String)
  /-- Another declaration. -/
  | nested (outer : DeclId)
deriving Repr, DecidableEq

/-- The argument of the registration marker: a reference to a service type, or a list of arguments
nested to any depth. -/
inductive Marker where
  | ref (target : DeclId)
  | list (items : List Marker)
deriving Repr

/-- A type of the program. -/
structure Declaration where
  id : DeclId
  simpleName : String
  kind : DeclKind
  enclosing : Scope
  supertypes : List DeclId
  /-- Present when the declaration asks to be registered. -/
  marker : Option Marker
deriving Repr

/-- The declarations of a program and, if it is compiled in several rounds, the declarations that
each round brings. -/
structure SymbolTable where
  declarations : List Declaration
  rounds : Option (List (List DeclId))
deriving Repr

/-- One pass over the program. The last pass brings no declarations. -/
structure Round where
  index : Nat
  last : Bool
deriving Repr, DecidableEq

/-! ## Failed look-ups -/

/-- Why a question about a table has no answer. -/
inductive SymbolError where
  | unknownDeclaration (id : DeclId)
  | unresolvedType (id : DeclId)
  | notMarked (id : DeclId)
  | nestingCycle (id : DeclId)
deriving Repr, DecidableEq

/-- The message of a failed look-up. -/
def SymbolError.message : SymbolError → String
  | .unknownDeclaration id => "unknown declaration `" ++ id.text ++ "`"
  | .unresolvedType id =>
    "type reference `" ++ id.text ++ "` cannot be converted to a declaration"
  | .notMarked id => "declaration `" ++ id.text ++ "` does not carry the registration marker"
  | .nestingCycle id => "declaration `" ++ id.text ++ "` is enclosed in itself"

/-! ## Equality of markers -/

mutual

def Marker.decEq : (a b : Marker) → Decidable (a = b)
  | .ref s, .ref t =>
    if h : s = t then isTrue (congrArg Marker.ref h) else isFalse fun e => h (Marker.ref.inj e)
  | .ref _, .list _ => isFalse Marker.noConfusion
  | .list _, .ref _ => isFalse Marker.noConfusion
  | .list as, .list bs =>
    match Marker.decEqList as bs with
    | isTrue h => isTrue (congrArg Marker.list h)
    | isFalse h => isFalse fun e => h (Marker.list.inj e)

def Marker.decEqList : (as bs : List Marker) → Decidable (as = bs)
  | [], [] => isTrue rfl
  | [], _ :: _ => isFalse (by simp)
  | _ :: _, [] => isFalse (by simp)
  | a :: as, b :: bs =>
    match Marker.decEq a b, Marker.decEqList as bs with
    | isTrue h, isTrue hs => isTrue (h ▸ hs ▸ rfl)
    | isFalse h, _ => isFalse fun e => h (List.cons.inj e).1
    | _, isFalse hs => isFalse fun e => hs (List.cons.inj e).2

end

instance : DecidableEq Marker := Marker.decEq

deriving instance DecidableEq for Declaration, SymbolTable

end ServiceCatalog
