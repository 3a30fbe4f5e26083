import ServiceCatalog.Symbol.Lookup
import ServiceCatalog.Text.Blank
import ServiceCatalog.Text.Split
import ServiceCatalog.Text.Quoted

/-!
# Checking a symbol table

A compiler never produces the faults that are found here, but a table that was written by hand can
have them. Names are checked for what makes them unfit for the resources of services: blanks at
their ends, path separators and empty parts. Blanks within a name and `#` are not looked for.
-/

namespace ServiceCatalog

/-- What makes a name unfit. -/
inductive NameDefect where
  | surroundingBlanks
  | pathSeparator
  | emptyPart
deriving Repr, DecidableEq

/-- The first defect of a name. -/
def nameDefect? (name : String) : Option NameDefect :=
  if Text.trim name ≠ name then some .surroundingBlanks
  else if name.toList.any fun c => c = '/' || c = '\\' then some .pathSeparator
  else if Text.hasEmptyPart '.' name.toList then some .emptyPart
  else none

/-- A name without a defect is trimmed and has neither separators nor an empty part. -/
theorem nameDefect?_eq_none_iff {name : String} :
    nameDefect? name = none ↔ Text.trimBlanks name.toList = name.toList ∧
      (∀ c ∈ name.toList, c ≠ '/' ∧ c ≠ '\\') ∧ Text.hasEmptyPart '.' name.toList = false := by
  have htrim : Text.trim name = name ↔ Text.trimBlanks name.toList = name.toList := by
    rw [← Text.toList_trim, String.toList_inj]
  have hseparator : (name.toList.any fun c => c = '/' || c = '\\') = false ↔
      ∀ c ∈ name.toList, c ≠ '/' ∧ c ≠ '\\' := by
    simp only [List.any_eq_false, Bool.or_eq_true, decide_eq_true_eq, not_or, ne_eq]
  unfold nameDefect?
  rw [← htrim, ← hseparator]
  by_cases h1 : Text.trim name = name
  · rw [if_neg (not_not_intro h1)]
    cases name.toList.any fun c => c = '/' || c = '\\' with
    | true => simp
    | false => cases Text.hasEmptyPart '.' name.toList <;> simp [h1]
  · simp [h1]

/-- What is said about a name with a defect. -/
def NameDefect.message (name : String) : NameDefect → String
  | .surroundingBlanks => Text.quote name ++ " has surrounding whitespace"
  | .pathSeparator => Text.quote name ++ " contains a path separator"
  | .emptyPart => Text.quote name ++ " has an empty segment"

/-- A fault of a table. -/
inductive TableFault where
  | duplicateId (id : DeclId)
  | emptyName (id : DeclId)
  | simpleName (id : DeclId) (name : String) (defect : NameDefect)
  | unknownEnclosing (id outer : DeclId)
  | namespaceName (id : DeclId) (name : String) (defect : NameDefect)
  | unknownSupertype (id supertype : DeclId)
  | unknownInRound (index : Nat) (id : DeclId)
deriving Repr, DecidableEq

/-- The message of a fault. -/
def TableFault.message : TableFault → String
  | .duplicateId id => "Duplicate declaration id: " ++ id.text
  | .emptyName id => "Declaration `" ++ id.text ++ "` has an empty simple name"
  | .simpleName id name defect =>
    "Declaration `" ++ id.text ++ "` simple name " ++ defect.message name
  | .unknownEnclosing id outer =>
    "Declaration `" ++ id.text ++ "` is nested in unknown declaration `" ++ outer.text ++ "`"
  | .namespaceName id name defect =>
    "Declaration `" ++ id.text ++ "` namespace " ++ defect.message name
  | .unknownSupertype id supertype =>
    "Declaration `" ++ id.text ++ "` extends unknown type `" ++ supertype.text ++ "`"
  | .unknownInRound index id =>
    "Round " ++ toString index ++ " lists unknown declaration `" ++ id.text ++ "`"

namespace SymbolTable

/-- The fault of a declaration's simple name. -/
def simpleNameDefects (d : Declaration) : List TableFault :=
  if Text.trim d.simpleName = "" then [.emptyName d.id]
  else
    match nameDefect? d.simpleName with
    | some defect => [.simpleName d.id d.simpleName defect]
    | none => []

/-- The fault of what encloses a declaration. The unnamed namespace has none. -/
def enclosingFaults (t : SymbolTable) (d : Declaration) : List TableFault :=
  match d.enclosing with
  | .nested outer => if t.declares outer then [] else [.unknownEnclosing d.id outer]
  | .topLevel name =>
    if name = "" then []
    else
      match nameDefect? name with
      | some defect => [.namespaceName d.id name defect]
      | none => []

/-- The faults of a declaration, given the identifiers declared before it. -/
def declarationFaults (t : SymbolTable) (earlier : List DeclId) (d : Declaration) :
    List TableFault :=
  (if d.id ∈ earlier then [.duplicateId d.id] else []) ++ simpleNameDefects d ++
    t.enclosingFaults d ++
    (d.supertypes.filter fun s => !t.declares s).map (.unknownSupertype d.id)

/-- The faults of the declarations that follow those with the given identifiers. -/
def faultsAfter (t : SymbolTable) (earlier : List DeclId) : List Declaration → List TableFault
  | [] => []
  | d :: ds => t.declarationFaults earlier d ++ t.faultsAfter (d.id :: earlier) ds

/-- The faults of the rounds from an index on. -/
def roundFaultsFrom (t : SymbolTable) (index : Nat) : List (List DeclId) → List TableFault
  | [] => []
  | ids :: rounds =>
    (ids.filter fun id => !t.declares id).map (.unknownInRound index) ++
      t.roundFaultsFrom (index + 1) rounds

/-- All faults of a table: those of each declaration in turn, then those of each round. -/
def faults (t : SymbolTable) : List TableFault :=
  t.faultsAfter [] t.declarations ++ t.roundFaultsFrom 0 (t.rounds.getD [])

end SymbolTable

end ServiceCatalog
