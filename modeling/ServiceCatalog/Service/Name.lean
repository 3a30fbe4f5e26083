import ServiceCatalog.Text.Blank
import ServiceCatalog.Text.Split
import ServiceCatalog.Text.Quoted
import ServiceCatalog.Storage.Path

/-!
# Names of services and of their resources

The providers of a service are kept in one resource, whose name is made from the name of the
service. A name is fit for this if it is a single component of a path and has no empty part.
-/

namespace ServiceCatalog

namespace Service

/-- The folder of all resources of services, below the root of the output. -/
def folder : String := "META-INF/services"

/-- The name of the resource of a service. -/
def resourceName (service : String) : String := folder ++ "/" ++ service

end Service

/-- The path of a resource below a root. Empty components of the name are left out. -/
def Path.ofResource (root name : String) : String := (nonEmptyParts name).foldl join root

namespace Service

/-- The path of the resource of a service below a root. -/
def path (root service : String) : String := Path.ofResource root (resourceName service)

/-- What makes a name unfit for a service. -/
inductive NameFault where
  | empty
  | badCharacter (c : Char)
  | emptyPart
deriving Repr, DecidableEq

/-- Whether a character must not be in the name of a service: path separators and blanks. -/
def isBadCharacter (c : Char) : Bool := c == '/' || c == '\\' || Text.isBlank c

/-- The first fault of a name. -/
def nameFault? (name : String) : Option NameFault :=
  if name = "" then some .empty
  else
    match name.toList.find? isBadCharacter with
    | some c => some (.badCharacter c)
    | none => if Text.hasEmptyPart '.' name.toList then some .emptyPart else none

/-- A fit name is not empty, has neither separators nor blanks in it, and has no empty part. -/
theorem nameFault?_eq_none_iff {name : String} :
    nameFault? name = none ↔ name ≠ "" ∧ (∀ c ∈ name.toList, isBadCharacter c = false) ∧
      Text.hasEmptyPart '.' name.toList = false := by
  have hbad : name.toList.find? isBadCharacter = none ↔
      ∀ c ∈ name.toList, isBadCharacter c = false := by
    simp only [List.find?_eq_none, Bool.not_eq_true]
  unfold nameFault?
  rw [← hbad]
  by_cases hempty : name = ""
  · simp [hempty]
  · rw [if_neg hempty]
    cases name.toList.find? isBadCharacter with
    | some c => simp
    | none => cases Text.hasEmptyPart '.' name.toList <;> simp [hempty]

/-- The message about a name with a fault. -/
def NameFault.message (name : String) : NameFault → String
  | .empty => "provider interface name is empty"
  | .badCharacter c =>
    "provider interface name " ++ Text.quote name ++ " contains invalid character " ++
      Text.quoteChar c
  | .emptyPart => "provider interface name " ++ Text.quote name ++ " has an empty segment"

end Service

end ServiceCatalog
