import ServiceCatalog.Text.Blank
import ServiceCatalog.Text.Split

/-!
# Options

Two switches control a compilation. They are set by pairs of a key and an optional value, which can
be given as texts such as `verify=true`.
-/

namespace ServiceCatalog

/-- The switches of a compilation. -/
structure Options where
  /-- Only subtypes of a service are registered for it. -/
  verify : Bool
  /-- Notes are reported. -/
  debug : Bool
deriving Repr, DecidableEq

namespace Options

/-- Both switches off. -/
def default : Options := ⟨false, false⟩

instance : Inhabited Options := ⟨default⟩

/-- The key of the switch `verify`. -/
def verifyKey : String := "verify"

/-- The key of the switch `debug`. -/
def debugKey : String := "debug"

/-- The keys that mean something. -/
def keys : List String := [verifyKey, debugKey]

/-- An ASCII letter in lower case; other characters stay. -/
def lowerAscii (c : Char) : Char :=
  if 0x41 ≤ c.toNat ∧ c.toNat ≤ 0x5A then Char.ofNat (c.toNat + 0x20) else c

/-- Whether two texts differ at most in the case of ASCII letters. -/
def sameIgnoringCase (s t : String) : Bool := s.toList.map lowerAscii == t.toList.map lowerAscii

/-- The effect of one pair. `verify` follows its value, which means no unless it is `true`; `debug`
is switched on whatever its value is. -/
def set (o : Options) (key : String) (value : Option String) : Options :=
  if key = verifyKey then
    { o with verify := match value with
      | some v => sameIgnoringCase v "true"
      | none => false }
  else if key = debugKey then { o with debug := true }
  else o

/-- The effect of pairs, one after another. -/
def apply (o : Options) (pairs : List (String × Option String)) : Options :=
  pairs.foldl (fun o pair => o.set pair.1 pair.2) o

/-- The pair that a text denotes: what stands before the first `=` and what stands after it, without
the blanks around them. There is none if the key is empty. -/
def parsePair? (text : String) : Option (String × Option String) :=
  let (key, value) :=
    match Text.splitFirst '=' text.toList with
    | some (key, value) => (Text.trimBlanks key, some (String.ofList (Text.trimBlanks value)))
    | none => (Text.trimBlanks text.toList, none)
  if key = [] then none else some (String.ofList key, value)

/-- The pairs that texts denote, or the first text that denotes none. -/
def parsePairs : List String → Except String (List (String × Option String))
  | [] => .ok []
  | text :: texts =>
    match parsePair? text with
    | none => .error text
    | some pair => (parsePairs texts).map (pair :: ·)

end Options

end ServiceCatalog
