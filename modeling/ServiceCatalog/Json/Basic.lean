/-!
# JSON values

A JSON string is a sequence of characters in which an escape may also denote half of a surrogate
pair. Such a string denotes a text only if its halves pair up. Numbers keep their spelling.
-/

namespace ServiceCatalog

/-- An element of a JSON string. -/
inductive JsonUnit where
  | char (c : Char)
  /-- Half of a surrogate pair, between U+D800 and U+DFFF. -/
  | half (n : Nat)
deriving Repr, DecidableEq

/-- A JSON value. -/
inductive Json where
  | null
  | boolean (b : Bool)
  | number (literal : List Char)
  | string (units : List JsonUnit)
  | array (items : List Json)
  /-- The fields in the order in which they are written. Names may be repeated. -/
  | object (fields : List (List JsonUnit × Json))
deriving Repr

namespace JsonUnit

/-- The characters of a sequence in which all halves pair up: one between U+D800 and U+DBFF with a
following one between U+DC00 and U+DFFF. -/
def chars? : List JsonUnit → Option (List Char)
  | [] => some []
  | .char c :: us => (chars? us).map (c :: ·)
  | .half h :: .half l :: us =>
    if h < 0xDC00 ∧ 0xDC00 ≤ l then
      (chars? us).map (Char.ofNat (0x10000 + (h - 0xD800) * 0x400 + (l - 0xDC00)) :: ·)
    else none
  | .half _ :: _ => none

/-- The text that a sequence denotes, if it denotes one. -/
def text? (us : List JsonUnit) : Option String := (chars? us).map String.ofList

/-- The sequence of the characters of a text. -/
def ofText (s : String) : List JsonUnit := s.toList.map .char

theorem chars?_map_char (cs : List Char) : chars? (cs.map .char) = some cs := by
  induction cs with
  | nil => rfl
  | cons c cs ih => simp [chars?, ih]

@[simp] theorem text?_ofText (s : String) : text? (ofText s) = some s := by
  simp [text?, ofText, chars?_map_char]

end JsonUnit

end ServiceCatalog
