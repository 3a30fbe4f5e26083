import ServiceCatalog.Json.Basic
import ServiceCatalog.Text.Hex

/-!
# Reading JSON

The strict grammar: no comments, no trailing commas, no control characters in strings, nothing but
blanks around the value.
-/

namespace ServiceCatalog.Json

/-- The four characters that may stand between tokens. -/
def isSpace (c : Char) : Bool := c == ' ' || c == '\n' || c == '\t' || c == '\r'

/-- The text after the blanks at its start. -/
def skipSpace (cs : List Char) : List Char := cs.dropWhile isSpace

/-! ## Strings -/

/-- The character that a one-letter escape denotes. -/
def simpleEscape? (c : Char) : Option Char :=
  match c with
  | '"' => some '"'
  | '\\' => some '\\'
  | '/' => some '/'
  | 'b' => some '\x08'
  | 'f' => some '\x0c'
  | 'n' => some '\n'
  | 'r' => some '\r'
  | 't' => some '\t'
  | _ => none

/-- The element that a code unit denotes. -/
def unitOfCode (n : Nat) : JsonUnit :=
  if 0xD800 ≤ n ∧ n ≤ 0xDFFF then .half n else .char (Char.ofNat n)

/-- Reads a string after its opening quote, up to and including the closing one. -/
def readString : List Char → Option (List JsonUnit × List Char)
  | [] => none
  | '"' :: rest => some ([], rest)
  | '\\' :: 'u' :: a :: b :: c :: d :: rest =>
    match Text.hexNumber? [a, b, c, d], readString rest with
    | some n, some (us, rest) => some (unitOfCode n :: us, rest)
    | _, _ => none
  | '\\' :: e :: rest =>
    match simpleEscape? e, readString rest with
    | some c, some (us, rest) => some (.char c :: us, rest)
    | _, _ => none
  | c :: rest =>
    -- a backslash that comes here is the last character
    if c = '\\' ∨ c.toNat < 0x20 then none
    else
      match readString rest with
      | some (us, rest) => some (.char c :: us, rest)
      | none => none

/-! ## Numbers -/

/-- Reads one digit or more. -/
def readDigits (cs : List Char) : Option (List Char × List Char) :=
  match cs.takeWhile Text.isDigit with
  | [] => none
  | digits => some (digits, cs.dropWhile Text.isDigit)

/-- Reads the whole part of a number, which has no superfluous zero in front. -/
def readWhole : List Char → Option (List Char × List Char)
  | '0' :: rest => some (['0'], rest)
  | cs => readDigits cs

/-- Reads the fraction of a number, if there is one. -/
def readFraction : List Char → Option (List Char × List Char)
  | '.' :: rest => (readDigits rest).map fun (digits, rest) => ('.' :: digits, rest)
  | cs => some ([], cs)

/-- Reads the exponent of a number, if there is one. -/
def readExponent : List Char → Option (List Char × List Char)
  | [] => some ([], [])
  | c :: rest =>
    if c = 'e' ∨ c = 'E' then
      match rest with
      | '+' :: rest => (readDigits rest).map fun (digits, rest) => (c :: '+' :: digits, rest)
      | '-' :: rest => (readDigits rest).map fun (digits, rest) => (c :: '-' :: digits, rest)
      | _ => (readDigits rest).map fun (digits, rest) => (c :: digits, rest)
    else some ([], c :: rest)

/-- Reads a number without its sign. -/
def readUnsigned (cs : List Char) : Option (List Char × List Char) := do
  let (whole, rest) ← readWhole cs
  let (fraction, rest) ← readFraction rest
  let (exponent, rest) ← readExponent rest
  return (whole ++ fraction ++ exponent, rest)

/-- Reads a number. -/
def readNumber : List Char → Option (List Char × List Char)
  | '-' :: rest => (readUnsigned rest).map fun (literal, rest) => ('-' :: literal, rest)
  | cs => readUnsigned cs

/-! ## Values -/

mutual

/-- Reads a value after the blanks in front of it. The number bounds the depth of the calls. -/
def readValue : Nat → List Char → Option (Json × List Char)
  | 0, _ => none
  | fuel + 1, cs =>
    match skipSpace cs with
    | 'n' :: 'u' :: 'l' :: 'l' :: rest => some (.null, rest)
    | 't' :: 'r' :: 'u' :: 'e' :: rest => some (.boolean true, rest)
    | 'f' :: 'a' :: 'l' :: 's' :: 'e' :: rest => some (.boolean false, rest)
    | '"' :: rest => (readString rest).map fun (units, rest) => (.string units, rest)
    | '[' :: rest =>
      match skipSpace rest with
      | ']' :: rest => some (.array [], rest)
      | rest => (readItems fuel rest).map fun (items, rest) => (.array items, rest)
    | '\x7b' :: rest =>
      match skipSpace rest with
      | '\x7d' :: rest => some (.object [], rest)
      | rest => (readFields fuel rest).map fun (fields, rest) => (.object fields, rest)
    | cs => (readNumber cs).map fun (literal, rest) => (.number literal, rest)

/-- Reads the items of an array, of which there is at least one, and the closing bracket. -/
def readItems : Nat → List Char → Option (List Json × List Char)
  | 0, _ => none
  | fuel + 1, cs => do
    let (item, rest) ← readValue fuel cs
    match skipSpace rest with
    | ',' :: rest =>
      let (items, rest) ← readItems fuel rest
      some (item :: items, rest)
    | ']' :: rest => some ([item], rest)
    | _ => none

/-- Reads the fields of an object, of which there is at least one, and the closing bracket. -/
def readFields : Nat → List Char → Option (List (List JsonUnit × Json) × List Char)
  | 0, _ => none
  | fuel + 1, cs =>
    match skipSpace cs with
    | '"' :: rest => do
      let (name, rest) ← readString rest
      match skipSpace rest with
      | ':' :: rest =>
        let (value, rest) ← readValue fuel rest
        match skipSpace rest with
        | ',' :: rest =>
          let (fields, rest) ← readFields fuel rest
          some ((name, value) :: fields, rest)
        | '\x7d' :: rest => some ([(name, value)], rest)
        | _ => none
      | _ => none
    | _ => none

end

/-- The value that a text denotes. Every call but those for the items of an array takes at least
one character, so twice the length of the text bounds the depth of the calls. -/
def ofChars? (cs : List Char) : Option Json :=
  match readValue (2 * cs.length + 2) cs with
  | some (value, rest) => if skipSpace rest = [] then some value else none
  | none => none

/-- The value that a text denotes. -/
def ofText? (s : String) : Option Json := ofChars? s.toList

end ServiceCatalog.Json
