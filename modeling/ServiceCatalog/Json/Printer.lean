import ServiceCatalog.Json.Basic
import ServiceCatalog.Text.Hex

/-!
# Printing JSON

Every item and field stands on a line of its own, two blanks deeper than what contains it. Empty
arrays and objects are closed at once. Only what must be escaped is escaped.
-/

namespace ServiceCatalog.Json

/-- The written form of an element of a string. -/
def printUnit : JsonUnit → List Char
  | .half n => '\\' :: 'u' :: Text.hexPadded 4 n
  | .char c =>
    if c = '"' then ['\\', '"']
    else if c = '\\' then ['\\', '\\']
    else if c = '\x08' then ['\\', 'b']
    else if c = '\x0c' then ['\\', 'f']
    else if c = '\n' then ['\\', 'n']
    else if c = '\r' then ['\\', 'r']
    else if c = '\t' then ['\\', 't']
    else if c.toNat < 0x20 then '\\' :: 'u' :: Text.hexPadded 4 c.toNat
    else [c]

/-- A string between quotes. -/
def printString (units : List JsonUnit) : List Char :=
  '"' :: units.flatMap printUnit ++ ['"']

/-- A line break and the blanks before a value at a depth. -/
def newline (depth : Nat) : List Char := '\n' :: List.replicate (2 * depth) ' '

mutual

/-- The written form of a value that stands at a depth. -/
def print (depth : Nat) : Json → List Char
  | .null => ['n', 'u', 'l', 'l']
  | .boolean true => ['t', 'r', 'u', 'e']
  | .boolean false => ['f', 'a', 'l', 's', 'e']
  | .number literal => literal
  | .string units => printString units
  | .array [] => ['[', ']']
  | .array (item :: items) =>
    '[' :: newline (depth + 1) ++ print (depth + 1) item ++ printItems (depth + 1) items ++
      newline depth ++ [']']
  | .object [] => ['\x7b', '\x7d']
  | .object ((name, value) :: fields) =>
    '\x7b' :: newline (depth + 1) ++ printString name ++ [':', ' '] ++ print (depth + 1) value ++
      printFields (depth + 1) fields ++ newline depth ++ ['\x7d']

/-- The items after the first, each with the comma before it. -/
def printItems (depth : Nat) : List Json → List Char
  | [] => []
  | item :: items => ',' :: newline depth ++ print depth item ++ printItems depth items

/-- The fields after the first, each with the comma before it. -/
def printFields (depth : Nat) : List (List JsonUnit × Json) → List Char
  | [] => []
  | (name, value) :: fields =>
    ',' :: newline depth ++ printString name ++ [':', ' '] ++ print depth value ++
      printFields depth fields

end

/-- The text of a value. -/
def toText (value : Json) : String := String.ofList (print 0 value)

end ServiceCatalog.Json
