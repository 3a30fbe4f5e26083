import ServiceCatalog.Text.Printable
import ServiceCatalog.Text.Extending

/-!
# Quoted texts

Messages quote names so that every character of them can be seen: the quote and the backslash get a
backslash, the common control characters have a letter, and every other character that would not be
seen by itself is written as its code point.
-/

namespace ServiceCatalog.Text

/-- The digits of a number in base sixteen, lower case and without padding. -/
def hexDigits (n : Nat) : List Char := Nat.toDigits 16 n

/-- A character inside quotes of the given kind. Only that kind of quote is escaped. -/
def escapeChar (quote : Char) (c : Char) : List Char :=
  if c = quote ∨ c = '\\' then ['\\', c]
  else if c = '\n' then ['\\', 'n']
  else if c = '\r' then ['\\', 'r']
  else if c = '\t' then ['\\', 't']
  else if c.toNat = 0 then ['\\', '0']
  else if 0x20 ≤ c.toNat ∧ c.toNat < 0x7F then [c]
  else if isExtending c || !isPrintable c then
    ['\\', 'u', '\x7b'] ++ hexDigits c.toNat ++ ['\x7d']
  else [c]

/-- A string between double quotes. -/
def quote (s : String) : String :=
  "\"" ++ String.ofList (s.toList.flatMap (escapeChar '"')) ++ "\""

/-- A character between single quotes. -/
def quoteChar (c : Char) : String :=
  "'" ++ String.ofList (escapeChar '\'' c) ++ "'"

/-- The items separated by a comma and a space, in square brackets. -/
def bracketed (items : List String) : String := "[" ++ ", ".intercalate items ++ "]"

/-- The items separated by a comma and a space, in curly brackets. -/
def braced (items : List String) : String := "\x7b" ++ ", ".intercalate items ++ "\x7d"

end ServiceCatalog.Text
