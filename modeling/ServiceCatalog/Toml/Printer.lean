import ServiceCatalog.Toml.Basic
import ServiceCatalog.Text.Hex

/-!
# Writing TOML strings

A string is written in the plainest form that can hold it: basic in a line, literal in a line, basic
over several lines, literal over several lines, and at last with escapes.
-/

namespace ServiceCatalog.Toml

/-- The length of the longest run of a character. Takes the length of the run so far. -/
def longestRunFrom (c : Char) (run : Nat) : List Char → Nat
  | [] => run
  | d :: cs => if d = c then longestRunFrom c (run + 1) cs else max run (longestRunFrom c 0 cs)

/-- The length of the longest run of a character. -/
def longestRun (c : Char) (cs : List Char) : Nat := longestRunFrom c 0 cs

/-- A control character other than a tab and a line feed. -/
def isControl (c : Char) : Bool := c != '\t' && c != '\n' && (c.toNat < 0x20 || c.toNat == 0x7F)

/-- The written form of a character other than the quote in a basic string. -/
def escapeChar (block : Bool) (c : Char) : List Char :=
  if c = '\x08' then ['\\', 'b']
  else if c = '\t' then ['\\', 't']
  else if c = '\n' then if block then ['\n'] else ['\\', 'n']
  else if c = '\x0c' then ['\\', 'f']
  else if c = '\r' then ['\\', 'r']
  else if c = '\\' then ['\\', '\\']
  else if isControl c then '\\' :: 'u' :: (Text.hexPadded 4 c.toNat).map Char.toUpper
  else [c]

/-- The written form of a text in a basic string, given how many more quotes may follow without an
escape. Over several lines two quotes in a row need none. -/
def escapeText (block : Bool) (bareQuotes : Nat) : List Char → List Char
  | [] => []
  | c :: cs =>
    let allowed := if block then 2 else 0
    if c = '"' then
      if bareQuotes = 0 then '\\' :: '"' :: escapeText block allowed cs
      else '"' :: escapeText block (bareQuotes - 1) cs
    else escapeChar block c ++ escapeText block allowed cs

/-- The line feed that comes before a text over several lines. -/
def leadingBreak (cs : List Char) : List Char := if '\n' ∈ cs then ['\n'] else []

/-- A basic string in a line. -/
def basicLine (cs : List Char) : List Char := '"' :: escapeText false 0 cs ++ ['"']

/-- A literal string in a line. -/
def literalLine (cs : List Char) : List Char := '\'' :: cs ++ ['\'']

/-- A basic string over several lines. -/
def basicBlock (cs : List Char) : List Char :=
  ['"', '"', '"'] ++ leadingBreak cs ++ escapeText true 2 cs ++ ['"', '"', '"']

/-- A literal string over several lines. -/
def literalBlock (cs : List Char) : List Char :=
  ['\'', '\'', '\''] ++ leadingBreak cs ++ cs ++ ['\'', '\'', '\'']

/-- The written form of a text. -/
def printText (cs : List Char) : List Char :=
  let hasControl := cs.any isControl
  let hasBreak := decide ('\n' ∈ cs)
  let hasBackslash := decide ('\\' ∈ cs)
  if !hasControl && !hasBackslash && longestRun '"' cs == 0 && !hasBreak then basicLine cs
  else if !hasControl && longestRun '\'' cs == 0 && !hasBreak then literalLine cs
  else if !hasControl && !hasBackslash && longestRun '"' cs ≤ 2 then basicBlock cs
  else if !hasControl && longestRun '\'' cs ≤ 2 then literalBlock cs
  else if hasBreak then basicBlock cs
  else basicLine cs

/-- The written form of a string. -/
def printString (s : String) : String := String.ofList (printText s.toList)

/-- The written form of a boolean. -/
def printBool (b : Bool) : String := if b then "true" else "false"

end ServiceCatalog.Toml
