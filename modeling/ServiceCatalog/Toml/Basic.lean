/-!
# TOML values

Only booleans and strings are ever asked for, so of other scalars a value keeps just what decides
whether they can be read. Tables remember how they came about, which decides whether more may be
added to them.
-/

namespace ServiceCatalog.Toml

/-- How a table came about. -/
inductive Origin where
  /-- By a header of its own, or as an item of an array of tables. -/
  | header
  /-- On the way to the table of a longer header. -/
  | implied
  /-- On the way to the value of a dotted key. -/
  | dotted
  /-- In curly brackets, which close it for good. -/
  | inline
deriving Repr, DecidableEq

/-- A TOML value. -/
inductive Value where
  | string (text : String)
  | boolean (b : Bool)
  /-- A number. One that is too large, or has the form of a number without a value, cannot be
  read. -/
  | number (readable : Bool)
  | datetime
  | array (items : List Value)
  | table (origin : Origin) (entries : List (String × Value))
  /-- An array of tables that is written with headers. -/
  | tables (items : List (List (String × Value)))
deriving Repr

/-- The keys of a table with their values. -/
abbrev Entries := List (String × Value)

namespace Entries

/-- The entries with the value of a key set. -/
def set (key : String) (value : Value) : Entries → Entries
  | [] => [(key, value)]
  | e :: es => if e.1 = key then (key, value) :: es else e :: set key value es

end Entries

mutual

/-- Whether all numbers in a value can be read. -/
def Value.isReadable : Value → Bool
  | .string _ => true
  | .boolean _ => true
  | .number readable => readable
  | .datetime => true
  | .array items => areReadable items
  | .table _ entries => entriesAreReadable entries
  | .tables items => tablesAreReadable items

/-- Whether all numbers in a list of values can be read. -/
def areReadable : List Value → Bool
  | [] => true
  | item :: items => item.isReadable && areReadable items

/-- Whether all numbers in a table can be read. -/
def entriesAreReadable : List (String × Value) → Bool
  | [] => true
  | (_, value) :: entries => value.isReadable && entriesAreReadable entries

/-- Whether all numbers in a list of tables can be read. -/
def tablesAreReadable : List (List (String × Value)) → Bool
  | [] => true
  | item :: items => entriesAreReadable item && tablesAreReadable items

end

/-! ## Characters -/

/-- A blank within a line. -/
def isSpace (c : Char) : Bool := c == ' ' || c == '\t'

/-- Whether a character may stand in comments and strings. Of the control characters only the tab
may. -/
def isText (c : Char) : Bool := c == '\t' || (0x20 ≤ c.toNat && c.toNat != 0x7F)

/-- Whether a character may stand in a key without quotes. -/
def isBare (c : Char) : Bool :=
  let n := c.toNat
  (0x30 ≤ n && n ≤ 0x39) || (0x41 ≤ n && n ≤ 0x5A) || (0x61 ≤ n && n ≤ 0x7A) || c == '-' || c == '_'

/-- Whether a text goes on with a line feed. -/
def feedFollows (cs : List Char) : Bool := cs.head? == some '\n'

end ServiceCatalog.Toml
