import ServiceCatalog.Toml.Reader

/-!
# TOML documents

What the statements of a text add up to. A header opens a table that must be new, unless it came
about only on the way to another header; a dotted key adds to tables that dotted keys made; nothing
is added to an inline table or an array, and no key gets a value twice.
-/

namespace ServiceCatalog.Toml

/-! ## Headers -/

/-- Applies a change to the table that the keys of a header lead to. Missing tables are made on the
way, and an array of tables is entered at its last item. -/
def within (change : Entries → Option Entries) : List String → Entries → Option Entries
  | [], entries => change entries
  | key :: keys, entries =>
    match entries.lookup key with
    | none => do
      let inner ← within change keys []
      some (entries.set key (.table .implied inner))
    | some (.table origin inner) =>
      -- a table in braces is complete
      if origin = .inline then none
      else do
        let inner ← within change keys inner
        some (entries.set key (.table origin inner))
    | some (.tables items) =>
      match items.getLast? with
      | none => none
      | some last => do
        let last ← within change keys last
        some (entries.set key (.tables (items.dropLast ++ [last])))
    | some _ => none

/-- Opens the table of a key. -/
def openTable (key : String) (entries : Entries) : Option Entries :=
  match entries.lookup key with
  | none => some (entries.set key (.table .header []))
  | some (.table .implied inner) => some (entries.set key (.table .header inner))
  | some _ => none

/-- Opens a new item of the array of tables of a key. -/
def openItem (key : String) (entries : Entries) : Option Entries :=
  match entries.lookup key with
  | none => some (entries.set key (.tables [[]]))
  | some (.tables items) => some (entries.set key (.tables (items ++ [[]])))
  | some _ => none

/-! ## Assignments -/

/-- Whether a dotted key may pass a table, or add a value to it. -/
def admitsDotted (final : Bool) (origin : Origin) : Bool :=
  origin = .dotted || (!final && origin = .implied)

/-- Gives a key of a table a value. Missing tables are made on the way. -/
def assign (value : Value) : List String → Entries → Option Entries
  | [], _ => none
  | [key], entries =>
    match entries.lookup key with
    | none => some (entries.set key value)
    | some _ => none
  | key :: next :: keys, entries =>
    match entries.lookup key with
    | none => do
      let inner ← assign value (next :: keys) []
      some (entries.set key (.table .dotted inner))
    | some (.table origin inner) =>
      if admitsDotted keys.isEmpty origin then do
        let inner ← assign value (next :: keys) inner
        some (entries.set key (.table origin inner))
      else none
    | some (.tables items) =>
      match keys.isEmpty, items.getLast? with
      | false, some last => do
        let last ← assign value (next :: keys) last
        some (entries.set key (.tables (items.dropLast ++ [last])))
      | _, _ => none
    | some _ => none

/-- The entries that assignments add up to. -/
def buildEntries : List (List String × Value) → Entries → Option Entries
  | [], entries => some entries
  | (keys, value) :: rest, entries => do buildEntries rest (← assign value keys entries)

/-! ## Documents -/

/-- The entries that statements add up to, given the keys of the open table. -/
def buildDocument : List Statement → List String → Entries → Option Entries
  | [], _, entries => some entries
  | .header keys :: rest, _, entries => do
    let entries ← match keys.getLast? with
      | none => none
      | some key => within (openTable key) keys.dropLast entries
    buildDocument rest keys entries
  | .itemHeader keys :: rest, _, entries => do
    let entries ← match keys.getLast? with
      | none => none
      | some key => within (openItem key) keys.dropLast entries
    buildDocument rest keys entries
  | .assign keys value :: rest, opened, entries => do
    let entries ← within (assign value keys) opened entries
    buildDocument rest opened entries

/-- A text without the byte order mark at its start. -/
def dropMark : List Char → List Char
  | c :: cs => if c.toNat = 0xFEFF then cs else c :: cs
  | [] => []

/-- The table that a text denotes. -/
def ofText? (text : String) : Option Entries := do
  let cs := dropMark text.toList
  let statements ← readStatements (fun assigned => buildEntries assigned []) (cs.length + 1) cs
  buildDocument statements [] []

end ServiceCatalog.Toml
