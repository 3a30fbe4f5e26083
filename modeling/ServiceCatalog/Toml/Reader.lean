import ServiceCatalog.Toml.Scalars
import ServiceCatalog.Toml.Strings

/-!
# Reading TOML

A text is a sequence of statements, one a line: headers, and assignments of values to keys. Reading
a text gives its statements; what they add up to is another matter. Only in inline tables do values
depend on it, so their assignments are put together by a function that is handed in.
-/

namespace ServiceCatalog.Toml

/-- A line of a text that says something. -/
inductive Statement where
  /-- Opens a table. -/
  | header (keys : List String)
  /-- Opens a new item of an array of tables. -/
  | itemHeader (keys : List String)
  /-- Gives a key of the open table a value. -/
  | assign (keys : List String) (value : Value)
deriving Repr

/-! ## Blanks, comments and keys -/

/-- The text after the blanks at its start. -/
def skipSpace (cs : List Char) : List Char := cs.dropWhile isSpace

/-- The text from the end of the line on, given a comment. -/
def skipComment : List Char → Option (List Char)
  | [] => some []
  | c :: rest =>
    if c = '\n' ∨ (c = '\r' ∧ feedFollows rest) then some (c :: rest)
    else if isText c then skipComment rest
    else none

/-- Reads the end of a line: blanks, a comment, and a line break unless the text ends. -/
def readLineEnd (cs : List Char) : Option (List Char) := do
  let cs ← match skipSpace cs with
    | '#' :: rest => skipComment rest
    | cs => some cs
  match cs with
  | [] => some []
  | '\n' :: rest => some rest
  | '\r' :: '\n' :: rest => some rest
  | _ => none

/-- The text after the blanks, line breaks and comments at its start. Takes whether it starts in a
comment. -/
def skipGap (inComment : Bool) : List Char → Option (List Char)
  | [] => some []
  | c :: rest =>
    if c = '\n' then skipGap false rest
    else if c = '\r' ∧ feedFollows rest then skipGap false rest
    else if inComment then if isText c then skipGap true rest else none
    else if isSpace c then skipGap false rest
    else if c = '#' then skipGap true rest
    else some (c :: rest)

/-- Reads one part of a key. -/
def readKeyPart (cs : List Char) : Option (String × List Char) :=
  match cs.takeWhile isBare with
  | [] => (readLineString? cs).map fun (text, rest) => (String.ofList text, rest)
  | part => some (String.ofList part, cs.dropWhile isBare)

/-- Reads parts of a key with dots between them, at most as many as the number says. -/
def readKeyParts : Nat → List Char → Option (List String × List Char)
  | 0, _ => none
  | most + 1, cs => do
    let (key, rest) ← readKeyPart (skipSpace cs)
    match skipSpace rest with
    | '.' :: rest =>
      let (keys, rest) ← readKeyParts most rest
      some (key :: keys, rest)
    | rest => some ([key], rest)

/-- How deep arrays and inline tables may be nested, and how many parts a key may have. -/
def nestingLimit : Nat := 80

/-- Reads a key. -/
def readKeys (cs : List Char) : Option (List String × List Char) := readKeyParts nestingLimit cs

/-- The text after the sign that follows a key. -/
def afterEquals : List Char → Option (List Char)
  | '=' :: rest => some rest
  | _ => none

/-! ## Values -/

mutual

/-- Reads a value. The first number bounds the depth of the calls, the second how deep arrays and
inline tables may still be nested. -/
def readValue (build : List (List String × Value) → Option Entries) :
    Nat → Nat → List Char → Option (Value × List Char)
  | 0, _, _ => none
  | fuel + 1, depth, cs =>
    match cs with
    | '[' :: rest =>
      if depth = 0 then none
      else (readItems build fuel (depth - 1) rest).map fun (items, rest) => (.array items, rest)
    | '\x7b' :: rest =>
      if depth = 0 then none
      else do
        let (assigned, rest) ← readInline build fuel (depth - 1) rest
        let entries ← build assigned
        some (.table .inline entries, rest)
    | '"' :: _ => (readString? cs).map fun (text, rest) => (.string (String.ofList text), rest)
    | '\'' :: _ => (readString? cs).map fun (text, rest) => (.string (String.ofList text), rest)
    | cs => readScalar cs

/-- Reads the rest of an array, before an item or the closing bracket. -/
def readItems (build : List (List String × Value) → Option Entries) :
    Nat → Nat → List Char → Option (List Value × List Char)
  | 0, _, _ => none
  | fuel + 1, depth, cs => do
    match ← skipGap false cs with
    | ']' :: rest => some ([], rest)
    | cs =>
      let (item, rest) ← readValue build fuel depth cs
      match ← skipGap false rest with
      | ',' :: rest =>
        let (items, rest) ← readItems build fuel depth rest
        some (item :: items, rest)
      | ']' :: rest => some ([item], rest)
      | _ => none

/-- Reads the rest of an inline table, before an assignment or the closing bracket. -/
def readInline (build : List (List String × Value) → Option Entries) :
    Nat → Nat → List Char → Option (List (List String × Value) × List Char)
  | 0, _, _ => none
  | fuel + 1, depth, cs => do
    match ← skipGap false cs with
    | '\x7d' :: rest => some ([], rest)
    | cs =>
      let (keys, rest) ← readKeys cs
      let rest ← afterEquals (← skipGap false rest)
      let (value, rest) ← readValue build fuel depth (← skipGap false rest)
      match ← skipGap false rest with
      | ',' :: rest =>
        let (assigned, rest) ← readInline build fuel depth rest
        some ((keys, value) :: assigned, rest)
      | '\x7d' :: rest => some ([(keys, value)], rest)
      | _ => none

end

/-! ## Statements -/

/-- Reads a statement at the start of a line that holds one. -/
def readStatement (build : List (List String × Value) → Option Entries) (cs : List Char) :
    Option (Statement × List Char) :=
  match cs with
  | '[' :: '[' :: rest => do
    let (keys, rest) ← readKeys rest
    match rest with
    | ']' :: ']' :: rest => some (.itemHeader keys, rest)
    | _ => none
  | '[' :: rest => do
    let (keys, rest) ← readKeys rest
    match rest with
    | ']' :: rest => some (.header keys, rest)
    | _ => none
  | cs => do
    let (keys, rest) ← readKeys cs
    let rest ← afterEquals rest
    let (value, rest) ← readValue build (2 * rest.length + 2) nestingLimit (skipSpace rest)
    some (.assign keys value, rest)

/-- Reads the statements of a text. The number bounds them. -/
def readStatements (build : List (List String × Value) → Option Entries) :
    Nat → List Char → Option (List Statement)
  | 0, _ => none
  | fuel + 1, cs => do
    match ← skipGap false cs with
    | [] => some []
    | cs =>
      let (statement, rest) ← readStatement build cs
      let rest ← readLineEnd rest
      return statement :: (← readStatements build fuel rest)

end ServiceCatalog.Toml
