import ServiceCatalog.NameSet
import ServiceCatalog.Text.Blank
import ServiceCatalog.Text.Utf8

/-!
# The content of a service's resource

Each line names a provider. A `#` begins a comment that runs to the end of its line; blanks around
a name and lines without a name mean nothing. What is written has one name a line and nothing else,
and only names that read back as themselves are written.
-/

namespace ServiceCatalog.Service

/-! ## Lines -/

/-- The byte that ends a line. -/
def lineFeed : UInt8 := 10

/-- The byte that may stand before the one that ends a line. -/
def carriageReturn : UInt8 := 13

/-- A line, given in reverse, without a carriage return at its end. -/
def dropReturn : Bytes → Bytes
  | [] => []
  | b :: bs => if b = carriageReturn then bs else b :: bs

/-- The lines of a text that continues the given line, which is given in reverse. A last line
without a line feed counts if it is not empty. -/
def linesFrom (line : Bytes) : Bytes → List Bytes
  | [] => if line = [] then [] else [line.reverse]
  | b :: bs =>
    if b = lineFeed then (dropReturn line).reverse :: linesFrom [] bs
    else linesFrom (b :: line) bs

/-- The lines of a text. -/
def lines (bs : Bytes) : List Bytes := linesFrom [] bs

/-! ## Reading -/

/-- What a line names: the part before the comment, without the blanks around it. -/
def entryOfLine (line : List Char) : List Char := Text.trimBlanks (line.takeWhile (· ≠ '#'))

/-- The names in a list of lines. The lines are decoded one after another, and the first one that
is not well-formed UTF-8 makes the whole list unreadable. -/
def entriesOfLines? : List Bytes → Option (List String)
  | [] => some []
  | line :: rest =>
    match Utf8.decodeChars? line with
    | none => none
    | some cs =>
      match entriesOfLines? rest with
      | none => none
      | some entries =>
        if entryOfLine cs = [] then some entries
        else some (String.ofList (entryOfLine cs) :: entries)

/-- The providers that a content names, or nothing if it is not well-formed UTF-8. -/
def readEntries? (content : Bytes) : Option NameSet :=
  (entriesOfLines? (lines content)).map NameSet.ofList

/-! ## Writing -/

/-- Whether a name reads back as itself. -/
def isEntry (name : String) : Bool :=
  name != "" && Text.trim name == name &&
    name.toList.all fun c => c != '\n' && c != '\r' && c != '#'

/-- The first name that does not read back as itself. -/
def badEntry? (names : List String) : Option String := names.find? fun name => !isEntry name

/-- The lines of a list of names. -/
def writeLines (names : List String) : Bytes :=
  names.flatMap fun name => Utf8.encode name ++ [lineFeed]

/-- The content with a list of names, or the first name that is not fit for it. -/
def writeEntries (names : List String) : Except String Bytes :=
  match badEntry? names with
  | some bad => .error bad
  | none => .ok (writeLines names)

/-- An output after a list of names was put on it, line by line. -/
def appendLines (out : Bytes) : List String → Bytes
  | [] => out
  | name :: rest => appendLines (out ++ Utf8.encode name ++ [lineFeed]) rest

/-- Writes a list of names to an output. All of them are checked before the first is put on it. -/
def writeTo (names : List String) (out : Bytes) : Except String Unit × Bytes :=
  match badEntry? names with
  | some bad => (.error bad, out)
  | none => (.ok (), appendLines out names)

end ServiceCatalog.Service
