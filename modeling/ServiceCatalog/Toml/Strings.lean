import ServiceCatalog.Toml.Basic
import ServiceCatalog.Text.Hex

/-!
# TOML strings

A string is basic or literal: only in a basic string does the backslash mean something. A string
stands in a line, or between three quotes over several lines.
-/

namespace ServiceCatalog.Toml

/-- The end of a string between three quotes. One or two more quotes before the end belong to the
string. -/
def closeBlock? (quote : Char) (cs : List Char) : Option (List Char × List Char) :=
  let run := min (cs.takeWhile (· = quote)).length 5
  if run < 3 then none else some (List.replicate (run - 3) quote, cs.drop run)

/-- The end of a string. -/
def close? (block : Bool) (quote : Char) (cs : List Char) : Option (List Char × List Char) :=
  if block then closeBlock? quote cs
  else
    match cs with
    | c :: rest => if c = quote then some ([], rest) else none
    | [] => none

/-- Whether a character may stand for itself. Line breaks may in a string over several lines. -/
def standsForItself (block : Bool) (c : Char) (rest : List Char) : Bool :=
  isText c || (block && (c == '\n' || (c == '\r' && feedFollows rest)))

/-- Reads a literal string after its opening. -/
def readLiteral (block : Bool) : List Char → Option (List Char × List Char)
  | [] => none
  | c :: rest =>
    match close? block '\'' (c :: rest) with
    | some ending => some ending
    | none =>
      if standsForItself block c rest then
        (readLiteral block rest).map fun (text, rest) => (c :: text, rest)
      else none

/-- The character that a one-letter escape denotes. -/
def simpleEscape? (c : Char) : Option Char :=
  match c with
  | 'b' => some '\x08'
  | 'e' => some '\x1b'
  | 't' => some '\t'
  | 'n' => some '\n'
  | 'f' => some '\x0c'
  | 'r' => some '\r'
  | '"' => some '"'
  | '\\' => some '\\'
  | _ => none

/-- Where the reader of a basic string stands. -/
inductive BasicState where
  | text
  /-- After a backslash. -/
  | escape
  /-- In the digits of an escape: how many are missing, and their value so far. -/
  | code (missing : Nat) (value : Nat)
  /-- After a backslash and blanks, before the line break that must follow. -/
  | beforeBreak
  /-- After a backslash and a line break, before the next visible character. -/
  | afterBreak
deriving Repr, DecidableEq

/-- Reads a basic string after its opening. -/
def readBasic (block : Bool) : BasicState → List Char → Option (List Char × List Char)
  | _, [] => none
  | .escape, c :: rest =>
    if c = 'x' then readBasic block (.code 2 0) rest
    else if c = 'u' then readBasic block (.code 4 0) rest
    else if c = 'U' then readBasic block (.code 8 0) rest
    else
      match simpleEscape? c with
      | some d => (readBasic block .text rest).map fun (text, rest) => (d :: text, rest)
      | none =>
        -- a line that ends in a backslash goes on behind the blanks of the lines after it
        if block && (isSpace c || (c == '\r' && feedFollows rest)) then
          readBasic block .beforeBreak rest
        else if block && c == '\n' then readBasic block .afterBreak rest
        else none
  | .code missing value, c :: rest =>
    match Text.hexValue? c with
    | none => none
    | some digit =>
      let code := value * 16 + digit
      if 1 < missing then readBasic block (.code (missing - 1) code) rest
      else if code.isValidChar then
        (readBasic block .text rest).map fun (text, rest) => (Char.ofNat code :: text, rest)
      else none
  | .beforeBreak, c :: rest =>
    if c = '\n' then readBasic block .afterBreak rest
    else if isSpace c || (c == '\r' && feedFollows rest) then readBasic block .beforeBreak rest
    else none
  | state, c :: rest =>
    if state = .afterBreak && (isSpace c || c == '\n' || (c == '\r' && feedFollows rest)) then
      readBasic block .afterBreak rest
    else
      match close? block '"' (c :: rest) with
      | some ending => some ending
      | none =>
        if c = '\\' then readBasic block .escape rest
        else if standsForItself block c rest then
          (readBasic block .text rest).map fun (text, rest) => (c :: text, rest)
        else none

/-- A text without the line break at its start, if there is one. -/
def dropBreak : List Char → List Char
  | '\n' :: rest => rest
  | '\r' :: '\n' :: rest => rest
  | cs => cs

/-- Reads a string of any form that may stand for a key: one in a line. -/
def readLineString? : List Char → Option (List Char × List Char)
  | '"' :: rest => readBasic false .text rest
  | '\'' :: rest => readLiteral false rest
  | _ => none

/-- Reads a string of any form. -/
def readString? : List Char → Option (List Char × List Char)
  | '"' :: '"' :: '"' :: rest => readBasic true .text (dropBreak rest)
  | '\'' :: '\'' :: '\'' :: rest => readLiteral true (dropBreak rest)
  | cs => readLineString? cs

end ServiceCatalog.Toml
