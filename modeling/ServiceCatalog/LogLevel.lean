import ServiceCatalog.Options
import ServiceCatalog.Text.Hex

/-!
# Log levels
-/

namespace ServiceCatalog

/-- How much is logged. -/
inductive LogLevel where
  | error
  | warn
  | info
  | debug
  | trace
deriving Repr, DecidableEq

namespace LogLevel

/-- The name of a level. -/
def name : LogLevel → String
  | .error => "ERROR"
  | .warn => "WARN"
  | .info => "INFO"
  | .debug => "DEBUG"
  | .trace => "TRACE"

/-- The levels in the order of their numbers, the first of which is one. -/
def all : List LogLevel := [.error, .warn, .info, .debug, .trace]

/-- The number that digits denote. -/
def decimalNumber (digits : List Char) : Nat :=
  digits.foldl (fun acc c => acc * 10 + (c.toNat - 0x30)) 0

/-- A number: digits behind an optional plus sign. -/
def number? (cs : List Char) : Option Nat :=
  let digits := match cs with
    | '+' :: rest => rest
    | _ => cs
  if !digits.isEmpty && digits.all Text.isDigit then some (decimalNumber digits) else none

/-- The level that a text names, by its number or by its name in any case, with blanks around. -/
def parse? (text : String) : Option LogLevel :=
  let word := Text.trim text
  match number? word.toList with
  | some 0 => none
  | some (n + 1) => all[n]?
  | none => all.find? fun level => Options.sameIgnoringCase level.name word

/-- The message about a text that names no level. -/
def invalidMessage (text : String) : String :=
  "Invalid log level `" ++ text ++ "` (expected trace, debug, info, warn or error)"

end LogLevel

end ServiceCatalog
