import ServiceCatalog.Toml.Basic
import ServiceCatalog.Text.Hex

/-!
# TOML numbers, dates and words

A value that is not a string, an array or a table is a run of characters, which must be as a whole
a word, a number, or a date and time.

A number may have the right form and still have no value: it may be too large, lack digits behind
the mark of its base, or have letters among its digits. Such a number is refused only where it is
read, not where it stands.
-/

namespace ServiceCatalog.Toml

/-- Whether a character may stand in such a run: all but blanks, line breaks and the marks of
comments, keys, arrays and inline tables. -/
def isScalarChar (c : Char) : Bool :=
  !isSpace c && c ∉ ['\n', '\r', '#', '=', ',', '[', ']', '\x7b', '\x7d']

/-! ## Digits -/

/-- The number that digits in a base denote. -/
def numberOf (base : Nat) (digits : List Char) : Nat :=
  digits.foldl (fun acc c => acc * base + (Text.hexValue? c).getD 0) 0

/-- A digit in a base of at most sixteen. -/
def isDigitOf (base : Nat) (c : Char) : Bool :=
  match Text.hexValue? c with
  | some value => value < base
  | none => false

/-- A text of decimal digits, of which there is at least one. -/
def digits? (cs : List Char) : Option (List Char) :=
  if !cs.isEmpty && cs.all Text.isDigit then some cs else none

/-- Whether every underscore stands between two digits. Takes whether a digit stands before the
text. -/
def underscoresFitAfter (isDigit : Char → Bool) : (digit : Bool) → List Char → Bool
  | _, [] => true
  | digit, c :: rest =>
    if c = '_' then digit && rest.head?.any isDigit && underscoresFitAfter isDigit false rest
    else underscoresFitAfter isDigit (isDigit c) rest

/-- Whether every underscore of a number without its sign stands between two digits. -/
def underscoresFit (isDigit : Char → Bool) (cs : List Char) : Bool :=
  underscoresFitAfter isDigit false cs

/-- A text without its underscores. -/
def dropUnderscores (cs : List Char) : List Char := cs.filter (· ≠ '_')

/-! ## Integers -/

/-- Whether an integer fits in 128 bits, with or without a sign. -/
def fits128 (n : Int) : Bool := -(Int.pow 2 127) ≤ n && n < Int.pow 2 128

/-- An integer in base two, eight or sixteen, after the mark of its base. -/
def basedInteger? (base : Nat) (cs : List Char) : Option Value :=
  let digits := dropUnderscores cs
  if digits.all (isDigitOf base) && underscoresFit (isDigitOf base) cs then
    some (.number (!digits.isEmpty && fits128 (numberOf base digits)))
  else none

/-- A decimal integer after its sign, which has no superfluous zero at the start. An underscore may
also stand between digits of base sixteen, but an integer with such digits has no value. -/
def decimalInteger? (negative : Bool) (cs : List Char) : Option Value :=
  if cs.head? = some '0' ∧ cs ≠ ['0'] then none
  else if underscoresFit (isDigitOf 16) cs then
    let digits := dropUnderscores cs
    let n := (numberOf 10 digits : Int)
    some (.number (digits.all Text.isDigit && fits128 (if negative then -n else n)))
  else none

/-! ## Floats -/

/-- Whether digits, divided by ten as often as given, with an exponent make a number that is too
large for a float of 64 bits, even when it is rounded. -/
def isTooLarge (digits : List Char) (places : Nat) (exponent : Int) : Bool :=
  let digits := digits.dropWhile (· = '0')
  let scale := exponent - places
  let magnitude := digits.length + scale
  let bound := Nat.pow 2 1024 - Nat.pow 2 970
  if digits = [] || magnitude ≤ 308 then false
  else if 309 < magnitude then true
  else bound * Nat.pow 10 (-scale).toNat ≤ numberOf 10 digits * Nat.pow 10 scale.toNat

/-- The exponent of a number: an optional sign and digits. -/
def exponent? : List Char → Option Int
  | '-' :: cs => (digits? cs).map fun digits => -(numberOf 10 digits : Int)
  | '+' :: cs => (digits? cs).map fun digits => (numberOf 10 digits : Int)
  | cs => (digits? cs).map fun digits => (numberOf 10 digits : Int)

/-- The text before the first of two characters, and the text after it, if there is one. -/
def splitAtEither (a b : Char) (cs : List Char) : List Char × Option (List Char) :=
  match cs.dropWhile (fun c => c != a && c != b) with
  | [] => (cs, none)
  | _ :: after => (cs.takeWhile (fun c => c != a && c != b), some after)

/-- A decimal number with a fraction, an exponent or both, after its sign. -/
def float? (cs : List Char) : Option Value := do
  let (mantissa, exponent) := splitAtEither 'e' 'E' (dropUnderscores cs)
  let (whole, fraction) := splitAtEither '.' '.' mantissa
  let whole ← digits? whole
  let fraction ← match fraction with
    | none => some []
    | some cs => digits? cs
  let exponent ← match exponent with
    | none => some 0
    | some cs => exponent? cs
  -- a zero may not stand in front of other digits
  if cs.head? = some '0' ∧ 1 < whole.length then none
  else if underscoresFit Text.isDigit cs then
    some (.number (!isTooLarge (whole ++ fraction) fraction.length exponent))
  else none

/-! ## Numbers -/

/-- Whether a character makes a number a float. -/
def isFloatMark (c : Char) : Bool := c == '.' || c == 'e' || c == 'E'

/-- A decimal number after its sign. What follows the digits at its start decides whether it is a
float or an integer with underscores. -/
def decimal? (negative : Bool) (cs : List Char) : Option Value :=
  match cs.dropWhile Text.isDigit with
  | [] => if cs = [] then none else decimalInteger? negative cs
  | c :: rest =>
    if (c :: rest).any isFloatMark then float? cs
    else if c = '_' then decimalInteger? negative cs
    else none

/-- A number after its sign, which may also be a word. -/
def afterSign? (negative : Bool) (cs : List Char) : Option Value :=
  if cs = ['i', 'n', 'f'] ∨ cs = ['n', 'a', 'n'] then some (.number true) else decimal? negative cs

/-- A number. -/
def number? : List Char → Option Value
  | '+' :: cs => afterSign? false cs
  | '-' :: cs => afterSign? true cs
  | '0' :: 'x' :: cs => basedInteger? 16 cs
  | '0' :: 'o' :: cs => basedInteger? 8 cs
  | '0' :: 'b' :: cs => basedInteger? 2 cs
  | cs => afterSign? false cs

/-! ## Dates and times -/

/-- The number that two digits denote. -/
def twoDigits? (a b : Char) : Option Nat :=
  if Text.isDigit a && Text.isDigit b then some (numberOf 10 [a, b]) else none

/-- The number of days of a month. -/
def daysOf (year month : Nat) : Nat :=
  if month = 2 then
    if year % 4 = 0 ∧ (year % 100 ≠ 0 ∨ year % 400 = 0) then 29 else 28
  else if month = 4 ∨ month = 6 ∨ month = 9 ∨ month = 11 then 30
  else 31

/-- Reads a date such as `1979-05-27`. -/
def readDate : List Char → Option (List Char)
  | a :: b :: c :: d :: '-' :: e :: f :: '-' :: g :: h :: rest => do
    let century ← twoDigits? a b
    let decade ← twoDigits? c d
    let month ← twoDigits? e f
    let day ← twoDigits? g h
    if 1 ≤ month ∧ month ≤ 12 ∧ 1 ≤ day ∧ day ≤ daysOf (century * 100 + decade) month then some rest
    else none
  | _ => none

/-- Reads the fraction of a second, if there is one. -/
def readSecondFraction : List Char → Option (List Char)
  | '.' :: c :: rest => if Text.isDigit c then some (rest.dropWhile Text.isDigit) else none
  | '.' :: [] => none
  | cs => some cs

/-- Reads the seconds of a time of day, if there are any. -/
def readSeconds : List Char → Option (List Char)
  | ':' :: a :: b :: rest => do
    let second ← twoDigits? a b
    if second ≤ 60 then readSecondFraction rest else none
  | ':' :: _ => none
  | cs => some cs

/-- Reads a time of day such as `07:32:00.5` or `07:32`. -/
def readTime : List Char → Option (List Char)
  | a :: b :: ':' :: c :: d :: rest => do
    let hour ← twoDigits? a b
    let minute ← twoDigits? c d
    if hour ≤ 23 ∧ minute ≤ 59 then readSeconds rest else none
  | _ => none

/-- Whether a text is the offset of a time from the universal time, or empty. -/
def isOffset : List Char → Bool
  | [] => true
  | ['Z'] => true
  | ['z'] => true
  | [sign, a, b, ':', c, d] =>
    match twoDigits? a b, twoDigits? c d with
    | some hour, some minute => (sign == '+' || sign == '-') && hour ≤ 23 && minute ≤ 59
    | _, _ => false
  | _ => false

/-- Whether a text is a date, a time, or both with an optional offset. -/
def isDatetime (cs : List Char) : Bool :=
  match readDate cs with
  | some [] => true
  | some (separator :: rest) =>
    (separator == 'T' || separator == 't' || separator == ' ') &&
      (match readTime rest with
        | some rest => isOffset rest
        | none => false)
  | none => readTime cs == some []

/-! ## Runs -/

/-- The value that a run of characters denotes. -/
def scalar? (cs : List Char) : Option Value :=
  if cs = ['t', 'r', 'u', 'e'] then some (.boolean true)
  else if cs = ['f', 'a', 'l', 's', 'e'] then some (.boolean false)
  else if isDatetime cs then some .datetime
  else number? cs

/-- Reads such a value. A date goes on behind a blank if a digit follows. -/
def readScalar (cs : List Char) : Option (Value × List Char) :=
  let run := cs.takeWhile isScalarChar
  let rest := cs.dropWhile isScalarChar
  match readDate run, rest with
  | some [], ' ' :: c :: after =>
    if Text.isDigit c then
      (scalar? (run ++ ' ' :: (c :: after).takeWhile isScalarChar)).map
        fun value => (value, after.dropWhile isScalarChar)
    else (scalar? run).map fun value => (value, rest)
  | _, _ => (scalar? run).map fun value => (value, rest)

end ServiceCatalog.Toml
