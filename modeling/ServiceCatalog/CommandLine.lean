import ServiceCatalog.Invocation

/-!
# The command line

The words of a command line say which command is run and with what. Options stand anywhere behind
the command; the log level may stand before it too. Whatever the words cannot mean is a usage
error.
-/

namespace ServiceCatalog

namespace CommandLine

/-! ## Words -/

/-- An option that takes a value. -/
inductive Key where
  | symbols
  | output
  | config
  | option
  | logLevel
deriving Repr, DecidableEq

/-- The long form of an option, without its dashes. -/
def Key.ofLong? : String → Option Key
  | "symbols" => some .symbols
  | "output" => some .output
  | "config" => some .config
  | "log-level" => some .logLevel
  | _ => none

/-- The short form of an option, without its dash. -/
def Key.ofShort? : Char → Option Key
  | 'A' => some .option
  | _ => none

/-- Whether an option names a path, which must not be empty. -/
def Key.isPath : Key → Bool
  | .symbols => true
  | .output => true
  | .config => true
  | _ => false

/-- Whether a word can only be an option. A single dash is an ordinary word. -/
def isDashed (word : String) : Bool := word.toList.head? == some '-' && word != "-"

/-- What a dashed word says. -/
inductive Dashed where
  /-- Names an option, with its value if the word holds it. -/
  | valued (key : Key) (value : Option String)
  /-- Asks for the version. -/
  | version
  /-- Ends the options. -/
  | stop
  | unknown
deriving Repr, DecidableEq

/-- Reads a dashed word. The value of a long option follows `=`; that of a short one follows at
once, with or without `=`. -/
def Dashed.ofWord (word : String) : Dashed :=
  match word.toList with
  | ['-', '-'] => .stop
  | '-' :: '-' :: long =>
    match Text.splitFirst '=' long with
    | none =>
      let name := String.ofList long
      if name = "version" then .version
      else
        match Key.ofLong? name with
        | some key => .valued key none
        | none => .unknown
    | some (name, value) =>
      match Key.ofLong? (String.ofList name) with
      | some key => .valued key (some (String.ofList value))
      | none => .unknown
  | '-' :: short :: attached =>
    if short = 'V' then .version
    else
      match Key.ofShort? short, attached with
      | none, _ => .unknown
      | some key, [] => .valued key none
      | some key, '=' :: value => .valued key (some (String.ofList value))
      | some key, value => .valued key (some (String.ofList value))
  | _ => .unknown

/-! ## Arguments of a command -/

/-- The options and the other words behind a command, each in order. -/
structure Arguments where
  keyed : List (Key × String)
  words : List String
deriving Repr, DecidableEq

/-- Whether an option can have a value. -/
def admits (keys : List Key) (key : Key) (value : String) : Bool :=
  key ∈ keys && !(key.isPath && value == "")

/-- Arguments with one more option at the start. -/
def Arguments.withKey (key : Key) (value : String) (a : Arguments) : Arguments :=
  { a with keyed := (key, value) :: a.keyed }

/-- Arguments with one more word at the start. -/
def Arguments.withWord (word : String) (a : Arguments) : Arguments :=
  { a with words := word :: a.words }

/-- Reads the words behind a command that knows some options. Takes the option whose value the next
word is, if there is one. -/
def readArguments (keys : List Key) : Option Key → List String → Option Arguments
  | none, [] => some ⟨[], []⟩
  | some _, [] => none
  -- a key takes the next word as its value, unless that looks like a key itself
  | some key, word :: rest =>
    if isDashed word || !admits keys key word then none
    else (readArguments keys none rest).map (·.withKey key word)
  | none, word :: rest =>
    if isDashed word then
      match Dashed.ofWord word with
      | .stop => some ⟨[], rest⟩
      | .valued key (some value) =>
        if admits keys key value then (readArguments keys none rest).map (·.withKey key value)
        else none
      | .valued key none => if key ∈ keys then readArguments keys (some key) rest else none
      | .version => none
      | .unknown => none
    else (readArguments keys none rest).map (·.withWord word)

namespace Arguments

/-- The values of an option. -/
def values (a : Arguments) (key : Key) : List String :=
  (a.keyed.filter fun e => e.1 = key).map Prod.snd

/-- The value of an option that may be left out but not repeated. -/
def optional? (a : Arguments) (key : Key) : Option (Option String) :=
  match a.values key with
  | [] => some none
  | [value] => some (some value)
  | _ => none

/-- The value of an option that must be given once. -/
def required? (a : Arguments) (key : Key) : Option String := (a.optional? key).join

end Arguments

/-! ## Commands -/

/-- The invocation that a command and the words behind it mean. The log level behind the command
counts before the one in front of it. -/
def readCommand (level : Option String) (command : String) (rest : List String) :
    Option Invocation := do
  if command = "process" then
    let a ← readArguments [.symbols, .output, .config, .option, .logLevel] none rest
    if a.words ≠ [] then none
    let symbols ← a.required? .symbols
    let output ← a.optional? .output
    let config ← a.optional? .config
    let ownLevel ← a.optional? .logLevel
    return .process symbols output config (a.values .option) (ownLevel <|> level)
  else if command = "show" then
    let a ← readArguments [.output, .logLevel] none rest
    let output ← a.required? .output
    let ownLevel ← a.optional? .logLevel
    match a.words with
    | [service] => return .showService output service (ownLevel <|> level)
    | _ => none
  else none

/-- Reads a command line up to the command. Takes the log level in front of it, and whether the
next word is one. -/
def readWords (level : Option String) : Bool → List String → Option Invocation
  | _, [] => none
  | true, word :: rest => if isDashed word then none else readWords (some word) false rest
  | false, word :: rest =>
    if isDashed word then
      match Dashed.ofWord word, level with
      | .version, _ => some .version
      | .valued .logLevel (some value), none => readWords (some value) false rest
      | .valued .logLevel none, none => readWords none true rest
      | _, _ => none
    else readCommand level word rest

/-- The invocation that a command line means, if it means one. -/
def parse? (words : List String) : Option Invocation := readWords none false words

end CommandLine

end ServiceCatalog
