import ServiceCatalog.Options
import ServiceCatalog.Storage.FileSystem
import ServiceCatalog.Toml.Document
import ServiceCatalog.Toml.Printer

/-!
# Configuration

A configuration file holds the options of a compilation, the folder for its output, and a log
level. Whatever it leaves out has a default, which for the folder depends on the environment.
-/

namespace ServiceCatalog

/-- What the program is told by its surroundings. -/
structure Environment where
  /-- The folder for the output, if one is set. -/
  outputFolder : Option String
  /-- The folder of all configuration files, if one is set. -/
  configFolder : Option String
  /-- The home folder of the user, if it is known. -/
  homeFolder : Option String
  workingFolder : String
deriving Repr, DecidableEq

/-- A configuration. -/
structure Config where
  options : Options
  /-- The folder below which resources are written. -/
  classOutput : String
  logLevel : String
deriving Repr, DecidableEq

/-- Why there is no configuration. -/
inductive ConfigError where
  /-- A file cannot be read or written. -/
  | file (cause : Fault)
  /-- The content of a file is no configuration. -/
  | malformed
  /-- A text is no option. -/
  | invalidOption (text : String)
  /-- The folder of configuration files is not known. -/
  | noConfigFolder
deriving Repr, DecidableEq

/-- The message of an error. -/
def ConfigError.message : ConfigError → String
  | .file cause => "Failed to read config file: " ++ cause.message
  | .malformed => "Failed to parse config file: malformed configuration"
  | .invalidOption text =>
    "Invalid processor option `" ++ text ++ "`: expected key or key=value"
  | .noConfigFolder => "Could not find user config directory"

/-- The folder for the output when nothing else is said. -/
def Environment.defaultOutput (env : Environment) : String :=
  env.outputFolder.getD env.workingFolder

/-- The path of the configuration file of the user. -/
def Environment.configPath (env : Environment) : Except ConfigError String :=
  let inFolder (folder : String) : String :=
    Path.join (Path.join folder "autoservice") "config.toml"
  match env.configFolder.filter Path.isAbsolute with
  | some folder => .ok (inFolder folder)
  | none =>
    match env.homeFolder.filter (· ≠ "") with
    | some home => .ok (inFolder (Path.join home ".config"))
    | none => .error .noConfigFolder

namespace Config

/-- The log level when nothing else is said. -/
def defaultLevel : String := "warn"

/-- The configuration when nothing is said. -/
def default (env : Environment) : Config := ⟨.default, env.defaultOutput, defaultLevel⟩

/-! ## Reading -/

/-- The boolean that a value is. -/
def asBoolean? : Toml.Value → Option Bool
  | .boolean b => some b
  | _ => none

/-- The text that a value is. -/
def asText? : Toml.Value → Option String
  | .string text => some text
  | _ => none

/-- The value of a field that has a default. -/
def fieldOr {α : Type} (default : α) (read? : Toml.Value → Option α) : Option Toml.Value → Option α
  | none => some default
  | some value => read? value

/-- Finds the fields of a section in the order of their names. A section is a table, whose other
entries must be readable; or an array with the fields in order; or a date, which has none. -/
def sectionFields? (names : List String) : Option Toml.Value → Option (List (Option Toml.Value))
  | none => some (names.map fun _ => none)
  | some .datetime => some (names.map fun _ => none)
  | some (.array items) => some (names.mapIdx fun i _ => items[i]?)
  | some (.table _ entries) =>
    if (entries.filter fun e => e.1 ∉ names).all fun e => e.2.isReadable then
      some (names.map fun name => entries.lookup name)
    else none
  | some _ => none

/-- The options in their section. -/
def readOptions? (value : Option Toml.Value) : Option Options := do
  match ← sectionFields? ["verify", "debug"] value with
  | [verify, debug] =>
    return {
      verify := ← fieldOr false asBoolean? verify
      debug := ← fieldOr false asBoolean? debug }
  | _ => none

/-- The text in a section that holds one. -/
def readOnly? (name default : String) (value : Option Toml.Value) : Option String := do
  match ← sectionFields? [name] value with
  | [field] => fieldOr default asText? field
  | _ => none

/-- The names of the sections. -/
def sections : List String := ["processor", "output", "logging"]

/-- The configuration that a table holds. -/
def ofToml? (env : Environment) (entries : Toml.Entries) : Option Config :=
  if (entries.filter fun e => e.1 ∉ sections).all fun e => e.2.isReadable then do
    return {
      options := ← readOptions? (entries.lookup "processor")
      classOutput := ← readOnly? "class_output" env.defaultOutput (entries.lookup "output")
      logLevel := ← readOnly? "level" defaultLevel (entries.lookup "logging") }
  else none

/-- The configuration that a text denotes. -/
def ofText? (env : Environment) (text : String) : Option Config :=
  (Toml.ofText? text).bind (ofToml? env)

/-! ## Writing -/

/-- The text of a configuration. -/
def toText (c : Config) : String :=
  "[processor]\nverify = " ++ Toml.printBool c.options.verify ++
    "\ndebug = " ++ Toml.printBool c.options.debug ++
    "\n\n[output]\nclass_output = " ++ Toml.printString c.classOutput ++
    "\n\n[logging]\nlevel = " ++ Toml.printString c.logLevel ++ "\n"

/-! ## Files -/

variable {m : Type → Type} [Monad m]

/-- The configuration in a file. -/
def ofFile (fs : FileSystem m) (env : Environment) (path : String) :
    m (Except ConfigError Config) := do
  match ← fs.readText path with
  | .error cause => return .error (.file cause)
  | .ok text =>
    match ofText? env text with
    | none => return .error .malformed
    | some config => return .ok config

/-- Writes a configuration to a file. -/
def save (fs : FileSystem m) (path : String) (c : Config) : m (Except ConfigError Unit) := do
  match ← fs.write path (Utf8.encode c.toText) with
  | .error cause => return .error (.file cause)
  | .ok () => return .ok ()

/-- The configuration in the file that is asked for, or else in the file of the user if there is
one. -/
def load (fs : FileSystem m) (env : Environment) : Option String → m (Except ConfigError Config)
  | some path => ofFile fs env path
  | none => do
    match env.configPath with
    | .error _ => return .ok (default env)
    | .ok path => if ← fs.isFile path then ofFile fs env path else return .ok (default env)

/-- The options of a configuration after those that are given as texts. -/
def resolve (c : Config) (overrides : List String) : Except ConfigError Options :=
  match Options.parsePairs overrides with
  | .error text => .error (.invalidOption text)
  | .ok pairs => .ok (c.options.apply pairs)

end Config

end ServiceCatalog
