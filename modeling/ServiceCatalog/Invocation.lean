import ServiceCatalog.Command

/-!
# Invocations

A command with its options, and what running it leaves behind: an exit code and the texts on both
outputs. Errors end a run with exit code 1; so do errors that a compilation reports.
-/

namespace ServiceCatalog

/-- A command with all that it is run with. -/
inductive Invocation where
  /-- Tells the version. -/
  | version
  /-- Compiles the table in a file. -/
  | process (symbols : String) (output config : Option String) (options : List String)
      (level : Option String)
  /-- Shows the providers of a service. -/
  | showService (output service : String) (level : Option String)
deriving Repr, DecidableEq

/-! ## Results -/

/-- What a run leaves behind: the exit code, and the texts on both outputs. -/
structure RunResult where
  exitCode : Nat
  output : String
  errors : String
deriving Repr, DecidableEq

/-- The lines of a text, each with its line break. -/
def linesText (lines : List String) : String := String.join (lines.map (· ++ "\n"))

namespace RunResult

/-- The result of a run that ends with an error. -/
def failure (cause : CommandError) : RunResult := ⟨1, "", "Error: " ++ cause.message ++ "\n"⟩

/-- The result of a compilation into the resources below a folder. -/
def ofCompilation (output : String) (report : CompilationReport) (journal : Journal) :
    RunResult where
  exitCode := if journal.hasErrors then 1 else 0
  output :=
    linesText (report.written.map fun service => "wrote " ++ Service.path output service) ++
      toString report.catalog.serviceCount ++ " interfaces, " ++
      toString report.written.length ++ " registry files written\n"
  errors := linesText (journal.map Diagnostic.text)

/-- The result of showing the providers of a service. -/
def ofProviders (providers : NameSet) : RunResult := ⟨0, linesText providers.toList, ""⟩

/-- The result of asking for the version. -/
def version : RunResult := ⟨0, "autoservice 0.1.0\n", ""⟩

end RunResult

/-! ## Running -/

variable {m : Type → Type} [Monad m]

/-- Compiles as an invocation says. The configuration, the log level and the options are settled in
this order before the table is loaded. -/
def runProcess (fs : FileSystem m) (env : Environment) (symbols : String)
    (output config : Option String) (options : List String) (level : Option String) :
    m RunResult := do
  match ← Config.load fs env config with
  | .error cause => return .failure (.config cause)
  | .ok config =>
    -- what the command line says comes before what the configuration says
    let level := level.getD config.logLevel
    match LogLevel.parse? level with
    | none => return .failure (.logLevel level)
    | some _ =>
      match config.resolve options with
      | .error cause => return .failure (.config cause)
      | .ok options =>
        let output := output.getD config.classOutput
        match ← compileFile fs symbols output options with
        | .error cause => return .failure cause
        | .ok (report, journal) => return .ofCompilation output report journal

/-- Shows the providers of a service as an invocation says. -/
def runShow (fs : FileSystem m) (output service : String) (level : Option String) :
    m RunResult := do
  let level := level.getD Config.defaultLevel
  match LogLevel.parse? level with
  | none => return .failure (.logLevel level)
  | some _ =>
    match ← showProviders fs output service with
    | .error cause => return .failure cause
    | .ok providers => return .ofProviders providers

/-- Runs an invocation. -/
def Invocation.run (fs : FileSystem m) (env : Environment) : Invocation → m RunResult
  | .version => return .version
  | .process symbols output config options level =>
    runProcess fs env symbols output config options level
  | .showService output service level => runShow fs output service level

end ServiceCatalog
