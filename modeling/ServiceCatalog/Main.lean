import ServiceCatalog.CommandLine

/-!
# The program

Runs a command line on the file system of the machine. All that is decided is decided by
`CommandLine.parse?` and `Invocation.run`; here requests are only handed on.
-/

namespace ServiceCatalog.Main

/-- The fault that an error number of the system stands for. The number may come negated. -/
def faultOfCode (code : UInt32) (message : String) : Fault :=
  match min code.toNat (0x100000000 - code.toNat) with
  | 2 => .notFound
  | 17 => .alreadyExists
  | 20 => .notFolder
  | 21 => .isFolder
  | 36 => .nameTooLong
  | _ => .other message

/-- The fault that an error of the system stands for. -/
def faultOfError (e : IO.Error) : Fault :=
  let message := toString e
  match e with
  | .noFileOrDirectory _ _ _ => .notFound
  | .alreadyExists _ _ _ => .alreadyExists
  | .inappropriateType _ code _ => faultOfCode code message
  | .invalidArgument _ code _ => faultOfCode code message
  | .otherError code _ => faultOfCode code message
  | _ => .other message

/-- Hands a request on, unless the path could not be passed to the system. -/
def request {α : Type} (path : String) (act : IO α) : IO (Except Fault α) := do
  if path.toList.any fun c => c.toNat = 0 then return .error .nulInPath
  try
    return .ok (← act)
  catch e =>
    return .error (faultOfError e)

/-- The content of a file. -/
def readBytes (path : String) : IO (Except Fault Bytes) :=
  request path do return (← IO.FS.readBinFile path).toList

/-- The file system of the machine. A path leads to a folder if reading it fails for that reason. -/
def machine : FileSystem IO where
  read := readBytes
  write path content := request path (IO.FS.writeBinFile path (ByteArray.mk content.toArray))
  makeFolder path := request path (IO.FS.createDir path)
  isFolder path := do return (← readBytes path) matches .error .isFolder
  isFile path := do return (← readBytes path).isOk

/-- What the program is told by the machine. -/
def environment : IO Environment := do
  return {
    outputFolder := ← IO.getEnv "OUT_DIR"
    configFolder := ← IO.getEnv "XDG_CONFIG_HOME"
    homeFolder := ← IO.getEnv "HOME"
    workingFolder := (← IO.currentDir).toString }

/-- What is told about a command line that means nothing. -/
def usage : String :=
  "usage: autoservice process --symbols FILE [--output FOLDER] [--config FILE]\n" ++
    "         [-A KEY[=VALUE]]...\n" ++
    "       autoservice show --output FOLDER SERVICE"

/-- Runs a command line and gives the exit code. -/
def run (words : List String) : IO UInt32 := do
  match CommandLine.parse? words with
  | none =>
    IO.eprintln usage
    return 2
  | some invocation =>
    let result ← invocation.run machine (← environment)
    IO.eprint result.errors
    IO.print result.output
    return result.exitCode.toUInt32

end ServiceCatalog.Main

/-- Runs the program. -/
def main (words : List String) : IO UInt32 := ServiceCatalog.Main.run words
