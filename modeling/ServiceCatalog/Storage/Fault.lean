import ServiceCatalog.Service.Name

/-!
# Faults of storage

Why reading or writing a stored content failed.
-/

namespace ServiceCatalog

/-- Why reading or writing failed. -/
inductive Fault where
  /-- There is nothing at a path, or no folder where one is needed. -/
  | notFound
  /-- A path leads through a file. -/
  | notFolder
  /-- A folder stands where a file is needed. -/
  | isFolder
  /-- A folder cannot be made where something stands. -/
  | alreadyExists
  /-- A component of a path, or the path itself, is too long. -/
  | nameTooLong
  /-- A path contains the character U+0000. -/
  | nulInPath
  /-- A content is not well-formed UTF-8. -/
  | notUtf8
  /-- A name would not read back from a service's resource. -/
  | badEntry (name : String)
  /-- A service has no resource because its name is unfit. -/
  | badServiceName (name : String) (fault : Service.NameFault)
  /-- A store in memory does not hold a resource. -/
  | noResource (name : String)
  /-- A store in memory refuses to read a resource. -/
  | readRefused (name : String)
  /-- A store in memory refuses to write a resource. -/
  | writeRefused (name : String)
  /-- Any other failure, known by its message alone. -/
  | other (message : String)
deriving Repr, DecidableEq

namespace Fault

/-- Whether a fault says that there is nothing to read. -/
def isMissing : Fault → Bool
  | .notFound => true
  | .noResource _ => true
  | _ => false

/-- The message of a fault. -/
def message : Fault → String
  | .notFound => "No such file or directory (os error 2)"
  | .notFolder => "Not a directory (os error 20)"
  | .isFolder => "Is a directory (os error 21)"
  | .alreadyExists => "File exists (os error 17)"
  | .nameTooLong => "File name too long (os error 36)"
  | .nulInPath => "file name contained an unexpected NUL byte"
  | .notUtf8 => "stream did not contain valid UTF-8"
  | .badEntry name => "invalid services file entry " ++ Text.quote name
  | .badServiceName name fault => fault.message name
  | .noResource name => name ++ " not found"
  | .readRefused name => "cannot read " ++ name
  | .writeRefused name => "cannot write " ++ name
  | .other message => message

end Fault

end ServiceCatalog
