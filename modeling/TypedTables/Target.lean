import TypedTables.Error
import TypedTables.Text.Split

/-!
# Targets

Which store to open: one in memory, or a file. A target is given by an address, by two variables of the environment
or by a configuration file; the file counts first, then the environment, then the default. -/

namespace TypedTables

/-- A store to open. -/
inductive Target where
  | memory
  | file (path : String)
  deriving DecidableEq, Inhabited

/-- Why there is no target. -/
inductive TargetError where
  /-- The address has a scheme and nothing behind it. -/
  | missingPath
  | unsupportedScheme (scheme : String)
  /-- There is no configuration file. -/
  | missingFile
  /-- The configuration file is not text. -/
  | unreadableFile
  /-- The configuration file does not describe a store. -/
  | invalidFile
  deriving DecidableEq

namespace Target

/-- The address of a store in memory. -/
def memoryAddress : String := ":memory:"

/-- What divides the scheme of an address from the rest. -/
def schemeMarker : String := "://"

/-- The scheme of addresses of files. -/
def fileScheme : String := "sqlite"

/-- The file that is opened when nothing else is said. -/
def defaultPath : String := "./table_schema.sqlite"

/-- The name of the configuration file. -/
def fileName : String := ".table_schema.json"

/-- The target of an address. What has no scheme is a path. -/
def ofAddress (address : String) : Except TargetError Target :=
  if address = memoryAddress then .ok memory
  else
    match Text.dropStart? (fileScheme ++ schemeMarker) address with
    | some path => if path = "" then .error .missingPath else .ok (file path)
    | none =>
      match Text.cutFirst schemeMarker address with
      | some (scheme, _) => .error (.unsupportedScheme scheme)
      | none => .ok (file address)

/-- The variables of the environment that name a target. -/
structure Environment where
  /-- An address. -/
  address : Option String
  /-- The path of a file. -/
  path : Option String

/-- The target that the environment names. The address counts first, and it counts also where it is wrong. -/
def ofEnvironment (env : Environment) : Except TargetError (Option Target) :=
  match env.address, env.path with
  | some address, _ => (ofAddress address).map some
  | none, some path => .ok (some (file path))
  | none, none => .ok none

/-- A configuration file that could stand where none is. -/
def sampleFile : String :=
  "\x7b\n  \"database\": \x7b\n    \"type\": \"sqlite\",\n    \"path\": \"" ++ defaultPath ++ "\"\n  \x7d\n\x7d\n"

end Target

/-- The wording of an error. -/
def TargetError.message : TargetError → String
  | missingPath => Target.fileScheme ++ Target.schemeMarker ++ " URL is missing a path"
  | unsupportedScheme scheme => "Unsupported database scheme '" ++ scheme ++ "'"
  | missingFile =>
    "Configuration file not found: " ++ Target.fileName ++ "\n\nCreate " ++ Target.fileName ++
      " in the current directory, for example:\n" ++ Target.sampleFile
  | unreadableFile => "Failed to read " ++ Target.fileName
  | invalidFile => "Invalid JSON in " ++ Target.fileName

end TypedTables
