import TypedTables.CommandLine
import TypedTables.Target.ConfigFile
import TypedTables.Target.Opening

/-!
# The program

Reads the command line, opens the store that is asked for and prints the answer to the command. -/

namespace TypedTables

/-- The words of the command line that the help text explains. -/
def helpText : String :=
  "Inspect typed, versioned tables\n\nUsage: table_schema [--db ADDRESS] [-o table|json|toon] COMMAND\n\n" ++
    "Commands:\n  tables [-b BASE] [--no-views]\n  columns TABLE\n  plan BASE -v VERSION\n"

/-- What a mistake on the command line is answered with. -/
def UsageError.message : UsageError → String
  | repeated => "an option is given twice"
  | invalidValue => "an option lacks its value or has one that it does not take"
  | invalidNumber => "a version is a whole number of 32 bits"
  | unknownArgument => "an argument is not known"
  | unexpectedValue => "a switch takes no value"
  | missingArgument => "an argument is missing"
  | unknownCommand => "a command is not known"
  | missingCommand => "a command is missing"
  | nothingGiven => helpText
  | helpRequest => helpText
  | versionRequest => "table_schema"

/-- The answer to an invocation whose target is known. -/
def Invocation.answer (invocation : Invocation) (target : Target) : Except String String := do
  let store ← target.connect.mapError Error.message
  ((invocation.command.run Store.backend invocation.form).run.run store).1.mapError CommandError.message

/-- The target of an invocation: what the command line says, else what the file and the environment say. -/
def Invocation.target (invocation : Invocation) (file : Option (List UInt8)) (env : Target.Environment) :
    Except TargetError Target :=
  match invocation.db with
  | some address => Target.ofAddress address
  | none => Target.resolve file env

/-- The bytes of the configuration file, if it is there. -/
def readConfigFile : IO (Option (List UInt8)) := do
  try
    let bytes ← IO.FS.readBinFile Target.fileName
    pure (some bytes.toList)
  catch _ => pure none

end TypedTables

open TypedTables in
/-- Answers one command line. -/
def main (words : List String) : IO UInt32 := do
  match CommandLine.parse words with
  | .error .helpRequest => do
    IO.println helpText
    pure 0
  | .error e => do
    IO.eprintln e.message
    pure 2
  | .ok invocation => do
    let file ← readConfigFile
    let env : Target.Environment := ⟨← IO.getEnv "DATABASE_URL", ← IO.getEnv "TABLE_SCHEMA_DB"⟩
    match (invocation.target file env).mapError TargetError.message >>= invocation.answer with
    | .ok text => do
      IO.println text
      pure 0
    | .error message => do
      IO.eprintln message
      pure 1
