import TypedTables.Json
import TypedTables.Json.Draft
import TypedTables.Target
import TypedTables.Text.Utf8

/-!
# The configuration file

A JSON object whose member `database` describes the store: an object with a `type`, and a `path` where the type is
that of a file. A record may also be written as the array of its members in order. Members of other names are
ignored, and a member that counts may not be repeated. -/

namespace TypedTables.Target

open Json (Draft)

/-- The values of the members of a name. -/
def membersNamed (name : String) (members : List (Option String × Draft)) : List Draft :=
  (members.filter fun member => member.1 = some name).map (·.2)

/-- The value of the member of a name, if there is exactly one. -/
def member? (name : String) (members : List (Option String × Draft)) : Option Draft :=
  match membersNamed name members with
  | [value] => some value
  | _ => none

/-- The target of a description whose kind is known. `path` is what the description gives as the path. -/
def ofDescription (kind : String) (path : Option Draft) : Option Target :=
  if kind = "memory" then some memory
  else if kind = fileScheme then
    match path with
    | some (.string (some path)) => some (file path)
    | _ => none
  else none

/-- The greatest depth of a description that is read. -/
def depthLimit : Nat := 126

/-- The target that a description of a store means. An array gives the kind and what the kind needs, nothing more. -/
def ofStoreDraft (description : Draft) : Option Target :=
  if description.isSound && description.depth ≤ depthLimit then
    match description with
    | .object members =>
      match member? "type" members with
      | some (.string (some kind)) => ofDescription kind (member? "path" members)
      | _ => none
    | .array [.string (some kind)] => ofDescription kind none
    | .array [.string (some kind), path] => if kind = "memory" then none else ofDescription kind (some path)
    | _ => none
  else none

/-- The target that the content of a configuration file means. -/
def ofFileDraft : Draft → Option Target
  | .object members =>
    if members.all (·.1.isSome) then (member? "database" members).bind ofStoreDraft else none
  | .array [description] => ofStoreDraft description
  | _ => none

/-- Reads the bytes of a configuration file. -/
def ofFile (bytes : List UInt8) : Except TargetError Target :=
  match Text.readStrict bytes with
  | none => .error .unreadableFile
  | some text =>
    match (Json.draft? text).bind ofFileDraft with
    | some target => .ok target
    | none => .error .invalidFile

/-- The target of a configuration file that need not be there. -/
def ofFile? : Option (List UInt8) → Except TargetError (Option Target)
  | some bytes => (ofFile bytes).map some
  | none => .ok none

/-- The target of a configuration file that has to be there. -/
def ofRequiredFile : Option (List UInt8) → Except TargetError Target
  | some bytes => ofFile bytes
  | none => .error .missingFile

/-- The content of a configuration file that describes the target. -/
def toJson (target : Target) : Json :=
  let description :=
    match target with
    | memory => [("type", Json.string "memory")]
    | file path => [("type", Json.string fileScheme), ("path", Json.string path)]
  .object [("database", .object description)]

/-- The target to open: that of the file, else that of the environment, else the default. -/
def resolve (bytes : Option (List UInt8)) (env : Environment) : Except TargetError Target := do
  match ← ofFile? bytes with
  | some target => pure target
  | none =>
    match ← ofEnvironment env with
    | some target => pure target
    | none => ofAddress defaultPath

end TypedTables.Target
