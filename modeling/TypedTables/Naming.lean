import TypedTables.Text.Digits
import TypedTables.Text.Split
import TypedTables.Timestamp

/-!
# Names of stored tables

A table is stored under a name that says what it is. The unversioned table of a base has the base's own name; a
version appends `:v` and its number, a retired table `:backup:` and the time it was retired, an index `:indexes:`
and its name; a table being filled in place of an unversioned one has `migrate:` in front. `classify` reads a name
back. Stores in use hold these names, so they are fixed. -/

namespace TypedTables

/-- The version of a schema without versions: its table is migrated on every call. -/
def unversioned : Int32 := -1

namespace Naming

def versionMarker : String := ":v"
def backupMarker : String := ":backup:"
def indexMarker : String := ":indexes:"
def temporaryStart : String := "migrate:"

/-- The name of a version of the base. -/
def versioned (base : String) (version : Int32) : String := base ++ versionMarker ++ toString version.toInt

/-- The name of the table that is in use at a version of the base. -/
def active (base : String) (version : Int32) : String :=
  if version = unversioned then base else versioned base version

/-- The name of a retired table of the base, given the text of the time. -/
def retired (base stamp : String) : String := base ++ backupMarker ++ stamp

/-- The name of a table of the base that is retired at a time. -/
def backup (base : String) (time : Timestamp) : String := retired base time.text

/-- The name of the table that is filled in place of the active one. -/
def temporary (active : String) : String := temporaryStart ++ active

/-- The name of an index of a table. -/
def index (table index : String) : String := table ++ indexMarker ++ index

/-- The version that decimal digits denote, if there are any and the number is one of a version. -/
def digitsVersion? (digits : List Char) : Option Int32 :=
  (Text.natural? digits).bind fun n => if n ≤ Int32.maxValue.toNatClampNeg then some (Int32.ofNat n) else none

/-- The version of a table of the base, if the name is the base's with a version. -/
def version? (base table : String) : Option Int32 :=
  (Text.stripStart? (base ++ versionMarker).toList table.toList).bind digitsVersion?

end Naming

/-- What the name of a stored table says. -/
inductive TableRole where
  /-- A table in use, with its version if the name has one. -/
  | active (base : String) (version : Option Int32)
  /-- A retired table. -/
  | backup (base : String) (version : Option Int32) (stamp : String)
  /-- A table left from a migration in place. -/
  | temporary (base : String)
  /-- The name of an index. -/
  | index (table index : String)
  deriving DecidableEq

/-- The base that a role belongs to; for an index it is the table. -/
def TableRole.base : TableRole → String
  | active base _ => base
  | backup base _ _ => base
  | temporary base => base
  | index table _ => table

namespace Naming

/-- A name as its base and version; a name without a version is its own base. -/
def splitVersion (name : String) : String × Option Int32 :=
  match Text.splitLast versionMarker.toList name.toList with
  | some (base, digits) =>
    match digitsVersion? digits with
    | some version => (String.ofList base, some version)
    | none => (name, none)
  | none => (name, none)

/-- Reads a name. The markers are tried in order: the start of a temporary name, then the first index marker, then
    the first backup marker. -/
def classify (name : String) : TableRole :=
  match Text.dropStart? temporaryStart name with
  | some rest => .temporary (splitVersion rest).1
  | none =>
    match Text.cutFirst indexMarker name with
    | some (table, index) => .index table index
    | none =>
      match Text.cutFirst backupMarker name with
      | some (retired, stamp) =>
        let (base, version) := splitVersion retired
        .backup base version stamp
      | none =>
        let (base, version) := splitVersion name
        .active base version

end Naming

end TypedTables
