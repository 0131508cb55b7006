import TypedTables.Error
import TypedTables.Naming

/-!
# Migration plans

What has to be done to bring a base to a version, decided from the tables that the store lists. Views do not count.
An active table of the exact name decides first; then the greatest version found above the target, which is a
conflict, and the greatest below it, which is what to migrate from. -/

namespace TypedTables

/-- Whether a catalog entry is a table or a view. -/
inductive TableKind where
  | table
  | view
  deriving DecidableEq, Inhabited

/-- An entry of a store's catalog. -/
structure TableInfo where
  name : String
  kind : TableKind
  deriving DecidableEq, Inhabited

/-- What a migration does. -/
inductive Plan where
  /-- Create the table from nothing. -/
  | create (table : String)
  /-- Copy the source into the destination, retire the source, and leave the data under the active name. The
      destination differs from it only where an unversioned table is migrated in place. -/
  | migrate (source destination active : String) (fromVersion : Int32)
  /-- The table is at the target version. -/
  | skip (table : String)
  deriving DecidableEq

namespace Plan

/-- The names of the tables in a catalog, without views. -/
def tableNames (catalog : List TableInfo) : List String :=
  (catalog.filter (·.kind = .table)).map TableInfo.name

/-- The versions of a base that the names hold. -/
def versions (names : List String) (base : String) : List Int32 := names.filterMap (Naming.version? base)

/-- The greatest of some versions. -/
def greatest? : List Int32 → Option Int32
  | [] => none
  | v :: vs => some (vs.foldl max v)

/-- The plan for a table that is not there under its active name, given the versions that are. -/
def ofVersions (base : String) (version : Int32) (found : List Int32) : Except Error Plan :=
  let active := Naming.active base version
  if version ∈ found then .ok (.skip active)
  else
    match greatest? (found.filter (version < ·)) with
    | some newer => .error (.versionConflict base version newer)
    | none =>
      match greatest? (found.filter (· < version)) with
      | some older => .ok (.migrate (Naming.versioned base older) active active older)
      | none => .ok (.create active)

/-- How to bring a base to a version, given the catalog. -/
def ofCatalog (catalog : List TableInfo) (base : String) (version : Int32) : Except Error Plan :=
  if version < unversioned then .error (.invalidVersion version)
  else
    let active := Naming.active base version
    let names := tableNames catalog
    if active ∈ names then
      if version = unversioned then .ok (.migrate active (Naming.temporary active) active unversioned)
      else .ok (.skip active)
    else ofVersions base version (versions names base)

end Plan

end TypedTables
