import TypedTables.Json
import TypedTables.Plan
import TypedTables.Text.Columns

/-!
# Listings

What an inspection of a store finds: the stored tables grouped by the base that their names belong to, the columns of
one table, and what a migration would do. Each finding has a text for readers and a JSON value for programs. Groups
stand in the order of their bases; within a group the tables keep the order of the catalog. -/

namespace TypedTables

/-- The word for a role. -/
def TableRole.word : TableRole → String
  | active _ _ => "active"
  | backup _ _ _ => "backup"
  | temporary _ => "temporary"
  | index _ _ => "index"

/-- The version that a role shows. -/
def TableRole.version? : TableRole → Option Int32
  | active _ version => version
  | backup _ version _ => version
  | _ => none

/-- The version as JSON. -/
def versionJson (version : Int32) : Json := .number version.toInt

/-- The word for a version of a base. -/
def versionWord (version : Int32) : String :=
  if version = unversioned then "unversioned" else "v" ++ toString version.toInt

/-- The tables that belong to one base. -/
structure TableGroup where
  base : String
  tables : List TableInfo
  deriving DecidableEq

/-- The stored tables in groups. -/
structure Listing where
  /-- The only base that was asked for, if one was. -/
  onlyBase : Option String
  groups : List TableGroup
  deriving DecidableEq

/-- The base that a stored table belongs to. -/
def TableInfo.base (table : TableInfo) : String := (Naming.classify table.name).base

namespace Listing

/-- Adds a table to the group of its base, which is made where it is missing. -/
def file (table : TableInfo) : List TableGroup → List TableGroup
  | [] => [⟨table.base, [table]⟩]
  | group :: groups =>
    if table.base = group.base then ⟨group.base, group.tables ++ [table]⟩ :: groups
    else if table.base < group.base then ⟨table.base, [table]⟩ :: group :: groups
    else group :: file table groups

/-- The table is wanted: not a view where views are left out, and of the base that was asked for. -/
def keeps (onlyBase : Option String) (noViews : Bool) (table : TableInfo) : Bool :=
  !(noViews && table.kind = .view) && onlyBase.all (· = table.base)

/-- The listing of a catalog. -/
def ofCatalog (onlyBase : Option String) (noViews : Bool) (catalog : List TableInfo) : Listing :=
  ⟨onlyBase, (catalog.filter (keeps onlyBase noViews)).foldl (fun groups table => file table groups) []⟩

/-- How many tables are listed. -/
def count (listing : Listing) : Nat := listing.groups.foldl (fun n group => n + group.tables.length) 0

/-- The cells of a table. -/
def row (table : TableInfo) : List String :=
  let role := Naming.classify table.name
  let version := role.version?.elim "-" fun v => toString v.toInt
  [table.name, role.word, version, if table.kind = .view then "view" else "table"]

/-- The lines of a group. -/
def groupLines (group : TableGroup) : List String :=
  "" :: group.base ::
    (Text.columnLines ["NAME", "ROLE", "VERSION", "KIND"] (group.tables.map row)).map ("  " ++ ·)

/-- The listing as text. -/
def text (listing : Listing) : String :=
  let title := listing.onlyBase.elim "Tables" ("Tables: " ++ ·)
  let body :=
    if listing.groups.isEmpty then ["No tables found."]
    else
      ("Found " ++ toString listing.count ++ " table(s) in " ++ toString listing.groups.length ++ " group(s):") ::
        listing.groups.flatMap groupLines
  "\n".intercalate (title :: "" :: body)

/-- A table as JSON. -/
def tableJson (table : TableInfo) : Json :=
  let role := Naming.classify table.name
  .object
    [("name", .string table.name), ("role", .string role.word),
      ("version", Json.ofOption (role.version?.map versionJson)), ("view", .bool (table.kind = .view))]

/-- A group as JSON. -/
def groupJson (group : TableGroup) : Json :=
  .object [("base", .string group.base), ("tables", .array (group.tables.map tableJson))]

/-- The listing as JSON. -/
def toJson (listing : Listing) : Json :=
  .object
    [("base_filter", Json.ofOption (listing.onlyBase.map Json.string)),
      ("groups", .array (listing.groups.map groupJson))]

end Listing

/-- The columns of a stored table. -/
structure ColumnListing where
  table : String
  columns : List String
  deriving DecidableEq

namespace ColumnListing

/-- The listing as text. -/
def text (listing : ColumnListing) : String :=
  let body :=
    if listing.columns.isEmpty then ["No columns found."]
    else
      ("Found " ++ toString listing.columns.length ++ " column(s):") ::
        listing.columns.mapIdx fun i column => "  " ++ toString (i + 1) ++ ". " ++ column
  "\n".intercalate (("Columns: " ++ listing.table) :: "" :: body)

/-- The listing as JSON. -/
def toJson (listing : ColumnListing) : Json :=
  .object [("table", .string listing.table), ("columns", .array (listing.columns.map Json.string))]

end ColumnListing

/-- What a migration would do. -/
structure Preview where
  base : String
  version : Int32
  /-- The plan, or the newer version that is in its way. -/
  outcome : Plan ⊕ Int32
  deriving DecidableEq

/-- A plan as JSON. -/
def Plan.toJson : Plan → Json
  | create table => .object [("action", .string "create"), ("table", .string table)]
  | migrate source destination active fromVersion =>
    .object
      [("action", .string "migrate"), ("source", .string source), ("destination", .string destination),
        ("active", .string active), ("from_version", versionJson fromVersion)]
  | skip table => .object [("action", .string "skip"), ("table", .string table)]

namespace Preview

/-- The preview of a migration. A conflict of versions is an outcome, every other error an error. -/
def ofCatalog (base : String) (version : Int32) (catalog : List TableInfo) : Except Error Preview :=
  match Plan.ofCatalog catalog base version with
  | .ok plan => .ok ⟨base, version, .inl plan⟩
  | .error (.versionConflict _ _ found) => .ok ⟨base, version, .inr found⟩
  | .error e => .error e

/-- The outcome in words. -/
def step (preview : Preview) : String :=
  match preview.outcome with
  | .inl (.create table) => "create " ++ table
  | .inl (.skip table) => "skip: " ++ table ++ " is already current"
  | .inl (.migrate source destination active fromVersion) =>
    let route := if destination = active then [source, active] else [source, destination, active]
    "migrate " ++ " -> ".intercalate route ++ " (from " ++ versionWord fromVersion ++ ")"
  | .inr found =>
    "conflict: store holds " ++ versionWord found ++ ", newer than target " ++ versionWord preview.version

/-- The preview as text. -/
def text (preview : Preview) : String :=
  "Plan: " ++ preview.base ++ " -> " ++ versionWord preview.version ++ " (" ++
    Naming.active preview.base preview.version ++ ")\n\n  " ++ preview.step

/-- The preview as JSON. -/
def toJson (preview : Preview) : Json :=
  let outcome :=
    match preview.outcome with
    | .inl plan => ("plan", plan.toJson)
    | .inr found => ("conflict", versionJson found)
  .object
    [("base", .string preview.base), ("target_version", versionJson preview.version),
      ("active_table", .string (Naming.active preview.base preview.version)), outcome]

end Preview

end TypedTables
