import TypedTables.Backend
import TypedTables.Json.Toon
import TypedTables.Listing

/-!
# Commands

The questions that can be asked about a store from outside. A command only reads the catalog, and its answer is given
in one of three forms. -/

namespace TypedTables

/-- The form of an answer. -/
inductive OutputForm where
  | table
  | json
  | toon
  deriving DecidableEq, Inhabited

/-- A question about a store. -/
inductive Command where
  /-- The stored tables, of one base only where one is given. -/
  | tables (base : Option String) (noViews : Bool)
  /-- The columns of a stored table. -/
  | columns (table : String)
  /-- What migrating a base to a version would do. -/
  | plan (base : String) (version : Int32)
  deriving DecidableEq

/-- Why a command has no answer. -/
inductive CommandError where
  | store (e : Error)
  | unknownTable (table : String)
  deriving DecidableEq

/-- The wording of an error. -/
def CommandError.message : CommandError → String
  | store e => e.message
  | unknownTable table => "Table '" ++ table ++ "' not found"

/-- A finding as text and as JSON. -/
structure Answer where
  text : String
  json : Json

/-- The answer in a form. -/
def Answer.inForm (answer : Answer) : OutputForm → String
  | .table => answer.text
  | .json => answer.json.pretty
  | .toon => answer.json.toon

namespace Command

variable {σ : Type}

/-- An action on a store as a part of a command. -/
def read {α : Type} (x : Action σ α) : ExceptT CommandError (StateM σ) α := x.adapt CommandError.store

/-- The answer to a command. -/
def answer (backend : Backend σ) : Command → ExceptT CommandError (StateM σ) Answer
  | tables base noViews => do
    let catalog ← read backend.listTables
    let listing := Listing.ofCatalog base noViews catalog
    pure ⟨listing.text, listing.toJson⟩
  | columns table => do
    let catalog ← read backend.listTables
    if catalog.any (·.name = table) then
      let columns ← read (backend.listColumns table)
      let listing : ColumnListing := ⟨table, columns⟩
      pure ⟨listing.text, listing.toJson⟩
    else throw (.unknownTable table)
  | plan base version => do
    let catalog ← read backend.listTables
    let preview ← read (Action.ofExcept (Preview.ofCatalog base version catalog))
    pure ⟨preview.text, preview.toJson⟩

/-- The answer to a command as it is printed. -/
def run (backend : Backend σ) (command : Command) (form : OutputForm) : ExceptT CommandError (StateM σ) String := do
  let answer ← command.answer backend
  pure (answer.inForm form)

end Command

end TypedTables
