import TypedTables.Naming
import TypedTables.Sql.Statement

/-!
# Indexes

An index has a name and terms of three kinds: constant filters, orderings and plain fields. One built from lists has
at least one term; one built from a single term has that one; and terms are only ever added. -/

namespace TypedTables

/-- An index of a table. -/
structure Index where
  name : String
  filters : List Filter
  orderings : List SortBy
  fields : List ColumnRef

namespace Index

/-- An index of the given terms; it needs one. -/
def ofTerms (name : String) (filters : List Filter) (orderings : List SortBy) (fields : List ColumnRef) :
    Except Error Index :=
  if filters.isEmpty && orderings.isEmpty && fields.isEmpty then .error (.emptyIndex name)
  else .ok ⟨name, filters, orderings, fields⟩

def onField (name : String) (field : ColumnRef) : Index := ⟨name, [], [], [field]⟩
def onFilter (name : String) (filter : Filter) : Index := ⟨name, [filter], [], []⟩
def onOrdering (name : String) (ordering : SortBy) : Index := ⟨name, [], [ordering], []⟩

/-- The index with one more field. -/
def withField (index : Index) (field : ColumnRef) : Index := { index with fields := index.fields ++ [field] }

/-- The index with one more filter. -/
def withFilter (index : Index) (filter : Filter) : Index := { index with filters := index.filters ++ [filter] }

/-- The index with one more ordering. -/
def withOrdering (index : Index) (ordering : SortBy) : Index :=
  { index with orderings := index.orderings ++ [ordering] }

/-- The terms as a statement lists them, or the failure of the first filter that has no predicate. -/
def terms (index : Index) : Except Error IndexTerms := do
  let filters ← index.filters.mapM Filter.predicate
  pure ⟨filters, index.orderings, index.fields.map ColumnRef.label⟩

/-- The terms cannot be listed only because of the flags of a comparison. -/
theorem terms_eq_error {index : Index} {e : Error} (h : index.terms = .error e) :
    ∃ f ∈ index.filters, ∃ c ∈ f.atoms, e = .unsupportedOperator c.operator.flags := by
  rcases eq_error_of_bind h with failed | ⟨_, -, h⟩
  · obtain ⟨f, hf, failed⟩ := eq_error_of_mapM failed
    exact ⟨f, hf, Filter.predicate_eq_error failed⟩
  · cases h

/-- The statement that builds the index on a table. -/
def create (index : Index) (table : String) : Except Error Statement :=
  index.terms.map (Statement.createIndex (Naming.index table index.name) table)

/-- The statement that removes the index of a table, wherever it sits. -/
def drop (index : Index) (table : String) : Statement := .dropIndex (Naming.index table index.name)

/-- An index in one line. -/
def outline (index : Index) : String :=
  Text.recordOutline "Index"
    [("name", Text.shown index.name),
      ("filters", Text.listOutline (index.filters.map Filter.outline)),
      ("ordering", Text.listOutline (index.orderings.map SortBy.outline)),
      ("fields", Text.listOutline (index.fields.map fun c => Text.shown c.label))]

end Index

end TypedTables
