import TypedTables.Proofs.RoundTrip
import TypedTables.Proofs.Sql.Template

/-!
# Statements are read as their templates

Every statement that is compiled for a schema has a template: its words and signs, with each name as one lexeme, each
constant as one lexeme that says the stored value, and the columns in the order of the schema. The text of the statement
is read as its template whatever the names and values hold, so none of them ends early or reaches beyond its place
(`lexemes_compiled`). -/

namespace TypedTables

open Sql (Lexeme lexemes Apart)

/-! ### Templates -/

namespace Template

def words (ws : List String) : List Lexeme := ws.map .word

def insert (table : String) (labels : List String) : List Lexeme :=
  words ["INSERT", "INTO"] ++ [.name table] ++ parens (commas (labels.map fun label => [.name label])) ++
    words ["VALUES"] ++ parens (commas (labels.map fun _ => [.hole]))

def update (table : String) (labels : List String) (key : String) : List Lexeme :=
  words ["UPDATE"] ++ [.name table] ++ words ["SET"] ++
    commas (labels.map fun label => [.name label, .sign "=", .hole]) ++
    words ["WHERE"] ++ column (some table) key ++ [.sign "=", .hole]

def condition (table : String) : Option Filter → List Lexeme
  | some f => words ["WHERE"] ++ filter .bound (some table) f
  | none => []

def select (table : String) (labels : List String) (filter : Option Filter) (order : Option SortBy)
    (limited : Bool) : List Lexeme :=
  words ["SELECT"] ++ columns (some table) labels ++ (words ["FROM"] ++ [.name table]) ++ condition table filter ++
    (order.elim [] fun s => words ["ORDER", "BY"] ++ ordering s) ++ if limited then words ["LIMIT"] ++ [.hole] else []

def delete (table : String) (filter : Option Filter) : List Lexeme :=
  words ["DELETE", "FROM"] ++ [.name table] ++ condition table filter

def copy (source target : String) (labels : List String) : List Lexeme :=
  words ["INSERT", "INTO"] ++ [.name target] ++ parens (columns none labels) ++ words ["SELECT"] ++
    columns (some source) labels ++ words ["FROM"] ++ [.name source]

def rename (source target : String) : List Lexeme :=
  words ["ALTER", "TABLE"] ++ [.name source] ++ words ["RENAME", "TO"] ++ [.name target]

def drop (table : String) : List Lexeme := words ["DROP", "TABLE"] ++ [.name table]

def create {κ ρ : Type} [Kinds κ] (schema : Schema κ ρ) (table : String) : List Lexeme :=
  words ["CREATE", "TABLE"] ++ [.name table] ++ parens (commas (definitions schema))

/-- The terms of an index: filters with their values inline, then orderings, then columns. -/
def terms (index : Index) : List (List Lexeme) :=
  index.filters.map (filter .inline none) ++ index.orderings.map ordering ++
    index.fields.map fun field => [.name field.label]

def createIndex (table : String) (index : Index) : List Lexeme :=
  words ["CREATE", "INDEX"] ++ [.name (Naming.index table index.name)] ++ words ["ON"] ++ [.name table] ++
    parens (commas (terms index))

def dropIndex (table : String) (index : Index) : List Lexeme :=
  words ["DROP", "INDEX", "IF", "EXISTS"] ++ [.name (Naming.index table index.name)]

end Template

/-! ### Fragments -/

namespace Fragment

/-- A name between words. -/
theorem isPhrase_named (before after : List String) (name : String) (hb : before.all Sql.isCapitals)
    (ha : after.all Sql.isCapitals) :
    IsPhrase
      [.fixed (String.join (before.map (· ++ " "))), .name name, .fixed (" " ++ String.join (after.map (· ++ " ")))]
      (Template.words before ++ [.name name] ++ Template.words after) :=
  ((isPhrase_words before hb).then (spells_name name)).then (isPhrase_words' after ha) (gapped_blank _ [])

/-- A name behind words. -/
theorem spells_named (before : List String) (name : String) (hb : before.all Sql.isCapitals) :
    Spells [.fixed (String.join (before.map (· ++ " "))), .name name] (Template.words before ++ [.name name]) :=
  (isPhrase_words before hb).then (spells_name name)

theorem spells_columns (table : Option String) (labels : List String) :
    Spells (columns table labels) (Template.columns table labels) :=
  spells_joined isPhrase_comma rfl (forall₂_map fun label _ => spells_column table label)

theorem spells_condition (table : String) {filter : Option Filter} {condition : Option Predicate}
    (h : Schema.condition filter = .ok condition) :
    Spells (Predicate.whereClause table condition) (Template.condition table filter) ∧
      Apart (text (Predicate.whereClause table condition)).toList := by
  cases filter with
  | none =>
    cases h
    exact ⟨isPhrase_nil.spells, Sql.apart_nil⟩
  | some f =>
    obtain ⟨p, hp, rfl⟩ := eq_ok_of_map h
    have predicate := spells_predicate .bound (some table) hp fun inline => nomatch inline
    exact ⟨(isPhrase_words' ["WHERE"] rfl).then predicate, (gapped_fixed rfl _).apart⟩

theorem spells_insert (table : String) (cells : List Assignment) :
    Spells (Statement.insert table cells).fragment (Template.insert table (cells.map Assignment.label)) := by
  have head := isPhrase_named ["INSERT", "INTO"] [] table rfl rfl
  have labels : IsPhrase (tuple (cells.map fun c => [.name c.label])) (Template.parens
      (Template.commas ((cells.map Assignment.label).map fun label => [.name label]))) := by
    rw [List.map_map]
    exact isPhrase_tuple (forall₂_map fun c _ => spells_name c.label)
  have values := isPhrase_words' ["VALUES"] rfl
  have holes : IsPhrase (tuple (cells.map fun c => [.hole c.operand])) (Template.parens
      (Template.commas ((cells.map Assignment.label).map fun _ => [.hole]))) := by
    rw [List.map_map]
    exact isPhrase_tuple (forall₂_map fun c _ => spells_hole c.operand)
  exact (((head.append labels).append values).append holes).spells

theorem spells_update (table : String) (cells : List Assignment) (key : Assignment) :
    Spells (Statement.update table cells key).fragment
      (Template.update table (cells.map Assignment.label) key.label) := by
  have equals := isPhrase_symbol .equal
  have equal (c : Assignment) (f : Fragment) : Gapped (.fixed " = " :: f) := gapped_fixed rfl f
  have head := isPhrase_named ["UPDATE"] ["SET"] table rfl rfl
  have cell (c : Assignment) :
      Spells [.name c.label, .fixed " = ", .hole c.operand] [.name c.label, .sign "=", .hole] :=
    (spells_name c.label).append (equals.then (spells_hole c.operand)) (equal c _).apart
  have cells' : Spells (joined ", " (cells.map fun c => [.name c.label, .fixed " = ", .hole c.operand]))
      (Template.commas ((cells.map Assignment.label).map fun label => [.name label, .sign "=", .hole])) := by
    rw [List.map_map]
    exact spells_joined isPhrase_comma rfl (forall₂_map fun c _ => cell c)
  have condition := isPhrase_words' ["WHERE"] rfl
  have column := spells_column (some table) key.label
  have operand := equals.then (spells_hole key.operand)
  exact ((((head.then cells').then condition (gapped_fixed rfl _)).then column).append operand (equal key _).apart)

theorem spells_delete (table : String) {filter : Option Filter} {condition : Option Predicate}
    (h : Schema.condition filter = .ok condition) :
    Spells (Statement.delete table condition).fragment (Template.delete table filter) := by
  obtain ⟨condition, apart⟩ := spells_condition table h
  exact (spells_named ["DELETE", "FROM"] table rfl).append condition apart

theorem spells_order (order : Option SortBy) :
    Spells (match order with
      | some order => .fixed " ORDER BY " :: order.fragment
      | none => []) (order.elim [] fun s => Template.words ["ORDER", "BY"] ++ Template.ordering s) ∧
      Apart (text (match order with
        | some order => .fixed " ORDER BY " :: order.fragment
        | none => [])).toList := by
  cases order with
  | none => exact ⟨isPhrase_nil.spells, Sql.apart_nil⟩
  | some s =>
    exact ⟨(isPhrase_words' ["ORDER", "BY"] rfl).then (spells_ordering s), (gapped_fixed rfl _).apart⟩

theorem spells_limit (limit : Option Binding) :
    Spells (match limit with
      | some count => [.fixed " LIMIT ", .hole count]
      | none => []) (if limit.isSome then Template.words ["LIMIT"] ++ [.hole] else []) ∧
      Apart (text (match limit with
        | some count => [.fixed " LIMIT ", .hole count]
        | none => [])).toList := by
  cases limit with
  | none => exact ⟨isPhrase_nil.spells, Sql.apart_nil⟩
  | some count =>
    exact ⟨(isPhrase_words' ["LIMIT"] rfl).then (spells_hole count), (gapped_fixed rfl _).apart⟩

theorem spells_select (table : String) (labels : List String) {filter : Option Filter} {condition : Option Predicate}
    (order : Option SortBy) (limit : Option Binding) (h : Schema.condition filter = .ok condition) :
    Spells (Statement.select ⟨table, labels, condition, order, limit⟩).fragment
      (Template.select table labels filter order limit.isSome) := by
  have columns := (isPhrase_words ["SELECT"] rfl).then (spells_columns (some table) labels)
  have source := (isPhrase_words' ["FROM"] rfl).then (spells_name table)
  obtain ⟨condition, conditionApart⟩ := spells_condition table h
  obtain ⟨order, orderApart⟩ := spells_order order
  obtain ⟨limit, limitApart⟩ := spells_limit limit
  exact (((columns.append source (gapped_fixed rfl _).apart).append condition conditionApart).append order
    orderApart).append limit limitApart

theorem spells_copy (source target : String) (labels : List String) :
    Spells (Statement.copy source target labels).fragment (Template.copy source target labels) := by
  have target := spells_named ["INSERT", "INTO"] target rfl
  have opened : IsPhrase [.fixed " ("] [.sign "("] := (isPhrase_blank.append isPhrase_open).of_text_eq rfl
  have closed : IsPhrase [.fixed ") SELECT "] [.sign ")", .word "SELECT"] :=
    (isPhrase_close.append (isPhrase_words' ["SELECT"] rfl)).of_text_eq rfl
  have listed := (target.then opened (gapped_fixed rfl _)).then (spells_columns none labels)
  have chosen := (listed.then closed (gapped_fixed rfl _)).then (spells_columns (some source) labels)
  have origin := (isPhrase_words' ["FROM"] rfl).then (spells_name source)
  simpa [Template.copy, Template.words, Template.parens, Statement.fragment] using
    chosen.append origin (gapped_fixed rfl _).apart

theorem spells_filters {filters : List Filter} {predicates : List Predicate}
    (h : filters.mapM Filter.predicate = .ok predicates)
    (held : ∀ f ∈ filters, ∀ c ∈ f.atoms, c.column.root.Holds c.value) :
    List.Forall₂ Spells (predicates.map fun p => (Predicate.fragment none p).inline)
      (filters.map (Template.filter .inline none)) := by
  induction filters generalizing predicates with
  | nil =>
    cases h
    exact .nil
  | cons f filters ih =>
    rw [List.mapM_cons] at h
    obtain ⟨p, hp, h⟩ := eq_ok_of_bind h
    obtain ⟨others, ho, h⟩ := eq_ok_of_bind h
    cases h
    have first := spells_predicate .inline none hp fun _ => held f List.mem_cons_self
    exact .cons first (ih ho fun g hg => held g (List.mem_cons_of_mem _ hg))

theorem spells_terms {index : Index} {terms : IndexTerms} (h : index.terms = .ok terms)
    (held : ∀ f ∈ index.filters, ∀ c ∈ f.atoms, c.column.root.Holds c.value) :
    List.Forall₂ Spells terms.fragments (Template.terms index) := by
  obtain ⟨predicates, checked, h⟩ := eq_ok_of_bind h
  cases h
  have filters := spells_filters checked held
  have orderings := forall₂_map fun s (_ : s ∈ index.orderings) => spells_ordering s
  have fields : List.Forall₂ Spells ((index.fields.map ColumnRef.label).map (column none))
      (index.fields.map fun field => [.name field.label]) := by
    rw [List.map_map]
    exact forall₂_map fun field _ => spells_column none field.label
  exact List.rel_append (List.rel_append filters orderings) fields

theorem spells_createIndex (table : String) {index : Index} {terms : IndexTerms} (h : index.terms = .ok terms)
    (held : ∀ f ∈ index.filters, ∀ c ∈ f.atoms, c.column.root.Holds c.value) :
    Spells (Statement.createIndex (Naming.index table index.name) table terms).fragment
      (Template.createIndex table index) := by
  have name := isPhrase_named ["CREATE", "INDEX"] ["ON"] (Naming.index table index.name) rfl rfl
  have table := (spells_name table).then isPhrase_blank (gapped_fixed rfl [])
  have terms := isPhrase_tuple (spells_terms h held)
  have whole := ((name.append table).append terms).spells
  simpa [Template.createIndex, Template.parens, Template.commas, Statement.fragment] using whole

theorem spells_create {κ ρ : Type} [Kinds κ] (schema : Schema κ ρ) (table : String) :
    Spells (schema.create table).fragment (Template.create schema table) := by
  have head := isPhrase_named ["CREATE", "TABLE"] [] table rfl rfl
  have columns : List.Forall₂ Spells (schema.definitions.map ColumnDef.fragment) (Template.definitions schema) := by
    rw [Schema.definitions, Template.definitions, List.map_cons, List.map_map]
    exact .cons (spells_definition true schema.key) (forall₂_map fun column _ => spells_definition false column)
  exact (head.append (isPhrase_tuple columns)).spells

theorem spells_rename (source target : String) :
    Spells (Statement.rename source target).fragment (Template.rename source target) :=
  (isPhrase_named ["ALTER", "TABLE"] ["RENAME", "TO"] source rfl rfl).then (spells_name target)

theorem spells_drop (table : String) : Spells (Statement.dropTable table).fragment (Template.drop table) :=
  spells_named ["DROP", "TABLE"] table rfl

theorem spells_dropIndex (table : String) (index : Index) :
    Spells (index.drop table).fragment (Template.dropIndex table index) :=
  spells_named ["DROP", "INDEX", "IF", "EXISTS"] (Naming.index table index.name) rfl

end Fragment

/-! ### Compilations -/

/-- What a statement is compiled for. -/
inductive Compilation (ρ : Type) where
  | create (table : String)
  | insert (table : String) (row : ρ)
  | update (table : String) (row : ρ)
  | select (table : String) (filter : Option Filter) (order : Option SortBy) (limit : Option Nat)
  | delete (table : String) (filter : Option Filter)
  | copy (source target : String) (labels : List String)
  | rename (source target : String)
  | drop (table : String)
  | index (table : String) (index : Index)
  | dropIndex (table : String) (index : Index)

/-- The value is one that a field of the column's type stores. -/
def Comparison.IsTyped (c : Comparison) : Prop :=
  ∃ (α : Type) (type : FieldType α) (a : α), type.root = c.column.root ∧ type.encode a = c.value

namespace Compilation

variable {κ ρ : Type} [Kinds κ]

def statement (schema : Schema κ ρ) : Compilation ρ → Except Error Statement
  | create table => .ok (schema.create table)
  | insert table row => .ok (schema.insert table row)
  | update table row => .ok (schema.update table row)
  | select table filter order limit => schema.select table filter order limit
  | delete table filter => Filter.delete table filter
  | copy source target labels => .ok (.copy source target labels)
  | rename source target => .ok (.rename source target)
  | drop table => .ok (.dropTable table)
  | index table i => i.create table
  | dropIndex table i => .ok (i.drop table)

def template (schema : Schema κ ρ) : Compilation ρ → List Lexeme
  | create table => Template.create schema table
  | insert table _ => Template.insert table schema.labels
  | update table _ => Template.update table schema.labels schema.key.label
  | select table filter order limit => Template.select table schema.labels filter order limit.isSome
  | delete table filter => Template.delete table filter
  | copy source target labels => Template.copy source target labels
  | rename source target => Template.rename source target
  | drop table => Template.drop table
  | index table i => Template.createIndex table i
  | dropIndex table i => Template.dropIndex table i

/-- The comparisons have operators, and those that are written inline compare with values of their columns' types. -/
def Supported : Compilation ρ → Prop
  | select _ filter _ _ => ∀ f ∈ filter, f.Supported
  | delete _ filter => ∀ f ∈ filter, f.Supported
  | index _ i => ∀ f ∈ i.filters, f.Supported ∧ ∀ c ∈ f.atoms, c.IsTyped
  | _ => True

theorem exists_terms {index : Index} (h : ∀ f ∈ index.filters, f.Supported) : ∃ terms, index.terms = .ok terms := by
  rcases ht : index.terms with e | terms
  · rcases eq_error_of_bind ht with failed | ⟨_, -, ht⟩
    · obtain ⟨f, hf, failed⟩ := eq_error_of_mapM failed
      obtain ⟨p, hp⟩ := Filter.exists_predicate (h f hf)
      cases failed.symm.trans hp
    · cases ht
  · exact ⟨terms, rfl⟩

/-- A statement is compiled, and its text is read as its template. -/
theorem lexemes_compiled (schema : Schema κ ρ) (compilation : Compilation ρ) (supported : compilation.Supported) :
    ∃ statement, compilation.statement schema = .ok statement ∧
      lexemes statement.text.toList = compilation.template schema := by
  have labels (row : ρ) : (schema.columns.map (Column.assignment row)).map Assignment.label = schema.labels := by
    rw [List.map_map]
    rfl
  cases compilation with
  | create table => exact ⟨_, rfl, (Fragment.spells_create schema table).lexemes_eq⟩
  | insert table row =>
    have spelled := Fragment.spells_insert table (schema.columns.map (Column.assignment row))
    rw [labels] at spelled
    exact ⟨_, rfl, spelled.lexemes_eq⟩
  | update table row =>
    have spelled := Fragment.spells_update table (schema.columns.map (Column.assignment row))
      (schema.key.assignment row)
    rw [labels] at spelled
    exact ⟨_, rfl, spelled.lexemes_eq⟩
  | select table filter order limit =>
    obtain ⟨condition, checked⟩ := Schema.exists_condition supported
    have spelled := Fragment.spells_select table schema.labels order (limit.map Schema.limitBinding) checked
    rw [Option.isSome_map] at spelled
    exact ⟨_, congrArg (Except.map _) checked, spelled.lexemes_eq⟩
  | delete table filter =>
    obtain ⟨condition, checked⟩ := Schema.exists_condition supported
    exact ⟨_, congrArg (Except.map _) checked, (Fragment.spells_delete table checked).lexemes_eq⟩
  | copy source target labels => exact ⟨_, rfl, (Fragment.spells_copy source target labels).lexemes_eq⟩
  | rename source target => exact ⟨_, rfl, (Fragment.spells_rename source target).lexemes_eq⟩
  | drop table => exact ⟨_, rfl, (Fragment.spells_drop table).lexemes_eq⟩
  | index table i =>
    obtain ⟨terms, checked⟩ := exists_terms fun f hf => (supported f hf).1
    have held : ∀ f ∈ i.filters, ∀ c ∈ f.atoms, c.column.root.Holds c.value := by
      intro f hf c hc
      obtain ⟨α, type, a, root, value⟩ := (supported f hf).2 c hc
      rw [← root, ← value]
      exact type.holds_encode a
    exact ⟨_, congrArg (Except.map _) checked, (Fragment.spells_createIndex table checked held).lexemes_eq⟩
  | dropIndex table i => exact ⟨_, rfl, (Fragment.spells_dropIndex table i).lexemes_eq⟩

/-- An index on columns whose names look like other parts of a statement. -/
def oddIndex : Index where
  name := "x\") --"
  filters := [.not (.all [.atom ⟨⟨"a\" = ? AND \"b", .text⟩, .equal, .text "it's"⟩, .any []])]
  orderings := [⟨⟨", ", .int⟩, .descending⟩]
  fields := [⟨"", .int⟩]

theorem lexemes_oddIndex :
    (index "t'\"" oddIndex : Compilation Book).Supported ∧
      ∃ s, statement books (index "t'\"" oddIndex) = .ok s ∧
        lexemes s.text.toList =
          [.word "CREATE", .word "INDEX", .name "t'\":indexes:x\") --", .word "ON", .name "t'\"", .sign "(",
            .word "NOT", .sign "(", .sign "(", .name "a\" = ? AND \"b", .sign "=", .text "it's", .word "AND", .sign "(",
            .number "1", .sign "=", .number "0", .sign ")", .sign ")", .sign ")", .sign ",", .name ", ", .word "DESC",
            .sign ",", .name "", .sign ")"] := by
  have supported : (index "t'\"" oddIndex : Compilation Book).Supported := by
    intro f hf
    obtain rfl := List.mem_singleton.mp hf
    refine ⟨fun c hc => ?_, fun c hc => ?_⟩
    all_goals obtain rfl := List.mem_singleton.mp hc
    · rfl
    · exact ⟨String, .text, "it's", rfl, rfl⟩
  exact ⟨supported, lexemes_compiled books (index "t'\"" oddIndex) supported⟩

end Compilation

end TypedTables
