import TypedTables.Proofs.Sql.Compilation
import TypedTables.Proofs.Sql.Condition

/-!
# What statements ask for

A reader of the statements that change and ask for rows, from their text with the values in their places. What is
compiled for a row, a filter or a limit is read as what it is meant to ask for: each column stands beside its own value,
and the key of an update beside the value of the key. -/

namespace TypedTables

open Sql (Lexeme lexemes Symbol Filled Condition Clause fill)

/-- What a statement asks to be changed. -/
inductive Change where
  | insert (table : String) (labels : List String) (values : List Binding)
  | update (table : String) (cells : List (String × Binding)) (condition : Option Condition)
  | delete (table : String) (condition : Option Condition)

/-- The rows that a statement asks for. -/
structure Inquiry where
  columns : List (Option String × String)
  source : String
  condition : Option Condition
  limit : Option Binding

/-! ### Reading -/

namespace Sql.Symbol

def comma : Symbol := .lexeme (.sign ",")

def commas (parts : List (List Symbol)) : List Symbol := [comma].intercalate parts

def parens (ss : List Symbol) : List Symbol := .lexeme (.sign "(") :: ss ++ [.lexeme (.sign ")")]

/-- What stands before the first symbol that is a certain word, and the rest from there on. -/
def cut (word : String) (ss : List Symbol) : List Symbol × List Symbol :=
  (ss.takeWhile (· ≠ .lexeme (.word word)), ss.dropWhile (· ≠ .lexeme (.word word)))

/-- Items with commas between them. -/
def listed? {α : Type} (item? : List Symbol → Option α) (ss : List Symbol) : Option (List α) :=
  if ss.isEmpty then some [] else (ss.splitOn comma).mapM item?

/-- What stands between a parenthesis in front and one at the end. -/
def inside? : List Symbol → Option (List Symbol)
  | .lexeme (.sign "(") :: ss => if ss.getLast? = some (.lexeme (.sign ")")) then some ss.dropLast else none
  | _ => none

def label? : List Symbol → Option String
  | [.lexeme (.name label)] => some label
  | _ => none

def value? : List Symbol → Option Binding
  | [.value b] => some b
  | _ => none

def cell? : List Symbol → Option (String × Binding)
  | [.lexeme (.name label), .lexeme (.sign "="), .value b] => some (label, b)
  | _ => none

def column? : List Symbol → Option (Option String × String)
  | [.lexeme (.name label)] => some (none, label)
  | [.lexeme (.name table), .lexeme (.sign "."), .lexeme (.name label)] => some (some table, label)
  | _ => none

/-- The condition of a statement, which may have none. -/
def condition? : List Symbol → Option (Option Condition)
  | [] => some none
  | .lexeme (.word "WHERE") :: ss => (Condition.ofSymbols? ss).map some
  | _ => none

/-- The limit at the end of a statement, if there is one, and what stands before it. -/
def limited (ss : List Symbol) : List Symbol × Option Binding :=
  match ss.reverse with
  | .value b :: .lexeme (.word "LIMIT") :: before => (before.reverse, some b)
  | _ => (ss, none)

end Sql.Symbol

namespace Change

open Sql.Symbol

/-- The insertion into a table that is asked for behind the table's name. -/
def insertion? (table : String) (ss : List Symbol) : Option Change := do
  let labels ← (inside? (cut "VALUES" ss).1).bind (listed? label?)
  let values ← (inside? ((cut "VALUES" ss).2.drop 1)).bind (listed? value?)
  pure (.insert table labels values)

/-- The update of a table that is asked for behind the word for it. -/
def alteration? (table : String) (ss : List Symbol) : Option Change := do
  let cells ← listed? cell? (cut "WHERE" ss).1
  let condition ← condition? (cut "WHERE" ss).2
  pure (.update table cells condition)

def ofSymbols? : List Symbol → Option Change
  | .lexeme (.word "INSERT") :: .lexeme (.word "INTO") :: .lexeme (.name table) :: ss => insertion? table ss
  | .lexeme (.word "UPDATE") :: .lexeme (.name table) :: .lexeme (.word "SET") :: ss => alteration? table ss
  | .lexeme (.word "DELETE") :: .lexeme (.word "FROM") :: .lexeme (.name table) :: ss =>
    (condition? ss).map (.delete table)
  | _ => none

/-- The change that a text with its values asks for. -/
def read? (compiled : Compiled) : Option Change :=
  (fill (lexemes compiled.text.toList) compiled.bindings).bind ofSymbols?

end Change

namespace Inquiry

open Sql.Symbol

/-- The columns that are asked for, and what is asked of the rows behind the name of their table. -/
def ofParts? (columns : List Symbol) : List Symbol → Option Inquiry
  | .lexeme (.word "FROM") :: .lexeme (.name source) :: rest => do
    let columns ← listed? column? columns
    let condition ← condition? (limited rest).1
    pure ⟨columns, source, condition, (limited rest).2⟩
  | _ => none

def ofSymbols? : List Symbol → Option Inquiry
  | .lexeme (.word "SELECT") :: ss => ofParts? (cut "FROM" ss).1 (cut "FROM" ss).2
  | _ => none

/-- The rows that a text with its values asks for. -/
def read? (compiled : Compiled) : Option Inquiry :=
  (fill (lexemes compiled.text.toList) compiled.bindings).bind ofSymbols?

end Inquiry

/-! ### Reading what is written -/

namespace Sql

open TypedTables.Sql.Symbol

theorem Filled.commas {α : Type} {written : α → List Lexeme} {values : α → List Binding} {symbols : α → List Symbol}
    {members : List α} (each : ∀ m ∈ members, Filled (written m) (values m) (symbols m)) :
    Filled (Template.commas (members.map written)) (members.map values).flatten (commas (members.map symbols)) := by
  induction members with
  | nil => exact .nil
  | cons m members ih =>
    have first := each m List.mem_cons_self
    cases members with
    | nil => simpa [Template.commas, Symbol.commas, List.intercalate_singleton] using first
    | cons m' members =>
      have others := ih fun n hn => each n (List.mem_cons_of_mem _ hn)
      have separator : Filled [.sign ","] [] [comma] := .sign "," .nil
      simpa [Template.commas, Symbol.commas, List.intercalate_cons_cons] using (first.append separator).append others

theorem Filled.parens {ls : List Lexeme} {bs : List Binding} {ss : List Symbol} (h : Filled ls bs ss) :
    Filled (Template.parens ls) bs (parens ss) := by
  have closing : Filled [.sign ")"] [] [.lexeme (.sign ")")] := .sign ")" .nil
  simpa [Template.parens, Symbol.parens] using (h.append closing).sign "("

namespace Symbol

theorem inside?_parens (ss : List Symbol) : inside? (parens ss) = some ss := by simp [inside?, parens]

/-- No word is among the symbols. -/
def Wordless (ss : List Symbol) : Prop := ∀ s ∈ ss, ∀ word, s ≠ .lexeme (.word word)

theorem Wordless.commas {parts : List (List Symbol)} (each : ∀ part ∈ parts, Wordless part) :
    Wordless (commas parts) := by
  intro s hs
  rcases Fragment.mem_intercalate hs with between | ⟨part, hp, found⟩
  · rw [List.mem_singleton.mp between]
    simp [comma]
  · exact each part hp s found

theorem Wordless.parens {ss : List Symbol} (h : Wordless ss) : Wordless (parens ss) := by
  intro s hs
  rw [Symbol.parens, List.cons_append, List.mem_cons, List.mem_append, List.mem_singleton] at hs
  rcases hs with rfl | hs | rfl
  · simp
  · exact h s hs
  · simp

/-- What stands before a word is cut off at the word. -/
theorem Wordless.cut_append {before : List Symbol} (h : Wordless before) (word : String) (rest : List Symbol) :
    cut word (before ++ .lexeme (.word word) :: rest) = (before, .lexeme (.word word) :: rest) := by
  have other : ∀ s ∈ before, (decide (s ≠ Symbol.lexeme (.word word))) = true :=
    fun s hs => decide_eq_true (h s hs word)
  rw [cut, List.takeWhile_append_of_pos other, List.dropWhile_append_of_pos other]
  simp

/-! ### Items of lists -/

/-- Symbols are an item of a list: its lexemes with the values in the places. They are read as it, and neither a comma
    nor a word is among them. -/
structure IsItem {β : Type} (item? : List Symbol → Option β) (ls : List Lexeme) (bs : List Binding) (ss : List Symbol)
    (b : β) : Prop where
  filled : Filled ls bs ss
  read : item? ss = some b
  nonempty : ss ≠ []
  plain : comma ∉ ss
  wordless : Wordless ss

theorem isItem_label (label : String) : IsItem label? [.name label] [] [.lexeme (.name label)] label where
  filled := .name label .nil
  read := rfl
  nonempty := List.cons_ne_nil _ _
  plain := by simp [comma]
  wordless := by simp [Wordless]

theorem isItem_value (b : Binding) : IsItem value? [.hole] [b] [.value b] b where
  filled := .hole b .nil
  read := rfl
  nonempty := List.cons_ne_nil _ _
  plain := by simp [comma]
  wordless := by simp [Wordless]

theorem isItem_cell (label : String) (b : Binding) : IsItem cell? [.name label, .sign "=", .hole] [b]
    [.lexeme (.name label), .lexeme (.sign "="), .value b] (label, b) where
  filled := .name label (.sign "=" (.hole b .nil))
  read := rfl
  nonempty := List.cons_ne_nil _ _
  plain := by simp [comma]
  wordless := by simp [Wordless]

theorem isItem_column (table label : String) : IsItem column? (Template.column (some table) label) []
    [.lexeme (.name table), .lexeme (.sign "."), .lexeme (.name label)] (some table, label) where
  filled := .name table (.sign "." (.name label .nil))
  read := rfl
  nonempty := List.cons_ne_nil _ _
  plain := by simp [comma]
  wordless := by simp [Wordless]

theorem mapM_map {α β : Type} {item? : List Symbol → Option β} {symbols : α → List Symbol} {item : α → β}
    {members : List α} (read : ∀ m ∈ members, item? (symbols m) = some (item m)) :
    (members.map symbols).mapM item? = some (members.map item) := by
  induction members with
  | nil => rfl
  | cons m members ih =>
    rw [List.map_cons, List.mapM_cons, read m List.mem_cons_self, ih fun n hn => read n (List.mem_cons_of_mem _ hn)]
    rfl

/-- Items with commas between them are read as a list of what each is read as. -/
theorem exists_items {α β : Type} {item? : List Symbol → Option β} {written : α → List Lexeme}
    {values : α → List Binding} {symbols : α → List Symbol} {item : α → β}
    (each : ∀ m, IsItem item? (written m) (values m) (symbols m) (item m)) (members : List α) :
    ∃ ss, Filled (Template.commas (members.map written)) (members.map values).flatten ss ∧
      listed? item? ss = some (members.map item) ∧ Wordless ss := by
  have filled := Filled.commas fun m (_ : m ∈ members) => (each m).filled
  have wordless : Wordless (commas (members.map symbols)) := by
    refine Wordless.commas fun part hp => ?_
    obtain ⟨m, -, rfl⟩ := List.mem_map.mp hp
    exact (each m).wordless
  refine ⟨_, filled, ?_, wordless⟩
  cases members with
  | nil => rfl
  | cons m members =>
    have apart : ∀ part ∈ (m :: members).map symbols, comma ∉ part := by
      intro part hp
      obtain ⟨n, -, rfl⟩ := List.mem_map.mp hp
      exact (each n).plain
    have split : (commas ((m :: members).map symbols)).splitOn comma = (m :: members).map symbols :=
      List.splitOn_intercalate comma apart (List.cons_ne_nil _ _)
    have nonempty : (commas ((m :: members).map symbols)).isEmpty = false := by
      have first := (each m).nonempty
      cases members with
      | nil => simpa [commas, List.intercalate_singleton] using first
      | cons m' members => simp [commas, List.intercalate_cons_cons]
    rw [listed?, nonempty, split]
    exact mapM_map fun n _ => (each n).read

theorem limited_append (ss : List Symbol) (b : Binding) :
    limited (ss ++ [.lexeme (.word "LIMIT"), .value b]) = (ss, some b) := by
  simp [limited]

end Symbol

end Sql

open Sql Sql.Symbol

/-! ### Statements -/

namespace Statement

theorem flatten_singletons {α β : Type} (members : List α) (f : α → β) :
    (members.map fun m => [f m]).flatten = members.map f := by
  rw [← List.flatMap_def, ← List.map_eq_flatMap]

theorem flatten_nils {α β : Type} (members : List α) : (members.map fun _ => ([] : List β)).flatten = [] := by simp

theorem bindings_tuple (parts : List Fragment) :
    Fragment.bindings (Fragment.tuple parts) = (parts.map Fragment.bindings).flatten := by
  rw [Fragment.tuple, Fragment.bindings_append, Fragment.bindings_append, Fragment.bindings_joined]
  exact List.append_nil _

theorem fill_compiled {s : Statement} {ls : List Lexeme} {ss : List Symbol} (spelled : Fragment.Spells s.fragment ls)
    (filled : Filled ls s.bindings ss) : fill (lexemes s.compiled.text.toList) s.compiled.bindings = some ss := by
  have text : lexemes s.compiled.text.toList = ls := spelled.lexemes_eq
  rw [text]
  exact filled.fill_eq

theorem bindings_insert (table : String) (cells : List Assignment) :
    (Statement.insert table cells).bindings = cells.map Assignment.operand := by
  have names : ((cells.map fun c => [Piece.name c.label]).map Fragment.bindings).flatten = [] := by
    simp [Fragment.bindings, Piece.binding?]
  have holes : ((cells.map fun c => [Piece.hole c.operand]).map Fragment.bindings).flatten =
      cells.map Assignment.operand := by
    rw [List.map_map]
    exact flatten_singletons cells _
  rw [bindings, fragment, Fragment.bindings_append, Fragment.bindings_append, Fragment.bindings_append, bindings_tuple,
    bindings_tuple, names, holes]
  rfl

theorem bindings_update (table : String) (cells : List Assignment) (key : Assignment) :
    (Statement.update table cells key).bindings = cells.map Assignment.operand ++ [key.operand] := by
  have holes : ((cells.map fun c => [Piece.name c.label, .fixed " = ", .hole c.operand]).map
      Fragment.bindings).flatten = cells.map Assignment.operand := by
    rw [List.map_map]
    exact flatten_singletons cells _
  simp only [bindings, fragment, Fragment.bindings_append, Fragment.bindings_joined, Fragment.bindings_column, holes,
    List.append_assoc]
  rfl

theorem bindings_whereClause (table : String) {filter : Option Filter} {condition : Option Predicate}
    (h : Schema.condition filter = .ok condition) :
    Fragment.bindings (Predicate.whereClause table condition) = filter.elim [] Filter.values := by
  cases filter with
  | none =>
    cases h
    rfl
  | some f =>
    obtain ⟨p, hp, rfl⟩ := eq_ok_of_map h
    exact Filter.bindings_predicate (some table) hp

theorem bindings_select (table : String) (labels : List String) {filter : Option Filter} {condition : Option Predicate}
    (order : Option SortBy) (limit : Option Binding) (h : Schema.condition filter = .ok condition) :
    (Statement.select ⟨table, labels, condition, order, limit⟩).bindings =
      filter.elim [] Filter.values ++ limit.toList := by
  have columns : Fragment.bindings (Fragment.columns (some table) labels) = [] := by
    simp [Fragment.columns, Fragment.bindings_joined, Fragment.bindings_column]
  have head : Fragment.bindings [.fixed "SELECT "] = [] := rfl
  have source : Fragment.bindings [.fixed " FROM ", .name table] = [] := rfl
  simp only [bindings, fragment, Selection.fragment, Fragment.bindings_append, columns, head, source,
    bindings_whereClause table h, List.append_nil, List.nil_append]
  cases order <;> cases limit <;> rw [List.append_assoc] <;> rfl

/-- A row to insert is read with its values beside the labels of their columns. -/
theorem read?_insert (table : String) (cells : List Assignment) :
    Change.read? (Statement.insert table cells).compiled =
      some (.insert table (cells.map Assignment.label) (cells.map Assignment.operand)) := by
  obtain ⟨labels, named, first, wordless⟩ := exists_items (fun c : Assignment => isItem_label c.label) cells
  obtain ⟨values, bound, second, -⟩ := exists_items (fun c : Assignment => isItem_value c.operand) cells
  have head : Filled (Template.words ["INSERT", "INTO"] ++ [.name table]) []
      [.lexeme (.word "INSERT"), .lexeme (.word "INTO"), .lexeme (.name table)] :=
    .word "INSERT" (.word "INTO" (.name table .nil))
  have filled : Filled (Template.insert table (cells.map Assignment.label)) (Statement.insert table cells).bindings
      (.lexeme (.word "INSERT") :: .lexeme (.word "INTO") :: .lexeme (.name table) ::
        (parens labels ++ .lexeme (.word "VALUES") :: parens values)) := by
    have whole := head.append (named.parens.append (bound.parens.word "VALUES"))
    rw [flatten_nils, flatten_singletons] at whole
    rw [bindings_insert, Template.insert, List.map_map, List.map_map]
    simpa [Template.words, Function.comp_def] using whole
  rw [Change.read?, fill_compiled (Fragment.spells_insert table cells) filled]
  show Change.insertion? table (parens labels ++ .lexeme (.word "VALUES") :: parens values) = _
  rw [Change.insertion?, wordless.parens.cut_append]
  simp only [inside?_parens, List.drop_succ_cons, List.drop_zero, Option.bind_some, first, second]
  rfl

/-- An update is read with each column beside its value, for the rows whose key equals the value bound last. -/
theorem read?_update (table : String) (cells : List Assignment) (key : Assignment) :
    Change.read? (Statement.update table cells key).compiled =
      some (.update table (cells.map fun c => (c.label, c.operand))
        (some (.atom ⟨.column (some table) key.label, .equal, .value key.operand⟩))) := by
  obtain ⟨changes, bound, listed, wordless⟩ :=
    exists_items (fun c : Assignment => isItem_cell c.label c.operand) cells
  obtain ⟨ss, condition, read⟩ := (Condition.states_test (some table) key.label .equal key.operand).ofSymbols?_eq
  have head : Filled (Template.words ["UPDATE"] ++ [.name table] ++ Template.words ["SET"]) []
      [.lexeme (.word "UPDATE"), .lexeme (.name table), .lexeme (.word "SET")] :=
    .word "UPDATE" (.name table (.word "SET" .nil))
  have filled : Filled (Template.update table (cells.map Assignment.label) key.label)
      (Statement.update table cells key).bindings
      (.lexeme (.word "UPDATE") :: .lexeme (.name table) :: .lexeme (.word "SET") ::
        (changes ++ .lexeme (.word "WHERE") :: ss)) := by
    have whole := head.append (bound.append (condition.word "WHERE"))
    rw [flatten_singletons] at whole
    rw [bindings_update, Template.update, List.map_map]
    simpa [Template.words, Function.comp_def, Comparator.symbol] using whole
  have asked : condition? (.lexeme (.word "WHERE") :: ss) =
      some (some (.atom ⟨.column (some table) key.label, .equal, .value key.operand⟩)) := by
    show (Condition.ofSymbols? ss).map some = _
    rw [read]
    rfl
  rw [Change.read?, fill_compiled (Fragment.spells_update table cells key) filled]
  show Change.alteration? table (changes ++ .lexeme (.word "WHERE") :: ss) = _
  rw [Change.alteration?, wordless.cut_append]
  simp only [listed, asked]
  rfl

/-- The condition of a deletion or a query is read as the filter's. -/
theorem condition?_filter (table : String) {filter : Option Filter} (h : ∀ f ∈ filter, f.Supported) :
    ∃ ss, Filled (Template.condition table filter) (filter.elim [] Filter.values) ss ∧
      condition? ss = some (filter.map (Filter.condition (some table))) := by
  cases filter with
  | none => exact ⟨[], .nil, rfl⟩
  | some f =>
    obtain ⟨ss, filled, read⟩ := (Filter.states_filter (some table) (h f rfl)).ofSymbols?_eq
    refine ⟨.lexeme (.word "WHERE") :: ss, filled.word "WHERE", ?_⟩
    show (Condition.ofSymbols? ss).map some = _
    rw [read]
    rfl

/-- A deletion is read with the condition of its filter. -/
theorem read?_delete (table : String) {filter : Option Filter} (h : ∀ f ∈ filter, f.Supported) :
    ∃ statement, Filter.delete table filter = .ok statement ∧
      Change.read? statement.compiled = some (.delete table (filter.map (Filter.condition (some table)))) := by
  obtain ⟨condition, checked⟩ := Schema.exists_condition h
  obtain ⟨ss, asked, read⟩ := condition?_filter table h
  have head : Filled (Template.words ["DELETE", "FROM"] ++ [.name table]) []
      [.lexeme (.word "DELETE"), .lexeme (.word "FROM"), .lexeme (.name table)] :=
    .word "DELETE" (.word "FROM" (.name table .nil))
  have filled : Filled (Template.delete table filter) (Statement.delete table condition).bindings
      (.lexeme (.word "DELETE") :: .lexeme (.word "FROM") :: .lexeme (.name table) :: ss) := by
    rw [bindings, fragment, Fragment.bindings_append, bindings_whereClause table checked]
    exact head.append asked
  refine ⟨_, congrArg (Except.map _) checked, ?_⟩
  rw [Change.read?, fill_compiled (Fragment.spells_delete table checked) filled]
  show (condition? ss).map (Change.delete table) = _
  rw [read]
  rfl

/-- A query with a limit is read with the columns of the schema and the condition of its filter. -/
theorem read?_select {κ ρ : Type} [Kinds κ] (schema : Schema κ ρ) (table : String) {filter : Option Filter}
    (limit : Nat) (h : ∀ f ∈ filter, f.Supported) :
    ∃ statement, schema.select table filter none (some limit) = .ok statement ∧
      Inquiry.read? statement.compiled =
        some ⟨schema.labels.map (some table, ·), table, filter.map (Filter.condition (some table)),
          some (Schema.limitBinding limit)⟩ := by
  obtain ⟨condition, checked⟩ := Schema.exists_condition h
  obtain ⟨ss, asked, read⟩ := condition?_filter table h
  obtain ⟨columns, listed, named, wordless⟩ := exists_items (isItem_column table) schema.labels
  let rest := .lexeme (.name table) :: (ss ++ [.lexeme (.word "LIMIT"), .value (Schema.limitBinding limit)])
  have filled : Filled (Template.select table schema.labels filter none true)
      (Statement.select ⟨table, schema.labels, condition, none, some (Schema.limitBinding limit)⟩).bindings
      (.lexeme (.word "SELECT") :: (columns ++ .lexeme (.word "FROM") :: rest)) := by
    have bound : Filled [.word "LIMIT", .hole] [Schema.limitBinding limit]
        [.lexeme (.word "LIMIT"), .value (Schema.limitBinding limit)] := .word "LIMIT" (.hole _ .nil)
    have whole := (listed.append (((asked.append bound).name table).word "FROM")).word "SELECT"
    rw [flatten_nils] at whole
    rw [bindings_select table schema.labels none _ checked]
    simpa [Template.select, Template.columns, Template.words, rest] using whole
  have spelled := Fragment.spells_select table schema.labels none (some (Schema.limitBinding limit)) checked
  have selected : schema.select table filter none (some limit) =
      .ok (.select ⟨table, schema.labels, condition, none, some (Schema.limitBinding limit)⟩) :=
    congrArg (Except.map _) checked
  refine ⟨_, selected, ?_⟩
  rw [Inquiry.read?, fill_compiled spelled filled]
  show Inquiry.ofParts? (cut "FROM" (columns ++ .lexeme (.word "FROM") :: rest)).1
    (cut "FROM" (columns ++ .lexeme (.word "FROM") :: rest)).2 = _
  rw [wordless.cut_append, Inquiry.ofParts?, named, limited_append]
  show (condition? ss).bind _ = _
  rw [read]
  rfl

end Statement

end TypedTables
