import Mathlib.Algebra.Group.Nat.Defs
import TypedTables.Proofs.Sql.Request

/-!
# What placeholders belong to

Values are bound by position, so a value is put where its placeholder stands in the text. What a placeholder belongs to
is read off the lexemes in front of it (`Sql.place`): a column with a sign, a word that asks for a limit, or the columns
that an insertion lists, counted along with its values. For every row, filter, ordering and limit the places of the text
are those that the values were made for, one by one (`Request.Placed`). -/

namespace TypedTables

namespace Sql

/-- What a placeholder belongs to. -/
inductive Place where
  /-- The column at the same position in the list of an insertion, if the list is long enough. -/
  | listed (label : Option String)
  /-- The column in front of the sign that stands in front of the placeholder. -/
  | beside (table : Option String) (label sign : String)
  | limit
  deriving DecidableEq

def Lexeme.name? : Lexeme → Option String
  | .name s => some s
  | _ => none

/-- The labels that an insertion lists. What has been read of it is given with the last lexeme first. -/
def listedLabels (before : List Lexeme) : List String :=
  ((before.reverse.takeWhile (· ≠ .word "VALUES")).dropWhile (· ≠ .sign "(")).filterMap Lexeme.name?

/-- What a placeholder belongs to, given the lexemes in front of it, the last one first. -/
def place : List Lexeme → Place
  | .sign sign :: .name label :: .sign "." :: .name table :: _ => .beside (some table) label sign
  | .sign sign :: .name label :: _ => .beside none label sign
  | .word "LIMIT" :: _ => .limit
  | before => .listed (listedLabels before)[before.count .hole]?

/-- What the placeholders among the lexemes belong to, one after the other, behind lexemes that have been read. -/
def places (before : List Lexeme) : List Lexeme → List Place
  | [] => []
  | l :: ls => if l = .hole then place before :: places (l :: before) ls else places (l :: before) ls

theorem places_append (before ls ms : List Lexeme) :
    places before (ls ++ ms) = places before ls ++ places (ls.reverse ++ before) ms := by
  induction ls generalizing before with
  | nil => rfl
  | cons l ls ih =>
    rw [List.cons_append, places, places, ih, List.reverse_cons, List.append_assoc, List.singleton_append]
    split <;> rfl

theorem length_places (before ls : List Lexeme) : (places before ls).length = ls.count .hole := by
  induction ls generalizing before with
  | nil => rfl
  | cons l ls ih =>
    rw [places, List.count_cons]
    split
    · next same => simp [ih, same]
    · next other => simp [ih, other]

theorem places_eq_nil {ls : List Lexeme} (h : .hole ∉ ls) (before : List Lexeme) : places before ls = [] := by
  rw [← List.length_eq_zero_iff, length_places, List.count_eq_zero]
  exact h

theorem places_parens (before ls : List Lexeme) : places before (Template.parens ls) = places (.sign "(" :: before) ls := by
  have closing : places (ls.reverse ++ .sign "(" :: before) [.sign ")"] = [] := rfl
  have inner := places_append (.sign "(" :: before) ls [.sign ")"]
  rw [closing, List.append_nil] at inner
  exact inner

/-- Parts with a separator between them have their places one after the other. Only what `starts` says of the lexemes in
    front of a part may matter to its places. -/
theorem places_intercalate {α : Type} {separator : Lexeme} (plain : separator ≠ .hole) (starts : List Lexeme → Prop)
    (again : ∀ before, starts (separator :: before)) {written : α → List Lexeme} {found : α → List Place}
    {members : List α} (each : ∀ m ∈ members, ∀ before, starts before → places before (written m) = found m)
    {before : List Lexeme} (start : starts before) :
    places before ([separator].intercalate (members.map written)) = members.flatMap found := by
  induction members generalizing before with
  | nil => rfl
  | cons m members ih =>
    have first := each m List.mem_cons_self before start
    cases members with
    | nil =>
      rw [List.map_singleton, List.intercalate_singleton, List.flatMap_singleton]
      exact first
    | cons m' members =>
      have separated : places ((written m).reverse ++ before) [separator] = [] :=
        places_eq_nil (by simpa using plain.symm) _
      have others := ih (fun n hn => each n (List.mem_cons_of_mem _ hn)) (again ((written m).reverse ++ before))
      have ended : places before (written m ++ [separator]) = found m := by
        rw [places_append, first, separated, List.append_nil]
      rw [List.map_cons, List.map_cons, List.intercalate_cons_cons, places_append, ended, List.reverse_append,
        List.append_assoc, List.flatMap_cons]
      exact congrArg _ others

/-! ### Parts without placeholders -/

theorem mem_commas {parts : List (List Lexeme)} {l : Lexeme} (h : l ∈ Template.commas parts) :
    l = .sign "," ∨ ∃ part ∈ parts, l ∈ part := by
  induction parts with
  | nil => cases h
  | cons part parts ih =>
    cases parts with
    | nil =>
      rw [Template.commas, List.intercalate_singleton] at h
      exact Or.inr ⟨part, List.mem_cons_self, h⟩
    | cons next parts =>
      rw [Template.commas, List.intercalate_cons_cons, List.mem_append, List.mem_append, List.mem_singleton] at h
      rcases h with (h | h) | h
      · exact Or.inr ⟨part, List.mem_cons_self, h⟩
      · exact Or.inl h
      · rcases ih h with same | ⟨other, ho, h⟩
        · exact Or.inl same
        · exact Or.inr ⟨other, List.mem_cons_of_mem _ ho, h⟩

theorem mem_names {labels : List String} {l : Lexeme}
    (h : l ∈ Template.parens (Template.commas (labels.map fun label => [.name label]))) :
    (∃ s, l = .sign s) ∨ ∃ label, l = .name label := by
  rw [Template.parens, List.cons_append, List.mem_cons, List.mem_append, List.mem_singleton] at h
  rcases h with rfl | h | rfl
  · exact Or.inl ⟨_, rfl⟩
  · rcases mem_commas h with rfl | ⟨part, hp, h⟩
    · exact Or.inl ⟨_, rfl⟩
    · obtain ⟨label, -, rfl⟩ := List.mem_map.mp hp
      exact Or.inr ⟨label, List.mem_singleton.mp h⟩
  · exact Or.inl ⟨_, rfl⟩

theorem hole_not_mem_columns (table : String) (labels : List String) :
    .hole ∉ Template.columns (some table) labels := by
  intro h
  rcases mem_commas h with same | ⟨part, hp, h⟩
  · cases congrArg Lexeme.kind same
  · obtain ⟨label, -, rfl⟩ := List.mem_map.mp hp
    simp [Template.column] at h

theorem hole_not_mem_words (ws : List String) : .hole ∉ Template.words ws := by simp [Template.words]

/-! ### Lists of an insertion -/

/-- The head of an insertion, up to its values. -/
def insertion (table : String) (labels : List String) : List Lexeme :=
  Template.words ["INSERT", "INTO"] ++ [.name table] ++
    Template.parens (Template.commas (labels.map fun label => [.name label]))

theorem mem_insertion {table : String} {labels : List String} {l : Lexeme} (h : l ∈ insertion table labels) :
    l ≠ .hole ∧ l ≠ .word "VALUES" := by
  rw [insertion, List.mem_append] at h
  rcases h with h | h
  · simp [Template.words] at h
    rcases h with rfl | rfl | rfl <;> simp
  · rcases mem_names h with ⟨s, rfl⟩ | ⟨label, rfl⟩ <;> simp

theorem names_commas (labels : List String) :
    (Template.commas (labels.map fun label => [.name label])).filterMap Lexeme.name? = labels := by
  induction labels with
  | nil => rfl
  | cons label labels ih =>
    cases labels with
    | nil => rfl
    | cons next labels =>
      have separator : [Lexeme.name label, .sign ","].filterMap Lexeme.name? = [label] := rfl
      rw [Template.commas, List.map_cons, List.map_cons, List.intercalate_cons_cons, List.filterMap_append,
        List.singleton_append, separator]
      exact congrArg (label :: ·) ih

theorem listedLabels_cons {before : List Lexeme} (h : .word "VALUES" ∈ before) (l : Lexeme) :
    listedLabels (l :: before) = listedLabels before := by
  have stops : (before.reverse.takeWhile (· ≠ Lexeme.word "VALUES")).length ≠ before.reverse.length := by
    intro all
    have same := (List.takeWhile_prefix (· ≠ Lexeme.word "VALUES")).eq_of_length all
    simpa using List.takeWhile_eq_self_iff.mp same _ (List.mem_reverse.mpr h)
  rw [listedLabels, List.reverse_cons, List.takeWhile_append, if_neg stops, listedLabels]

theorem listedLabels_insertion (table : String) (labels : List String) :
    listedLabels (.sign "(" :: .word "VALUES" :: (insertion table labels).reverse) = labels := by
  have other : ∀ l ∈ insertion table labels, decide (l ≠ Lexeme.word "VALUES") = true := fun l hl =>
    decide_eq_true (mem_insertion hl).2
  have head : (.sign "(" :: .word "VALUES" :: (insertion table labels).reverse).reverse =
      insertion table labels ++ [.word "VALUES", .sign "("] := by simp
  have stop : [Lexeme.word "VALUES", .sign "("].takeWhile (· ≠ Lexeme.word "VALUES") = [] := rfl
  have list : (insertion table labels).dropWhile (· ≠ Lexeme.sign "(") =
      Template.parens (Template.commas (labels.map fun label => [.name label])) := rfl
  rw [listedLabels, head, List.takeWhile_append_of_pos other, stop, List.append_nil, list, Template.parens,
    List.cons_append, List.filterMap_cons_none rfl, List.filterMap_append, names_commas]
  exact List.append_nil labels

-- By induction on the columns that are left: each is the one at the number of placeholders read so far.
theorem places_values (before : List Lexeme) (front : List String) {rest : List String}
    (start : place before = .listed (listedLabels before)[before.count .hole]?) (behind : .word "VALUES" ∈ before)
    (listed : listedLabels before = front ++ rest) (read : before.count .hole = front.length) :
    places before (Template.commas (rest.map fun _ => [.hole])) = rest.map fun label => .listed (some label) := by
  induction rest generalizing before front with
  | nil => rfl
  | cons label rest ih =>
    have first : place before = .listed (some label) := by
      rw [start, listed, read, List.getElem?_append_right (Nat.le_refl _), Nat.sub_self]
      rfl
    cases rest with
    | nil =>
      show [place before] = _
      rw [first]
      rfl
    | cons next rest =>
      have later : .word "VALUES" ∈ Lexeme.hole :: before := List.mem_cons_of_mem _ behind
      have listed' : listedLabels (.sign "," :: .hole :: before) = (front ++ [label]) ++ next :: rest := by
        rw [listedLabels_cons later, listedLabels_cons behind, listed, List.append_assoc]
        rfl
      have read' : (Lexeme.sign "," :: .hole :: before).count .hole = (front ++ [label]).length := by
        simp [read]
      have others := ih (.sign "," :: .hole :: before) (front ++ [label]) rfl (List.mem_cons_of_mem _ later) listed' read'
      show place before :: places (.sign "," :: .hole :: before) _ = _
      rw [first]
      exact congrArg _ others

theorem places_insert (table : String) (labels : List String) :
    places [] (Template.insert table labels) = labels.map fun label => .listed (some label) := by
  have head : places [] (insertion table labels ++ Template.words ["VALUES"]) = [] := by
    refine places_eq_nil (fun h => ?_) []
    rcases List.mem_append.mp h with h | h
    · exact (mem_insertion h).1 rfl
    · exact hole_not_mem_words _ h
  have unread : (insertion table labels).count .hole = 0 :=
    List.count_eq_zero.mpr fun h => (mem_insertion h).1 rfl
  have before : (insertion table labels ++ Template.words ["VALUES"]).reverse ++ [] =
      .word "VALUES" :: (insertion table labels).reverse := by simp [Template.words]
  show places [] (insertion table labels ++ Template.words ["VALUES"] ++ Template.parens _) = _
  rw [places_append, head, List.nil_append, before, places_parens]
  refine places_values _ [] rfl (by simp) (listedLabels_insertion table labels) ?_
  simp [unread]

/-! ### Conditions -/

/-- A name that follows has no table in front of it. -/
def Unqualified (before : List Lexeme) : Prop := before.head? ≠ some (.sign ".")

theorem Unqualified.place_eq {before : List Lexeme} (h : Unqualified before) (sign label : String) :
    place (.sign sign :: .name label :: before) = .beside none label sign := by
  unfold place
  split
  · next same =>
    cases same
    exact absurd rfl h
  · next same =>
    cases same
    rfl
  · next same => cases congrArg List.head? same
  · next other _ => exact absurd rfl (other sign label before)

/-- The head of an update, up to its list. -/
def alteration (table : String) : List Lexeme := Template.words ["UPDATE"] ++ [.name table] ++ Template.words ["SET"]

theorem places_update (table : String) (labels : List String) (key : String) :
    places [] (Template.update table labels key) =
      labels.map (fun label => .beside none label "=") ++ [.beside (some table) key "="] := by
  have head : places [] (alteration table) = [] := rfl
  have start : Unqualified ((alteration table).reverse ++ []) := by simp [Unqualified, alteration, Template.words]
  have comma : Lexeme.sign "," ≠ .hole := by simp
  have again (before : List Lexeme) : Unqualified (.sign "," :: before) := by simp [Unqualified]
  have cell : ∀ label ∈ labels, ∀ before, Unqualified before →
      places before [.name label, .sign "=", .hole] = [.beside none label "="] := fun label _ before plain =>
    congrArg (fun p => [p]) (plain.place_eq "=" label)
  have cells : places ((alteration table).reverse ++ [])
      (Template.commas (labels.map fun label => [.name label, .sign "=", .hole])) = _ :=
    places_intercalate comma Unqualified again cell start
  have condition (before : List Lexeme) :
      places before (Template.words ["WHERE"] ++ Template.column (some table) key ++ [.sign "=", .hole]) =
        [.beside (some table) key "="] := rfl
  have split : Template.update table labels key =
      alteration table ++ Template.commas (labels.map fun label => [.name label, .sign "=", .hole]) ++
        (Template.words ["WHERE"] ++ Template.column (some table) key ++ [.sign "=", .hole]) := by
    simp [Template.update, alteration]
  rw [split, places_append, places_append, head, condition, cells, List.nil_append, List.map_eq_flatMap]

end Sql

open Sql (Lexeme Place places lexemes)

/-- A value that is bound and what its placeholder belongs to. -/
structure Placement where
  place : Place
  value : Binding

/-- The column, the sign and the value of a comparison in a statement on a table. -/
def Comparison.placement (table : String) (c : Comparison) : Placement :=
  ⟨.beside (some table) c.column.label (c.operator.comparator?.elim "" Comparator.symbol), ⟨c.column.root, c.value⟩⟩

namespace Filter

def placements (table : String) (f : Filter) : List Placement := f.atoms.map (Comparison.placement table)

theorem placements_atomsOf (table : String) (members : List Filter) :
    (Formula.atomsOf members).map (Comparison.placement table) = members.flatMap (placements table) := by
  rw [Formula.atomsOf_eq, List.map_flatMap]
  rfl

theorem values_eq (table : String) (f : Filter) : f.values = (f.placements table).map Placement.value := by
  rw [values_eq_atoms, placements, List.map_map]
  rfl

theorem places_group {word right : String} {written : Filter → List Lexeme} {found : Filter → List Place}
    {members : List Filter} (each : ∀ m ∈ members, ∀ before, places before (written m) = found m)
    (before : List Lexeme) :
    places before (Template.group word right (members.map written)) = members.flatMap found := by
  rw [Template.group, Sql.places_parens]
  cases members with
  | nil => rfl
  | cons m members =>
    have separator : Lexeme.word word ≠ .hole := by simp
    exact Sql.places_intercalate separator (fun _ => True) (fun _ => trivial) (fun m hm before _ => each m hm before) trivial

theorem places_filter (table : String) (f : Filter) (before : List Lexeme) :
    places before (Template.filter .bound (some table) f) = (f.placements table).map Placement.place := by
  induction f using Formula.induction generalizing before with
  | atom c => rfl
  | all members ih =>
    rw [Template.filter, Formula.fold, Formula.foldEach_eq, placements, Formula.atoms, placements_atomsOf,
      List.map_flatMap]
    exact places_group ih before
  | any members ih =>
    rw [Template.filter, Formula.fold, Formula.foldEach_eq, placements, Formula.atoms, placements_atomsOf,
      List.map_flatMap]
    exact places_group ih before
  | not member ih =>
    have inner : places before (Template.negation (Template.filter .bound (some table) member)) =
        places (.word "NOT" :: before) (Template.parens (Template.filter .bound (some table) member)) := rfl
    show places before (Template.negation (Template.filter .bound (some table) member)) = _
    rw [inner, Sql.places_parens]
    exact ih _

end Filter

/-! ### Requests -/

/-- What a statement on rows is compiled for. -/
inductive Request (ρ : Type) where
  | insert (table : String) (row : ρ)
  | update (table : String) (row : ρ)
  | select (table : String) (filter : Option Filter) (order : Option SortBy) (limit : Option Nat)
  | delete (table : String) (filter : Option Filter)

namespace Request

variable {κ ρ : Type} [Kinds κ]

def statement (schema : Schema κ ρ) : Request ρ → Except Error Statement
  | insert table row => .ok (schema.insert table row)
  | update table row => .ok (schema.update table row)
  | select table filter order limit => schema.select table filter order limit
  | delete table filter => Filter.delete table filter

def filter? : Request ρ → Option Filter
  | select _ filter _ _ => filter
  | delete _ filter => filter
  | _ => none

/-- The values that a statement binds, each with what its placeholder is to belong to. -/
def placements (schema : Schema κ ρ) : Request ρ → List Placement
  | insert _ row => schema.columns.map fun c => ⟨.listed (some c.label), ⟨c.root, c.encodeRow row⟩⟩
  | update table row =>
    schema.columns.map (fun c => ⟨.beside none c.label "=", ⟨c.root, c.encodeRow row⟩⟩) ++
      [⟨.beside (some table) schema.key.label "=", ⟨schema.key.root, schema.key.encodeRow row⟩⟩]
  | select table filter _ limit =>
    filter.elim [] (Filter.placements table) ++ limit.toList.map fun n => ⟨.limit, Schema.limitBinding n⟩
  | delete table filter => filter.elim [] (Filter.placements table)

/-- The limit that is bound is what was asked for, as far as it is a 64-bit integer. -/
theorem limitBinding_eq (limit : Nat) :
    ∃ i : Int64, Schema.limitBinding limit = ⟨.bigInt, .integer i⟩ ∧ i.toInt = min limit (2 ^ 63 - 1) := by
  have greatest : Int64.maxValue.toNatClampNeg = 2 ^ 63 - 1 := by decide
  refine ⟨_, rfl, ?_⟩
  rw [greatest, Int64.toInt_ofNat_of_lt (by omega)]

theorem places_condition (table : String) (filter : Option Filter) (before : List Lexeme) :
    places before (Template.condition table filter) =
      (filter.elim [] (Filter.placements table)).map Placement.place := by
  cases filter with
  | none => rfl
  | some f => exact Filter.places_filter table f (.word "WHERE" :: before)

theorem places_select (table : String) (labels : List String) (filter : Option Filter) (order : Option SortBy)
    (limited : Bool) :
    places [] (Template.select table labels filter order limited) =
      (filter.elim [] (Filter.placements table)).map Placement.place ++ if limited then [.limit] else [] := by
  have head (before : List Lexeme) : places before (Template.words ["SELECT"] ++ Template.columns (some table) labels ++
      (Template.words ["FROM"] ++ [.name table])) = [] := by
    refine Sql.places_eq_nil (fun h => ?_) before
    simp [Template.words, Sql.hole_not_mem_columns] at h
  have ordered (before : List Lexeme) :
      places before (order.elim [] fun s => Template.words ["ORDER", "BY"] ++ Template.ordering s) = [] := by
    cases order <;> rfl
  have counted (before : List Lexeme) :
      places before (if limited then Template.words ["LIMIT"] ++ [.hole] else []) = if limited then [.limit] else [] := by
    cases limited <;> rfl
  rw [Template.select, Sql.places_append, Sql.places_append, Sql.places_append, head, ordered, counted,
    places_condition, List.nil_append, List.append_nil]

theorem values_condition (table : String) (filter : Option Filter) :
    filter.elim [] Filter.values = (filter.elim [] (Filter.placements table)).map Placement.value := by
  cases filter with
  | none => rfl
  | some f => exact f.values_eq table

/-- The text of a statement is read with the places of the request, and the values are bound in their order. -/
structure Placed (schema : Schema κ ρ) (request : Request ρ) (s : Statement) : Prop where
  compiled : request.statement schema = .ok s
  places : places [] (lexemes s.text.toList) = (request.placements schema).map Placement.place
  values : s.bindings = (request.placements schema).map Placement.value

theorem exists_placed (schema : Schema κ ρ) (request : Request ρ) (supported : ∀ f ∈ request.filter?, f.Supported) :
    ∃ s, Placed schema request s := by
  cases request with
  | insert table row =>
    have text := (Fragment.spells_insert table (schema.columns.map (Column.assignment row))).lexemes_eq
    refine ⟨_, rfl, ?_, ?_⟩
    · rw [Statement.text, Schema.insert, text, Sql.places_insert, placements, List.map_map, List.map_map, List.map_map]
      rfl
    · rw [Schema.insert, Statement.bindings_insert, placements, List.map_map, List.map_map]
      rfl
  | update table row =>
    have text := (Fragment.spells_update table (schema.columns.map (Column.assignment row))
      (schema.key.assignment row)).lexemes_eq
    refine ⟨_, rfl, ?_, ?_⟩
    · rw [Statement.text, Schema.update, text, Sql.places_update, placements, List.map_append, List.map_map, List.map_map,
        List.map_map]
      rfl
    · rw [Schema.update, Statement.bindings_update, placements, List.map_append, List.map_map, List.map_map]
      rfl
  | select table filter order limit =>
    obtain ⟨condition, checked⟩ := Schema.exists_condition supported
    have text := (Fragment.spells_select table schema.labels order (limit.map Schema.limitBinding) checked).lexemes_eq
    refine ⟨_, congrArg (Except.map _) checked, ?_, ?_⟩
    · rw [Statement.text, text, places_select, placements, List.map_append, Option.isSome_map]
      cases limit <;> rfl
    · rw [Statement.bindings_select table schema.labels order _ checked, values_condition table, placements,
        List.map_append]
      cases limit <;> rfl
  | delete table filter =>
    obtain ⟨condition, checked⟩ := Schema.exists_condition supported
    have text := (Fragment.spells_delete table checked).lexemes_eq
    have head : places [] (Template.words ["DELETE", "FROM"] ++ [.name table]) = [] := rfl
    refine ⟨_, congrArg (Except.map _) checked, ?_, ?_⟩
    · rw [Statement.text, text, Template.delete, Sql.places_append, head, places_condition, placements, List.nil_append]
      rfl
    · rw [Statement.bindings, Statement.fragment, Fragment.bindings_append, Statement.bindings_whereClause table checked,
        values_condition table, placements]
      rfl

/-- A statement on rows is compiled with as many placeholders as values. What the placeholder at each position belongs to
    by the text is what the value at this position was made for: a listed column with the value of the row, the key last
    where rows are changed, the comparisons of a filter from left to right, and a limit at the end. -/
theorem compiled_placed (schema : Schema κ ρ) (request : Request ρ) (supported : ∀ f ∈ request.filter?, f.Supported) :
    ∃ s, request.statement schema = .ok s ∧ (lexemes s.text.toList).count .hole = s.bindings.length ∧
      places [] (lexemes s.text.toList) = (request.placements schema).map Placement.place ∧
      s.bindings = (request.placements schema).map Placement.value ∧
      ∀ table filter order limit, request = .select table filter order (some limit) →
        ∃ (front : List Placement) (i : Int64), request.placements schema = front ++ [⟨.limit, ⟨.bigInt, .integer i⟩⟩] ∧
          i.toInt = min limit (2 ^ 63 - 1) := by
  obtain ⟨s, placed⟩ := exists_placed schema request supported
  refine ⟨s, placed.compiled, ?_, placed.places, placed.values, fun table filter order limit same => ?_⟩
  · rw [← Sql.length_places [], placed.places, placed.values, List.length_map, List.length_map]
  · obtain ⟨i, bound, value⟩ := limitBinding_eq limit
    refine ⟨filter.elim [] (Filter.placements table), i, ?_, value⟩
    rw [same, placements, Option.toList_some, List.map_singleton, bound]

/-- A filter on a column whose name looks like a comparison with a placeholder. -/
def puzzling : Filter :=
  .not (.any [.atom ⟨⟨"?\" = ?", .int⟩, .lessEqual, .integer 3⟩, .all [], .atom ⟨⟨"", .text⟩, .equal, .text "?"⟩])

theorem placed_puzzling :
    (∀ f ∈ (select "?" (some puzzling) none (some (2 ^ 64)) : Request Book).filter?, f.Supported) ∧
      ∃ s, statement books (select "?" (some puzzling) none (some (2 ^ 64))) = .ok s ∧
        places [] (lexemes s.text.toList) = [.beside (some "?") "?\" = ?" "<=", .beside (some "?") "" "=", .limit] ∧
        s.bindings = [⟨.int, .integer 3⟩, ⟨.text, .text "?"⟩, ⟨.bigInt, .integer Int64.maxValue⟩] := by
  have supported : ∀ f ∈ (select "?" (some puzzling) none (some (2 ^ 64)) : Request Book).filter?, f.Supported := by
    intro f hf c hc
    cases hf
    obtain rfl | hc := List.mem_cons.mp hc
    · rfl
    · obtain rfl := List.mem_singleton.mp hc
      rfl
  obtain ⟨s, compiled, -, places, values, -⟩ :=
    compiled_placed books (select "?" (some puzzling) none (some (2 ^ 64))) supported
  exact ⟨supported, s, compiled, places, values⟩

end Request

end TypedTables
