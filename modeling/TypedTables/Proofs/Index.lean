import Mathlib.Data.List.Induction
import TypedTables.Index
import TypedTables.Proofs.Sql.Spelling

/-!
# Terms of an index

An index is begun with a term, and what is made of it has one term more, behind the others of its kind. Nothing that is
made of an index changes it. So the indexes of a program are told by what each was begun with and the terms that were
added on the way to it, every one has a term, and the statement that creates it lists its terms once each
(`made_eq_origins`). -/

namespace TypedTables

namespace Index

/-! ### Making indexes -/

/-- What an index is begun with. -/
inductive Start where
  | ofTerms (name : String) (filters : List Filter) (orderings : List SortBy) (fields : List ColumnRef)
  | onField (name : String) (field : ColumnRef)
  | onFilter (name : String) (filter : Filter)
  | onOrdering (name : String) (ordering : SortBy)

def Start.index : Start → Except Error Index
  | ofTerms name filters orderings fields => Index.ofTerms name filters orderings fields
  | onField name field => .ok (Index.onField name field)
  | onFilter name filter => .ok (Index.onFilter name filter)
  | onOrdering name ordering => .ok (Index.onOrdering name ordering)

/-- A term that is added to an index. -/
inductive Term where
  | field (c : ColumnRef)
  | filter (f : Filter)
  | ordering (s : SortBy)

def withTerm (index : Index) : Term → Index
  | .field c => index.withField c
  | .filter f => index.withFilter f
  | .ordering s => index.withOrdering s

/-- One more index: a new one, or the one at a place of those made so far with one term more. -/
inductive Making where
  | begin (start : Start)
  | extend (place : Nat) (term : Term)

def Making.index? (made : List Index) : Making → Option Index
  | begin start => start.index.toOption
  | extend place term => made[place]?.map (·.withTerm term)

/-- The indexes that a program has made, in the order in which it made them. -/
def made (makings : List Making) : List Index :=
  makings.foldl (fun made making => made ++ (making.index? made).toList) []

/-! ### Where an index comes from -/

def HasTerm (index : Index) : Prop := index.filters ≠ [] ∨ index.orderings ≠ [] ∨ index.fields ≠ []

instance : DecidablePred HasTerm := fun _ => inferInstanceAs (Decidable (_ ∨ _))

/-- The lists that an index is begun with. -/
def Start.given : Start → Index
  | ofTerms name filters orderings fields => ⟨name, filters, orderings, fields⟩
  | onField name field => ⟨name, [], [], [field]⟩
  | onFilter name filter => ⟨name, [filter], [], []⟩
  | onOrdering name ordering => ⟨name, [], [ordering], []⟩

def Term.field? : Term → Option ColumnRef
  | field c => some c
  | _ => none

def Term.filter? : Term → Option Filter
  | filter f => some f
  | _ => none

def Term.ordering? : Term → Option SortBy
  | ordering s => some s
  | _ => none

/-- What an index was begun with, and the terms that were added on the way to it, from the first to the last. -/
structure Origin where
  start : Start
  added : List Term

def Making.origin? (origins : List Origin) : Making → Option Origin
  | begin start => if start.given.HasTerm then some ⟨start, []⟩ else none
  | extend place term => origins[place]?.map fun origin => ⟨origin.start, origin.added ++ [term]⟩

def origins (makings : List Making) : List Origin :=
  makings.foldl (fun origins making => origins ++ (making.origin? origins).toList) []

/-- The terms of each kind, those that were begun with in front. -/
def Origin.index (origin : Origin) : Index where
  name := origin.start.given.name
  filters := origin.start.given.filters ++ origin.added.filterMap Term.filter?
  orderings := origin.start.given.orderings ++ origin.added.filterMap Term.ordering?
  fields := origin.start.given.fields ++ origin.added.filterMap Term.field?

/-! ### One more index -/

variable {index : Index} {start : Start}

theorem ofTerms_eq (given : Index) : ofTerms given.name given.filters given.orderings given.fields =
    if given.HasTerm then .ok given else .error (.emptyIndex given.name) := by
  have empty : (given.filters.isEmpty && given.orderings.isEmpty && given.fields.isEmpty) = true ↔ ¬given.HasTerm := by
    simp [HasTerm, and_assoc]
  rw [ofTerms]
  split
  · next none => rw [if_neg (empty.mp none)]
  · next some => rw [if_pos (Decidable.not_not.mp (mt empty.mpr some))]

theorem ofTerms_eq_error_iff {name : String} {filters : List Filter} {orderings : List SortBy}
    {fields : List ColumnRef} {e : Error} : ofTerms name filters orderings fields = .error e ↔
      (filters = [] ∧ orderings = [] ∧ fields = []) ∧ e = .emptyIndex name := by
  have none : ¬HasTerm ⟨name, filters, orderings, fields⟩ ↔ filters = [] ∧ orderings = [] ∧ fields = [] := by
    simp [HasTerm]
  rw [← none, ofTerms_eq ⟨name, filters, orderings, fields⟩]
  split
  · next filled => exact iff_of_false nofun fun h => h.1 filled
  · next empty => rw [and_iff_right empty, Except.error.injEq, eq_comm]

theorem Start.toOption_index : start.index.toOption = if start.given.HasTerm then some start.given else none := by
  cases start with
  | ofTerms name filters orderings fields =>
    rw [index, ofTerms_eq ⟨name, filters, orderings, fields⟩]
    exact apply_ite ..
  | onField name field => exact (if_pos (Or.inr (Or.inr (List.cons_ne_nil _ _)))).symm
  | onFilter name filter => exact (if_pos (Or.inl (List.cons_ne_nil _ _))).symm
  | onOrdering name ordering => exact (if_pos (Or.inr (Or.inl (List.cons_ne_nil _ _)))).symm

theorem Origin.index_begun (start : Start) : Origin.index ⟨start, []⟩ = start.given := by
  simp [Origin.index]

theorem Origin.index_extended (origin : Origin) (term : Term) :
    Origin.index ⟨origin.start, origin.added ++ [term]⟩ = origin.index.withTerm term := by
  cases term <;>
    simp [Origin.index, withTerm, withField, withFilter, withOrdering, Term.field?, Term.filter?, Term.ordering?]

theorem Making.index?_map (making : Making) (origins : List Origin) :
    making.index? (origins.map Origin.index) = (making.origin? origins).map Origin.index := by
  cases making with
  | begin start =>
    rw [index?, origin?, Start.toOption_index]
    split
    · rw [Option.map_some, Origin.index_begun]
    · rfl
  | extend place term =>
    rw [index?, origin?, List.getElem?_map, Option.map_map, Option.map_map]
    exact congrArg (Option.map · origins[place]?) (funext fun origin => (origin.index_extended term).symm)

theorem hasTerm_withTerm (index : Index) (term : Term) : (index.withTerm term).HasTerm := by
  cases term with
  | field c => exact Or.inr (Or.inr (by simp [withTerm, withField]))
  | filter f => exact Or.inl (by simp [withTerm, withFilter])
  | ordering s => exact Or.inr (Or.inl (by simp [withTerm, withOrdering]))

theorem Making.hasTerm {made : List Index} {making : Making} (h : making.index? made = some index) :
    index.HasTerm := by
  cases making with
  | begin start =>
    rw [index?, Start.toOption_index] at h
    split at h
    · next filled =>
      cases h
      exact filled
    · cases h
  | extend place term =>
    obtain ⟨source, -, rfl⟩ := Option.map_eq_some_iff.mp h
    exact hasTerm_withTerm source term

/-! ### All indexes -/

variable {makings : List Making}

theorem made_concat (makings : List Making) (making : Making) :
    made (makings ++ [making]) = made makings ++ (making.index? (made makings)).toList := List.foldl_concat ..

theorem origins_concat (makings : List Making) (making : Making) :
    origins (makings ++ [making]) = origins makings ++ (making.origin? (origins makings)).toList := List.foldl_concat ..

theorem made_eq (makings : List Making) : made makings = (origins makings).map Origin.index := by
  induction makings using List.reverseRecOn with
  | nil => rfl
  | append_singleton makings making ih =>
    rw [made_concat, origins_concat, ih, Making.index?_map, List.map_append, Option.toList_map]

theorem made_prefix (makings more : List Making) : made makings <+: made (makings ++ more) := by
  rw [made, made, List.foldl_append]
  generalize makings.foldl _ [] = held
  induction more generalizing held with
  | nil => exact List.prefix_rfl
  | cons making more ih => exact (List.prefix_append held _).trans (ih _)

theorem hasTerm_of_mem_made (h : index ∈ made makings) : index.HasTerm := by
  induction makings using List.reverseRecOn with
  | nil => cases h
  | append_singleton makings making ih =>
    rw [made_concat] at h
    rcases List.mem_append.mp h with before | new
    · exact ih before
    · exact Making.hasTerm (Option.mem_toList.mp new)

/-! ### The statement that creates an index -/

/-- The terms one by one, the filters being written so. -/
def written (index : Index) (filters : List String) : List String :=
  filters ++ index.orderings.map (fun s => Text.identifier s.column.label ++ " " ++ s.direction.keyword) ++
    index.fields.map fun c => Text.identifier c.label

variable {table : String} {statement : Statement}

theorem exists_create_iff : (∃ statement, index.create table = .ok statement) ↔
    ∀ f ∈ index.filters, ∃ compiled, f.compile none .inline = .ok compiled := by
  have each (f : Filter) : (∃ p, f.predicate = .ok p) ↔ ∃ compiled, f.compile none .inline = .ok compiled := by
    rw [Filter.compile]
    cases f.predicate <;> simp [Except.map]
  simp only [← each, ← exists_mapM_iff]
  rw [create, terms]
  cases index.filters.mapM Filter.predicate <;> simp [Except.map, bind, Except.bind, pure, Except.pure]

theorem written_ne_nil {filters : List String} (h : index.HasTerm) (length : index.filters.length = filters.length) :
    index.written filters ≠ [] := by
  intro none
  rw [written, List.append_eq_nil_iff, List.append_eq_nil_iff, List.map_eq_nil_iff, List.map_eq_nil_iff] at none
  obtain ⟨⟨rfl, orderings⟩, fields⟩ := none
  rcases h with filled | filled | filled
  · exact filled (List.length_eq_zero_iff.mp length)
  · exact filled orderings
  · exact filled fields

theorem text_fragments (index : Index) (predicates : List Predicate) :
    (IndexTerms.fragments ⟨predicates, index.orderings, index.fields.map ColumnRef.label⟩).map Fragment.text =
      index.written (predicates.map fun p => (Predicate.fragment none p).inline.text) := by
  have ordering (s : SortBy) : s.fragment.text = Text.identifier s.column.label ++ " " ++ s.direction.keyword := by
    simp [SortBy.fragment, Fragment.text, Piece.text, String.append_assoc]
  have field (label : String) : (Fragment.column none label).text = Text.identifier label := by
    simp [Fragment.column, Fragment.text, Piece.text]
  simp only [IndexTerms.fragments, written, List.map_append, List.map_map, Function.comp_def, ordering, field]

theorem text_of_create (created : index.create table = .ok statement) :
    ∃ filters, List.Forall₂ (fun f text => (f.compile none .inline).map Compiled.text = .ok text) index.filters filters ∧
      statement.text = "CREATE INDEX " ++ Text.identifier (table ++ ":indexes:" ++ index.name) ++ " ON " ++
        Text.identifier table ++ " (" ++ ", ".intercalate (index.written filters) ++ ")" := by
  obtain ⟨terms, made, rfl⟩ := eq_ok_of_map created
  obtain ⟨predicates, checked, made⟩ := eq_ok_of_bind made
  cases made
  refine ⟨predicates.map fun p => (Predicate.fragment none p).inline.text, ?_, ?_⟩
  · rw [List.forall₂_map_right_iff]
    refine (forall₂_of_mapM checked).imp fun f p h => ?_
    rw [Filter.compile, h]
    rfl
  · rw [Statement.text, Statement.fragment, Fragment.tuple, Fragment.text_append, Fragment.text_append,
      Fragment.text_append, Fragment.text_joined, text_fragments]
    have opening (rest : String) : " " ++ ("(" ++ rest) = " (" ++ rest := by
      rw [← String.append_assoc]
      rfl
    simp [Fragment.text, Piece.text, Naming.index, Naming.indexMarker, String.append_assoc, opening]

/-- The indexes of a program are what their origins tell, and stay so whatever is made next. Only an index of no terms
    cannot be begun, so every one has a term; the statement that creates it lists its filters, its orderings and its
    fields once each, in this order. -/
theorem made_eq_origins (makings : List Making) :
    made makings = (origins makings).map Origin.index ∧
      (∀ more, made makings <+: made (makings ++ more)) ∧
      (∀ name filters orderings fields e, ofTerms name filters orderings fields = .error e ↔
        (filters = [] ∧ orderings = [] ∧ fields = []) ∧ e = .emptyIndex name) ∧
      ∀ index ∈ made makings, (index.filters ≠ [] ∨ index.orderings ≠ [] ∨ index.fields ≠ []) ∧
        ∀ table,
          ((∃ statement, index.create table = .ok statement) ↔
            ∀ f ∈ index.filters, ∃ compiled, f.compile none .inline = .ok compiled) ∧
          ∀ statement, index.create table = .ok statement → ∃ filters : List String,
            List.Forall₂ (fun f text => (f.compile none .inline).map Compiled.text = .ok text) index.filters filters ∧
              index.written filters ≠ [] ∧
              statement.text = "CREATE INDEX " ++ Text.identifier (table ++ ":indexes:" ++ index.name) ++ " ON " ++
                Text.identifier table ++ " (" ++ ", ".intercalate (index.written filters) ++ ")" := by
  refine ⟨made_eq makings, made_prefix makings, fun _ _ _ _ _ => ofTerms_eq_error_iff, fun index hi => ?_⟩
  have filled := hasTerm_of_mem_made hi
  refine ⟨filled, fun table => ⟨exists_create_iff, fun statement created => ?_⟩⟩
  obtain ⟨filters, compiled, text⟩ := text_of_create created
  exact ⟨filters, compiled, written_ne_nil filled compiled.length_eq, text⟩

end Index

end TypedTables
