import TypedTables.Proofs.Sql.Placement

/-!
# Text that no value has a say in

Two requests that differ in nothing but values come to one text or to one error. The relation `Alike` is carried from
the comparisons of a filter through all that is written of them: pieces are alike that are the same but for the value
in a hole, and the parts of a statement put alike pieces together in one way. Alike fragments have one text, and they
bind values of the same types (`Request.alike_compiled`). -/

namespace TypedTables

/-- Both come to results in relation, or both to one error. -/
inductive Agree {ε α β : Type} (R : α → β → Prop) : Except ε α → Except ε β → Prop where
  | ok {a : α} {b : β} (related : R a b) : Agree R (.ok a) (.ok b)
  | error (e : ε) : Agree R (.error e) (.error e)

namespace Agree

variable {ε α β γ δ : Type} {R : α → β → Prop} {S : γ → δ → Prop} {x : Except ε α} {y : Except ε β}

theorem bind {f : α → Except ε γ} {g : β → Except ε δ} (h : Agree R x y) (next : ∀ a b, R a b → Agree S (f a) (g b)) :
    Agree S (x >>= f) (y >>= g) := by
  cases h with
  | ok related => exact next _ _ related
  | error e => exact .error e

theorem map {f : α → γ} {g : β → δ} (h : Agree R x y) (next : ∀ a b, R a b → S (f a) (g b)) :
    Agree S (x.map f) (y.map g) := by
  cases h with
  | ok related => exact .ok (next _ _ related)
  | error e => exact .error e

end Agree

namespace Formula

variable {α β γ ε : Type} {eq : α → α → Bool} {g : α → Except ε β} {R : γ → γ → Prop} {onAtom : β → γ}
  {onAll onAny : List γ → γ} {onNot : γ → γ}

theorem sameEach_iff {xs ys : List (Formula α)} :
    sameEach eq xs ys = true ↔ List.Forall₂ (fun x y => same eq x y = true) xs ys := by
  induction xs generalizing ys with
  | nil => cases ys <;> simp [sameEach]
  | cons x xs ih => cases ys <;> simp [sameEach, ih]

theorem checkEach_agree {S : Formula β → Formula β → Prop} {xs ys : List (Formula α)}
    (h : List.Forall₂ (fun x y => same eq x y = true) xs ys)
    (each : ∀ x ∈ xs, ∀ {y}, same eq x y = true → Agree S (x.check g) (y.check g)) :
    Agree (List.Forall₂ S) (checkEach g xs) (checkEach g ys) := by
  induction h with
  | nil => exact .ok .nil
  | cons first _ ih =>
    refine (each _ List.mem_cons_self first).bind fun p q related => ?_
    refine (ih fun x hx => each x (List.mem_cons_of_mem _ hx)).bind fun ps qs others => ?_
    exact .ok (.cons related others)

/-- Formulas that are the same but for their atoms are checked alike, and what a fold makes of them is related as what
    it makes of their atoms. -/
theorem check_agree {f f' : Formula α} (h : same eq f f' = true)
    (atom : ∀ a b, eq a b = true → Agree (fun p q => R (onAtom p) (onAtom q)) (g a) (g b))
    (all : ∀ {xs ys}, List.Forall₂ R xs ys → R (onAll xs) (onAll ys))
    (any : ∀ {xs ys}, List.Forall₂ R xs ys → R (onAny xs) (onAny ys)) (not : ∀ {x y}, R x y → R (onNot x) (onNot y)) :
    Agree (fun p q => R (p.fold onAtom onAll onAny onNot) (q.fold onAtom onAll onAny onNot)) (f.check g)
      (f'.check g) := by
  have folded : ∀ {ps qs : List (Formula β)},
      List.Forall₂ (fun p q => R (p.fold onAtom onAll onAny onNot) (q.fold onAtom onAll onAny onNot)) ps qs →
        List.Forall₂ R (foldEach onAtom onAll onAny onNot ps) (foldEach onAtom onAll onAny onNot qs) := by
    intro ps qs related
    rw [foldEach_eq, foldEach_eq, List.forall₂_map_left_iff, List.forall₂_map_right_iff]
    exact related
  induction f using induction generalizing f' with
  | atom a =>
    cases f' with
    | atom b => exact (atom a b h).map fun _ _ related => related
    | _ => cases h
  | all members ih =>
    cases f' with
    | all members' => exact (checkEach_agree (sameEach_iff.mp h) ih).map fun _ _ related => all (folded related)
    | _ => cases h
  | any members ih =>
    cases f' with
    | any members' => exact (checkEach_agree (sameEach_iff.mp h) ih).map fun _ _ related => any (folded related)
    | _ => cases h
  | not member ih =>
    cases f' with
    | not member' => exact (ih h).map fun _ _ related => not related
    | _ => cases h

end Formula

/-! ### Fragments -/

/-- The same piece, but for the value in a hole. -/
inductive Piece.Alike : Piece → Piece → Prop where
  | fixed (s : String) : Piece.Alike (.fixed s) (.fixed s)
  | name (s : String) : Piece.Alike (.name s) (.name s)
  | hole (root : RootType) (v w : Value) : Piece.Alike (.hole ⟨root, v⟩) (.hole ⟨root, w⟩)

namespace Fragment

/-- The same pieces one by one, but for the values in the holes. -/
abbrev Alike (f g : Fragment) : Prop := List.Forall₂ Piece.Alike f g

variable {f g f' g' : Fragment}

theorem Alike.refl (f : Fragment) : Alike f f := by
  rw [Alike, List.forall₂_same]
  intro piece _
  cases piece with
  | fixed s => exact .fixed s
  | name s => exact .name s
  | hole b => exact .hole b.root b.value b.value

theorem Alike.append (h : Alike f g) (h' : Alike f' g') : Alike (f ++ f') (g ++ g') := List.rel_append h h'

theorem Alike.joined {separator : String} {parts others : List Fragment} (h : List.Forall₂ Alike parts others) :
    Alike (joined separator parts) (joined separator others) :=
  intercalate_related h .nil fun first rest => (first.append (.refl _)).append rest

theorem Alike.tuple {parts others : List Fragment} (h : List.Forall₂ Alike parts others) :
    Alike (tuple parts) (tuple others) := ((Alike.refl _).append (.joined h)).append (.refl _)

theorem Alike.text_eq (h : Alike f g) : f.text = g.text := by
  induction h with
  | nil => rfl
  | cons piece _ ih =>
    rw [Fragment.text_cons, Fragment.text_cons, ih]
    cases piece <;> rfl

theorem Alike.roots_eq (h : Alike f g) : f.bindings.map Binding.root = g.bindings.map Binding.root := by
  induction h with
  | nil => rfl
  | cons piece _ ih =>
    cases piece with
    | fixed => exact ih
    | name => exact ih
    | hole root => exact congrArg (root :: ·) ih

end Fragment

/-! ### Filters -/

/-- The same column and the same operator. -/
def Comparison.alike (a b : Comparison) : Bool := a.column = b.column && a.operator = b.operator

/-- The filters differ only in the values of their comparisons. -/
def Filter.alike (f g : Filter) : Bool := Formula.same Comparison.alike f g

theorem Comparison.alike_iff {a b : Comparison} :
    a.alike b = true ↔ a.column = b.column ∧ a.operator = b.operator := by
  simp [Comparison.alike]

section
variable {table : String} {f g : Filter} {filter filter' : Option Filter}

theorem Comparison.test_agree (table : Option String) {a b : Comparison} (h : a.alike b = true) :
    Agree (fun s t => Fragment.Alike (s.fragment table) (t.fragment table)) a.test b.test := by
  obtain ⟨column, operator⟩ := Comparison.alike_iff.mp h
  rw [Comparison.test, Comparison.test, column, operator]
  cases b.operator.comparator with
  | error e => exact .error e
  | ok comparator =>
    exact .ok ((Fragment.Alike.refl _).append (.cons (.fixed _) (.cons (.hole _ _ _) .nil)))

theorem Fragment.Alike.group (word empty : String) {parts others : List Fragment}
    (h : List.Forall₂ Fragment.Alike parts others) :
    Fragment.Alike (Predicate.group word empty parts) (Predicate.group word empty others) := by
  cases h with
  | nil => exact .refl _
  | cons first rest => exact ((Fragment.Alike.refl _).append (.joined (.cons first rest))).append (.refl _)

theorem Filter.predicate_agree (table : Option String) (h : f.alike g = true) :
    Agree (fun p q => Fragment.Alike (Predicate.fragment table p) (Predicate.fragment table q)) f.predicate
      g.predicate :=
  Formula.check_agree h (fun _ _ => Comparison.test_agree table) (.group "AND" "1 = 1") (.group "OR" "1 = 0")
    fun member => ((Fragment.Alike.refl _).append member).append (.refl _)

theorem Schema.condition_agree (table : String) (h : Option.Rel (fun f g => Filter.alike f g = true) filter filter') :
    Agree (fun p q => Fragment.Alike (Predicate.whereClause table p) (Predicate.whereClause table q))
      (Schema.condition filter) (Schema.condition filter') := by
  cases h with
  | none => exact .ok (.refl _)
  | some alike => exact (Filter.predicate_agree (some table) alike).map fun _ _ same => .cons (.fixed _) same

end

/-! ### Statements -/

/-- The same column, but for the value. -/
inductive Assignment.Alike : Assignment → Assignment → Prop where
  | cell (label : String) (root : RootType) (v w : Value) : Assignment.Alike ⟨label, root, v⟩ ⟨label, root, w⟩

namespace Assignment

variable {cells cells' : List Assignment}

theorem Alike.parts {part : Assignment → Fragment} (h : List.Forall₂ Alike cells cells')
    (alike : ∀ {a b}, Alike a b → Fragment.Alike (part a) (part b)) :
    List.Forall₂ Fragment.Alike (cells.map part) (cells'.map part) := by
  rw [List.forall₂_map_left_iff, List.forall₂_map_right_iff]
  exact h.imp fun _ _ => alike

theorem Alike.named {a b : Assignment} (h : Alike a b) : Fragment.Alike [.name a.label] [.name b.label] := by
  cases h
  exact .refl _

theorem Alike.held {a b : Assignment} (h : Alike a b) : Fragment.Alike [.hole a.operand] [.hole b.operand] := by
  cases h
  exact .cons (.hole _ _ _) .nil

theorem Alike.assigned {a b : Assignment} (h : Alike a b) :
    Fragment.Alike [.name a.label, .fixed " = ", .hole a.operand] [.name b.label, .fixed " = ", .hole b.operand] :=
  h.named.append ((Fragment.Alike.refl [.fixed " = "]).append h.held)

end Assignment

namespace Statement

variable {table : String} {cells cells' : List Assignment} {key key' : Assignment}

theorem insert_alike (h : List.Forall₂ Assignment.Alike cells cells') :
    Fragment.Alike (insert table cells).fragment (insert table cells').fragment := by
  have labels := Assignment.Alike.parts h fun same => same.named
  have values := Assignment.Alike.parts h fun same => same.held
  exact (((Fragment.Alike.refl _).append (.tuple labels)).append (.refl _)).append (.tuple values)

theorem update_alike (h : List.Forall₂ Assignment.Alike cells cells') (hkey : key.Alike key') :
    Fragment.Alike (update table cells key).fragment (update table cells' key').fragment := by
  have assigned := Assignment.Alike.parts h fun same => same.assigned
  have column : Fragment.Alike (Fragment.column (some table) key.label)
      (Fragment.column (some table) key'.label) := by
    cases hkey
    exact .refl _
  have equal := (Fragment.Alike.refl [.fixed " = "]).append hkey.held
  exact ((((Fragment.Alike.refl _).append (.joined assigned)).append (.refl _)).append column).append equal

end Statement

/-! ### Requests -/

namespace Request

variable {κ ρ : Type} [Kinds κ]

/-- The requests differ only in values: those of a row, those that a filter compares with, and the limit. -/
inductive Alike : Request ρ → Request ρ → Prop where
  | insert (table : String) (row row' : ρ) : Alike (.insert table row) (.insert table row')
  | update (table : String) (row row' : ρ) : Alike (.update table row) (.update table row')
  | select (table : String) {filter filter' : Option Filter} (order : Option SortBy) {limit limit' : Option Nat}
      (filters : Option.Rel (fun f g => Filter.alike f g = true) filter filter')
      (limits : limit.isSome = limit'.isSome) :
      Alike (.select table filter order limit) (.select table filter' order limit')
  | delete (table : String) {filter filter' : Option Filter}
      (filters : Option.Rel (fun f g => Filter.alike f g = true) filter filter') :
      Alike (.delete table filter) (.delete table filter')

theorem cells_alike (schema : Schema κ ρ) (row row' : ρ) :
    List.Forall₂ Assignment.Alike (schema.columns.map (Column.assignment row))
      (schema.columns.map (Column.assignment row')) := by
  rw [List.forall₂_map_left_iff, List.forall₂_map_right_iff, List.forall₂_same]
  exact fun column _ => .cell _ _ _ _

theorem limits_alike {limit limit' : Option Nat} (h : limit.isSome = limit'.isSome) :
    Fragment.Alike
      (match limit.map Schema.limitBinding with
        | some count => [.fixed " LIMIT ", .hole count]
        | none => [])
      (match limit'.map Schema.limitBinding with
        | some count => [.fixed " LIMIT ", .hole count]
        | none => []) := by
  cases limit <;> cases limit'
  · exact .nil
  · cases h
  · cases h
  · exact .cons (.fixed _) (.cons (.hole _ _ _) .nil)

/-- Requests that differ only in values are written alike, or they are refused alike. -/
theorem statement_agree (schema : Schema κ ρ) {a b : Request ρ} (h : a.Alike b) :
    Agree (fun s t => Fragment.Alike s.fragment t.fragment) (a.statement schema) (b.statement schema) := by
  cases h with
  | insert table row row' => exact .ok (Statement.insert_alike (cells_alike schema row row'))
  | update table row row' => exact .ok (Statement.update_alike (cells_alike schema row row') (.cell _ _ _ _))
  | select table order filters limits =>
    refine (Schema.condition_agree table filters).map fun p q same => ?_
    exact (((Fragment.Alike.refl _).append same).append (.refl _)).append (limits_alike limits)
  | delete table filters =>
    exact (Schema.condition_agree table filters).map fun _ _ same => (Fragment.Alike.refl _).append same

/-- Requests that differ only in values come to one text, with as many values bound and of the same types, or both are
    refused with one error. -/
theorem alike_compiled (schema : Schema κ ρ) {a b : Request ρ} (h : a.Alike b) :
    (∃ s t, a.statement schema = .ok s ∧ b.statement schema = .ok t ∧ s.text = t.text ∧
        s.bindings.map Binding.root = t.bindings.map Binding.root) ∨
      ∃ e, a.statement schema = .error e ∧ b.statement schema = .error e := by
  have agree := statement_agree schema h
  generalize a.statement schema = x at agree
  generalize b.statement schema = y at agree
  cases agree with
  | ok same => exact Or.inl ⟨_, _, rfl, rfl, same.text_eq, same.roots_eq⟩
  | error e => exact Or.inr ⟨e, rfl, rfl⟩

/-- The filter asks what `puzzling` asks of other values, which look like the ends of a condition. -/
def hostile : Filter :=
  .not (.any [.atom ⟨⟨"?\" = ?", .int⟩, .lessEqual, .text "3; DROP TABLE \"?\" --"⟩, .all [],
    .atom ⟨⟨"", .text⟩, .equal, .text "' OR '1' = '1"⟩])

theorem hostile_compiled :
    (select "?" (some puzzling) none (some 3) : Request Book).Alike (select "?" (some hostile) none (some (2 ^ 64))) ∧
      ∃ s t, (select "?" (some puzzling) none (some 3)).statement books = .ok s ∧
        (select "?" (some hostile) none (some (2 ^ 64))).statement books = .ok t ∧ s.text = t.text := by
  have alike : (select "?" (some puzzling) none (some 3) : Request Book).Alike
      (select "?" (some hostile) none (some (2 ^ 64))) := .select "?" none (.some rfl) rfl
  rcases alike_compiled books alike with ⟨s, t, compiled, compiled', same, -⟩ | ⟨e, refused, -⟩
  · exact ⟨alike, s, t, compiled, compiled', same⟩
  · cases refused

end Request

end TypedTables
