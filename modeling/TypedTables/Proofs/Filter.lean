import TypedTables.Proofs.Sql.Condition

/-!
# Filters by their comparisons

Whether a filter can be compiled, why not, and which values it binds depends on its comparisons from left to right and
on nothing else of its tree (`bound_eq`). So a filter is refused for the first comparison whose flags are no
operator (`compile_refused`). The combinators put the comparisons of their parts one behind the other, whether they
flatten or not, and mean what the connectives mean (`combined`). -/

namespace TypedTables

namespace Formula

variable {α β ε : Type}

/-- A check goes over the atoms from left to right. -/
theorem check_atoms (f : Formula α) (g : α → Except ε β) : (f.check g).map atoms = f.atoms.mapM g := by
  have each (members : List (Formula α)) (ih : ∀ m ∈ members, (m.check g).map atoms = m.atoms.mapM g) :
      (checkEach g members).map atomsOf = (atomsOf members).mapM g := by
    induction members with
    | nil => rfl
    | cons m members ih' =>
      have others := ih' fun m hm => ih m (List.mem_cons_of_mem _ hm)
      rw [checkEach, atomsOf, List.mapM_append, ← ih m List.mem_cons_self, ← others]
      cases m.check g with
      | error e => rfl
      | ok p => cases checkEach g members <;> rfl
  induction f using induction with
  | atom a =>
    show ((g a).map _).map _ = [a].mapM g
    rw [List.mapM_cons]
    cases g a <;> rfl
  | all members ih =>
    rw [check, atoms, ← each members ih]
    cases checkEach g members <;> rfl
  | any members ih =>
    rw [check, atoms, ← each members ih]
    cases checkEach g members <;> rfl
  | not member ih =>
    rw [check, atoms, ← ih]
    cases member.check g <;> rfl

end Formula

/-- A comparison has an operator where its flags are those of `=`, `>`, `<`, `>=` or `<=`. -/
theorem Operator.comparator?_isSome_iff {op : Operator} : op.comparator?.isSome ↔ op.flags ∈ [1, 2, 4, 3, 5] := by
  obtain ⟨flags⟩ := op
  have equals (n : UInt8) : (⟨flags⟩ : Operator) = ⟨n⟩ ↔ flags = n := by rw [Operator.mk.injEq]
  have least : (2 ||| 1 : UInt8) = 3 := rfl
  have greatest : (4 ||| 1 : UInt8) = 5 := rfl
  simp only [comparator?, equal, greater, less, greaterEqual, lessEqual, equals, least, greatest]
  split_ifs <;> simp_all

theorem Operator.exists_comparator_iff {op : Operator} :
    (∃ c, op.comparator = .ok c) ↔ op.flags ∈ [1, 2, 4, 3, 5] := by
  rw [← comparator?_isSome_iff, comparator]
  cases op.comparator? <;> simp

namespace Comparison

/-- The value that a comparison binds, where it has an operator. -/
def binding (c : Comparison) : Except Error Binding := c.test.map fun _ => ⟨c.column.root, c.value⟩

theorem exists_test_iff {c : Comparison} : (∃ t, c.test = .ok t) ↔ c.operator.flags ∈ [1, 2, 4, 3, 5] := by
  rw [← Operator.exists_comparator_iff, test]
  cases c.operator.comparator <;> simp [Except.map]

theorem test_eq_error_iff {c : Comparison} {e : Error} : c.test = .error e ↔
    c.operator.flags ∉ [1, 2, 4, 3, 5] ∧ e = .unsupportedOperator c.operator.flags := by
  constructor
  · intro failed
    refine ⟨fun accepted => ?_, Operator.comparator_eq_error (eq_error_of_map failed)⟩
    obtain ⟨t, passed⟩ := exists_test_iff.mpr accepted
    rw [failed] at passed
    cases passed
  · rintro ⟨refused, rfl⟩
    rcases h : c.test with e | t
    · rw [Operator.comparator_eq_error (eq_error_of_map h)]
    · exact absurd (exists_test_iff.mp ⟨t, h⟩) refused

end Comparison

namespace Filter

theorem comparisonCount_eq (f : Filter) : f.comparisonCount = f.atoms.length :=
  Formula.fold_eq_atoms (fun _ => rfl) (fun _ => List.length_flatten.symm) f

/-- The values that a filter binds, in the order of their placeholders. -/
def bound (f : Filter) (table : Option String) : Except Error (List Binding) :=
  (f.compile table .bound).map Compiled.bindings

/-- A filter binds the values of its comparisons from left to right, unless one has no operator. -/
theorem bound_eq (f : Filter) (table : Option String) : f.bound table = f.atoms.mapM Comparison.binding := by
  have binding : f.atoms.mapM Comparison.binding = (f.atoms.mapM Comparison.test).map fun _ => f.values := by
    rw [values_eq_atoms]
    exact mapM_map_const _ _
  rw [binding, ← Formula.check_atoms, bound, compile, predicate]
  cases checked : Formula.check Comparison.test f with
  | error e => rfl
  | ok p => exact congrArg Except.ok (bindings_predicate table checked)

theorem compile_eq_error_iff {f : Filter} {table : Option String} {mode : Mode} {e : Error} :
    f.compile table mode = .error e ↔ f.atoms.mapM Comparison.test = .error e := by
  rw [← Formula.check_atoms, compile, predicate]
  cases Formula.check Comparison.test f <;> simp [Except.map]

theorem exists_compile_iff {f : Filter} {table : Option String} {mode : Mode} :
    (∃ compiled, f.compile table mode = .ok compiled) ↔ ∃ tests, f.atoms.mapM Comparison.test = .ok tests := by
  rw [← Formula.check_atoms, compile, predicate]
  cases Formula.check Comparison.test f <;> simp [Except.map]

/-- A filter is compiled where every comparison has an operator, and is otherwise refused for the first that has none.
    It binds as many values as it makes comparisons. -/
theorem compile_refused (f : Filter) (table : Option String) (mode : Mode) :
    ((∃ compiled, f.compile table mode = .ok compiled) ↔ ∀ c ∈ f.atoms, c.operator.flags ∈ [1, 2, 4, 3, 5]) ∧
      (∀ e, f.compile table mode = .error e ↔ ∃ before c after, f.atoms = before ++ c :: after ∧
        (∀ b ∈ before, b.operator.flags ∈ [1, 2, 4, 3, 5]) ∧ c.operator.flags ∉ [1, 2, 4, 3, 5] ∧
          e = .unsupportedOperator c.operator.flags) ∧
      ∀ compiled, f.compile table .bound = .ok compiled → compiled.bindings.length = f.comparisonCount := by
  refine ⟨?_, fun e => ?_, fun compiled h => ?_⟩
  · rw [exists_compile_iff, exists_mapM_iff]
    exact forall₂_congr fun c _ => Comparison.exists_test_iff
  · rw [compile_eq_error_iff, mapM_eq_error_iff]
    simp only [Comparison.exists_test_iff, Comparison.test_eq_error_iff]
  · have walked : f.atoms.mapM Comparison.binding = .ok compiled.bindings := by
      rw [← bound_eq f table, bound, h]
      rfl
    rw [comparisonCount_eq]
    exact length_of_mapM walked

end Filter

/-! ### Combinators -/

namespace Formula

variable {α : Type} (v : α → Truth)

theorem eval_and (f g : Formula α) : (f.and g).eval v = (f.eval v).and (g.eval v) := by
  have flattened (members : List (Formula α)) :
      (all (members ++ [g])).eval v = ((all members).eval v).and (g.eval v) := by
    have last (truths : List Truth) (t : Truth) :
        truths.foldr Truth.and (Truth.yes.and t) = (truths.foldr Truth.and .yes).and t := List.foldr_assoc
    rw [eval_all, eval_all, List.map_append, List.map_singleton]
    rw [List.foldr_append, List.foldr_cons, List.foldr_nil, Truth.and_yes, ← last, Truth.yes_and]
  have paired (f : Formula α) : (all [f, g]).eval v = (f.eval v).and (g.eval v) := by
    rw [eval, evalAll, evalAll, evalAll, Truth.and_yes]
  -- Only a conjunction takes the other as one more member; whatever else is on the left becomes a member itself.
  cases f with
  | all members => exact flattened members
  | atom a => exact paired (.atom a)
  | any members => exact paired (.any members)
  | not member => exact paired (.not member)

theorem eval_or (f g : Formula α) : (f.or g).eval v = (f.eval v).or (g.eval v) := by
  have flattened (members : List (Formula α)) :
      (any (members ++ [g])).eval v = ((any members).eval v).or (g.eval v) := by
    have last (truths : List Truth) (t : Truth) :
        truths.foldr Truth.or (Truth.no.or t) = (truths.foldr Truth.or .no).or t := List.foldr_assoc
    rw [eval_any, eval_any, List.map_append, List.map_singleton]
    rw [List.foldr_append, List.foldr_cons, List.foldr_nil, Truth.or_no, ← last, Truth.no_or]
  have paired (f : Formula α) : (any [f, g]).eval v = (f.eval v).or (g.eval v) := by
    rw [eval, evalAny, evalAny, evalAny, Truth.or_no]
  cases f with
  | any members => exact flattened members
  | atom a => exact paired (.atom a)
  | all members => exact paired (.all members)
  | not member => exact paired (.not member)

theorem eval_negate (f : Formula α) : f.negate.eval v = (f.eval v).not := by
  cases f with
  | not member => exact (Truth.not_not _).symm
  | atom a => rfl
  | all members => rfl
  | any members => rfl

theorem atoms_all (members : List (Formula α)) : (all members).atoms = members.flatMap atoms := by
  rw [atoms, atomsOf_eq]

theorem atoms_any (members : List (Formula α)) : (any members).atoms = members.flatMap atoms := by
  rw [atoms, atomsOf_eq]

theorem atoms_and (f g : Formula α) : (f.and g).atoms = f.atoms ++ g.atoms := by
  have paired (f : Formula α) : (all [f, g]).atoms = f.atoms ++ g.atoms := by
    rw [atoms_all, List.flatMap_cons, List.flatMap_singleton]
  cases f with
  | all members =>
    show (all (members ++ [g])).atoms = _
    rw [atoms_all, atoms_all, List.flatMap_append, List.flatMap_singleton]
  | atom a => exact paired (.atom a)
  | any members => exact paired (.any members)
  | not member => exact paired (.not member)

theorem atoms_or (f g : Formula α) : (f.or g).atoms = f.atoms ++ g.atoms := by
  have paired (f : Formula α) : (any [f, g]).atoms = f.atoms ++ g.atoms := by
    rw [atoms_any, List.flatMap_cons, List.flatMap_singleton]
  cases f with
  | any members =>
    show (any (members ++ [g])).atoms = _
    rw [atoms_any, atoms_any, List.flatMap_append, List.flatMap_singleton]
  | atom a => exact paired (.atom a)
  | all members => exact paired (.all members)
  | not member => exact paired (.not member)

theorem atoms_negate (f : Formula α) : f.negate.atoms = f.atoms := by cases f <;> rfl

end Formula

namespace Filter

/-- A filter put together of parts means what `meaning` says. Its comparisons are those of the parts one behind the
    other, and so are the values that it binds; it is refused for the first comparison for which a part is. -/
structure Composed (parts : List Filter) (meaning : (Comparison → Truth) → Truth) (whole : Filter) : Prop where
  eval : ∀ v, whole.eval v = meaning v
  atoms : whole.atoms = parts.flatMap Formula.atoms
  count : whole.comparisonCount = (parts.map comparisonCount).foldr (· + ·) 0
  bound : ∀ table, whole.bound table = (parts.mapM (Filter.bound · table)).map List.flatten

theorem Composed.of_atoms {parts : List Filter} {meaning : (Comparison → Truth) → Truth} {whole : Filter}
    (eval : ∀ v, whole.eval v = meaning v) (atoms : whole.atoms = parts.flatMap Formula.atoms) :
    Composed parts meaning whole where
  eval := eval
  atoms := atoms
  count := by
    rw [comparisonCount_eq, atoms, List.length_flatMap]
    exact congrArg (List.foldr _ 0) (List.map_congr_left fun part _ => (comparisonCount_eq part).symm)
  bound table := by
    simp only [bound_eq, atoms, mapM_flatMap_eq]

/-- The combinators mean what the connectives mean and keep the comparisons in order, so it makes no difference to what
    is selected or bound how a chain of them is grouped. -/
theorem combined (f g h : Filter) (fs : List Filter) :
    Composed [f, g] (fun v => (f.eval v).and (g.eval v)) (f.and g) ∧
      Composed [f, g] (fun v => (f.eval v).or (g.eval v)) (f.or g) ∧
      Composed fs (fun v => (fs.map (Formula.eval v)).foldr Truth.and .yes) (.all fs) ∧
      Composed fs (fun v => (fs.map (Formula.eval v)).foldr Truth.or .no) (.any fs) ∧
      Composed [f] (fun v => (f.eval v).not) f.negate ∧
      (∀ v, ((f.and g).and h).eval v = (f.and (g.and h)).eval v) ∧
      ∀ table, Filter.bound ((f.and g).and h) table = Filter.bound (f.and (g.and h)) table := by
  have pair : [f, g].flatMap Formula.atoms = f.atoms ++ g.atoms := by
    rw [List.flatMap_cons, List.flatMap_singleton]
  refine ⟨?_, ?_, ?_, ?_, ?_, fun v => ?_, fun table => ?_⟩
  · exact .of_atoms (fun v => Formula.eval_and v f g) ((Formula.atoms_and f g).trans pair.symm)
  · exact .of_atoms (fun v => Formula.eval_or v f g) ((Formula.atoms_or f g).trans pair.symm)
  · exact .of_atoms (fun v => Formula.eval_all v fs) (Formula.atoms_all fs)
  · exact .of_atoms (fun v => Formula.eval_any v fs) (Formula.atoms_any fs)
  · refine .of_atoms (fun v => Formula.eval_negate v f) ?_
    rw [Formula.atoms_negate, List.flatMap_singleton]
  · simp only [Formula.eval_and, Truth.and_assoc]
  · simp only [bound_eq, Formula.atoms_and, List.append_assoc]

end Filter

end TypedTables
