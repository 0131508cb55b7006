import Mathlib.Data.List.Forall2
import TypedTables.Formula

/-!
# Formulas as trees

Induction over formulas, and what two folds have in common: what relates their parts relates their results, where both
go over one formula (`fold_related`) and where one goes over what is left of the other's formula after a check, which
changes the atoms and nothing else (`fold_check`). Evaluation is a fold, and so is everything that is written of a
formula. -/

namespace TypedTables.Formula

variable {α β γ δ ε : Type}

@[elab_as_elim]
theorem induction {motive : Formula α → Prop} (atom : ∀ a, motive (.atom a))
    (all : ∀ members, (∀ m ∈ members, motive m) → motive (.all members))
    (any : ∀ members, (∀ m ∈ members, motive m) → motive (.any members))
    (not : ∀ member, motive member → motive (.not member)) : ∀ f, motive f
  | .atom a => atom a
  | .all members => all members fun m _ => induction atom all any not m
  | .any members => any members fun m _ => induction atom all any not m
  | .not member => not member (induction atom all any not member)

theorem atomsOf_eq (members : List (Formula α)) : atomsOf members = members.flatMap atoms := by
  induction members with
  | nil => rfl
  | cons member members ih => rw [atomsOf, ih, List.flatMap_cons]

theorem mem_atomsOf {members : List (Formula α)} {a : α} : a ∈ atomsOf members ↔ ∃ m ∈ members, a ∈ m.atoms := by
  rw [atomsOf_eq, List.mem_flatMap]

/-! ### Folds -/

section
variable {onAtom : α → γ} {onAll onAny : List γ → γ} {onNot : γ → γ}

theorem foldEach_eq (members : List (Formula α)) :
    foldEach onAtom onAll onAny onNot members = members.map (fold onAtom onAll onAny onNot) := by
  induction members with
  | nil => rfl
  | cons member members ih => rw [foldEach, ih, List.map_cons]

/-- What is put together of the atoms alone, whatever the groups are. -/
theorem fold_eq_atoms {onGroup : List γ → γ} {whole : List α → γ} (atom : ∀ a, onAtom a = whole [a])
    (group : ∀ lists : List (List α), onGroup (lists.map whole) = whole lists.flatten) (f : Formula α) :
    f.fold onAtom onGroup onGroup id = whole f.atoms := by
  have each (members : List (Formula α)) (ih : ∀ m ∈ members, m.fold onAtom onGroup onGroup id = whole m.atoms) :
      onGroup (members.map (fold onAtom onGroup onGroup id)) = whole (atomsOf members) := by
    rw [List.map_congr_left ih, atomsOf_eq, List.flatMap_def, ← group, List.map_map]
    rfl
  induction f using induction with
  | atom a => exact atom a
  | all members ih => rw [fold, foldEach_eq, each members ih, atoms]
  | any members ih => rw [fold, foldEach_eq, each members ih, atoms]
  | not member ih => rw [fold, ih, atoms, id]

end

/-! ### Evaluation -/

theorem eval_all (v : α → Truth) (members : List (Formula α)) :
    (all members).eval v = (members.map (eval v)).foldr Truth.and .yes := by
  rw [eval]
  induction members with
  | nil => rfl
  | cons m members ih => rw [evalAll, ih, List.map_cons, List.foldr_cons]

theorem eval_any (v : α → Truth) (members : List (Formula α)) :
    (any members).eval v = (members.map (eval v)).foldr Truth.or .no := by
  rw [eval]
  induction members with
  | nil => rfl
  | cons m members ih => rw [evalAny, ih, List.map_cons, List.foldr_cons]

theorem eval_eq_fold (v : α → Truth) (f : Formula α) :
    f.eval v = f.fold v (List.foldr Truth.and .yes) (List.foldr Truth.or .no) Truth.not := by
  induction f using induction with
  | atom a => rfl
  | all members ih => rw [eval_all, fold, foldEach_eq, List.map_congr_left ih]
  | any members ih => rw [eval_any, fold, foldEach_eq, List.map_congr_left ih]
  | not member ih => rw [eval, ih, fold]

theorem holds_or (a b : Truth) : (a.or b).holds = (a.holds || b.holds) := by cases a <;> cases b <;> rfl

/-- A disjunction is true where one of its members is. -/
theorem holds_evalAny (v : α → Truth) (members : List (Formula α)) :
    (evalAny v members).holds = members.any fun m => (m.eval v).holds := by
  induction members with
  | nil => rfl
  | cons m members ih => rw [evalAny, holds_or, ih, List.any_cons]

/-! ### Checks -/

section
variable {g : α → Except ε β}

theorem checkEach_eq_ok {members : List (Formula α)} {checked : List (Formula β)}
    (h : checkEach g members = .ok checked) : List.Forall₂ (fun m p => m.check g = .ok p) members checked := by
  induction members generalizing checked with
  | nil =>
    cases h
    exact .nil
  | cons m members ih =>
    obtain ⟨p, hm, h⟩ := eq_ok_of_bind h
    obtain ⟨ps, hms, h⟩ := eq_ok_of_bind h
    cases h
    exact .cons hm (ih hms)

section
variable {R : γ → δ → Prop} {onAtom : β → γ} {onAll onAny : List γ → γ} {onNot : γ → γ} {onAtom' : α → δ}
  {onAll' onAny' : List δ → δ} {onNot' : δ → δ}

/-- What relates the parts of a checked formula to those of the formula relates the two. -/
theorem fold_check {f : Formula α} {p : Formula β} (h : f.check g = .ok p)
    (atom : ∀ a ∈ f.atoms, ∀ b, g a = .ok b → R (onAtom b) (onAtom' a))
    (all : ∀ {xs ys}, List.Forall₂ R xs ys → R (onAll xs) (onAll' ys))
    (any : ∀ {xs ys}, List.Forall₂ R xs ys → R (onAny xs) (onAny' ys)) (not : ∀ {x y}, R x y → R (onNot x) (onNot' y)) :
    R (p.fold onAtom onAll onAny onNot) (f.fold onAtom' onAll' onAny' onNot') := by
  have each : ∀ {members : List (Formula α)} {checked : List (Formula β)}, checkEach g members = .ok checked →
      (∀ m ∈ members, ∀ p, m.check g = .ok p → (∀ a ∈ m.atoms, ∀ b, g a = .ok b → R (onAtom b) (onAtom' a)) →
        R (p.fold onAtom onAll onAny onNot) (m.fold onAtom' onAll' onAny' onNot')) →
      (∀ a ∈ atomsOf members, ∀ b, g a = .ok b → R (onAtom b) (onAtom' a)) →
      List.Forall₂ R (foldEach onAtom onAll onAny onNot checked) (foldEach onAtom' onAll' onAny' onNot' members) := by
    intro members checked h ih atom
    have related := checkEach_eq_ok h
    clear h
    induction related with
    | nil => exact .nil
    | @cons m p members checked hm _ ih' =>
      refine .cons (ih m List.mem_cons_self p hm fun a ha => atom a (mem_atomsOf.mpr ⟨m, List.mem_cons_self, ha⟩)) ?_
      refine ih' (fun m hm => ih m (List.mem_cons_of_mem _ hm)) fun a ha => ?_
      obtain ⟨m, hm, ha⟩ := mem_atomsOf.mp ha
      exact atom a (mem_atomsOf.mpr ⟨m, List.mem_cons_of_mem _ hm, ha⟩)
  induction f using induction generalizing p with
  | atom a =>
    obtain ⟨b, ha, rfl⟩ := eq_ok_of_map h
    exact atom a (List.mem_singleton_self a) b ha
  | all members ih =>
    obtain ⟨checked, hms, rfl⟩ := eq_ok_of_map h
    exact all (each hms (fun m hm p hp => ih m hm hp) atom)
  | any members ih =>
    obtain ⟨checked, hms, rfl⟩ := eq_ok_of_map h
    exact any (each hms (fun m hm p hp => ih m hm hp) atom)
  | not member ih =>
    obtain ⟨p', hm, rfl⟩ := eq_ok_of_map h
    exact not (ih hm atom)

end

/-- A formula passes a check that changes nothing as it is. -/
theorem check_ok (f : Formula α) : f.check (ε := ε) Except.ok = .ok f := by
  have each : ∀ members : List (Formula α), (∀ m ∈ members, m.check (ε := ε) Except.ok = .ok m) →
      checkEach (ε := ε) Except.ok members = .ok members := by
    intro members ih
    induction members with
    | nil => rfl
    | cons m members ih' =>
      rw [checkEach, ih m List.mem_cons_self, ih' fun m hm => ih m (List.mem_cons_of_mem _ hm)]
      rfl
  induction f using induction with
  | atom a => rfl
  | all members ih => rw [check, each members ih]; rfl
  | any members ih => rw [check, each members ih]; rfl
  | not member ih => rw [check, ih]; rfl

/-- What relates the parts of a formula relates the whole. -/
theorem fold_related {R : γ → δ → Prop} {onAtom : α → γ} {onAll onAny : List γ → γ} {onNot : γ → γ} {onAtom' : α → δ}
    {onAll' onAny' : List δ → δ} {onNot' : δ → δ} (f : Formula α) (atom : ∀ a ∈ f.atoms, R (onAtom a) (onAtom' a))
    (all : ∀ {xs ys}, List.Forall₂ R xs ys → R (onAll xs) (onAll' ys))
    (any : ∀ {xs ys}, List.Forall₂ R xs ys → R (onAny xs) (onAny' ys)) (not : ∀ {x y}, R x y → R (onNot x) (onNot' y)) :
    R (f.fold onAtom onAll onAny onNot) (f.fold onAtom' onAll' onAny' onNot') :=
  fold_check (check_ok (ε := Empty) f) (fun a ha b same => by cases same; exact atom a ha) all any not

/-- A check passes where it passes at every atom. -/
theorem exists_check {f : Formula α} (h : ∀ a ∈ f.atoms, ∃ b, g a = .ok b) : ∃ p, f.check g = .ok p := by
  rcases hp : f.check g with e | p
  · obtain ⟨a, ha, failed⟩ := check_eq_error f hp
    obtain ⟨b, passed⟩ := h a ha
    rw [failed] at passed
    cases passed
  · exact ⟨p, rfl⟩

end

end TypedTables.Formula
