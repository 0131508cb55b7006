import TypedTables.Error
import TypedTables.Truth

/-!
# Formulas

Trees of atoms joined by conjunction, disjunction and negation. Filters and predicates are formulas over different
atoms. The combinators keep a chain of conjunctions (or disjunctions) flat when it grows on its right, and undo a
negation rather than repeat it; `eval` is what all of them mean. -/

namespace TypedTables

/-- A formula over atoms. A group may have any number of members, none included. -/
inductive Formula (α : Type) where
  | atom (a : α)
  | all (members : List (Formula α))
  | any (members : List (Formula α))
  | not (member : Formula α)
  deriving Inhabited

namespace Formula

variable {α β : Type}

/-- The conjunction of two formulas. A conjunction on the left takes the other as its last member. -/
def and : Formula α → Formula α → Formula α
  | all members, other => all (members ++ [other])
  | self, other => all [self, other]

/-- The disjunction of two formulas. A disjunction on the left takes the other as its last member. -/
def or : Formula α → Formula α → Formula α
  | any members, other => any (members ++ [other])
  | self, other => any [self, other]

/-- The negation of a formula. That of a negation is what it negates. -/
def negate : Formula α → Formula α
  | not member => member
  | self => not self

mutual

/-- The atoms from left to right. -/
def atoms : Formula α → List α
  | atom a => [a]
  | all members => atomsOf members
  | any members => atomsOf members
  | not member => member.atoms

/-- The atoms of the members from left to right. -/
def atomsOf : List (Formula α) → List α
  | [] => []
  | member :: members => member.atoms ++ atomsOf members

end

mutual

/-- The truth of a formula where each atom has the truth that `v` gives it. -/
def eval (v : α → Truth) : Formula α → Truth
  | atom a => v a
  | all members => evalAll v members
  | any members => evalAny v members
  | not member => (member.eval v).not

/-- The truth of a conjunction. -/
def evalAll (v : α → Truth) : List (Formula α) → Truth
  | [] => .yes
  | member :: members => (member.eval v).and (evalAll v members)

/-- The truth of a disjunction. -/
def evalAny (v : α → Truth) : List (Formula α) → Truth
  | [] => .no
  | member :: members => (member.eval v).or (evalAny v members)

end

mutual

/-- The formula with every atom checked and replaced, or the failure of the leftmost atom that fails. -/
def check {ε : Type} (f : α → Except ε β) : Formula α → Except ε (Formula β)
  | atom a => (f a).map atom
  | all members => (checkEach f members).map all
  | any members => (checkEach f members).map any
  | not member => (member.check f).map not

/-- The members with every atom checked and replaced. -/
def checkEach {ε : Type} (f : α → Except ε β) : List (Formula α) → Except ε (List (Formula β))
  | [] => .ok []
  | member :: members => do
    let first ← member.check f
    let rest ← checkEach f members
    pure (first :: rest)

end

mutual

/-- A check fails only at an atom. -/
theorem check_eq_error {ε : Type} {f : α → Except ε β} {e : ε} (formula : Formula α)
    (h : formula.check f = .error e) : ∃ a ∈ formula.atoms, f a = .error e := by
  cases formula with
  | atom a => exact ⟨a, List.mem_singleton_self a, eq_error_of_map h⟩
  | all members => exact checkEach_eq_error members (eq_error_of_map h)
  | any members => exact checkEach_eq_error members (eq_error_of_map h)
  | not member => exact check_eq_error member (eq_error_of_map h)

theorem checkEach_eq_error {ε : Type} {f : α → Except ε β} {e : ε} (members : List (Formula α))
    (h : checkEach f members = .error e) : ∃ a ∈ atomsOf members, f a = .error e := by
  cases members with
  | nil => cases h
  | cons member members =>
    simp only [atomsOf, List.mem_append]
    rcases eq_error_of_bind h with failed | ⟨_, -, h⟩
    · obtain ⟨a, ha, failed⟩ := check_eq_error member failed
      exact ⟨a, Or.inl ha, failed⟩
    rcases eq_error_of_bind h with failed | ⟨_, -, h⟩
    · obtain ⟨a, ha, failed⟩ := checkEach_eq_error members failed
      exact ⟨a, Or.inr ha, failed⟩
    · cases h

end

mutual

/-- Equality of formulas where atoms are compared by `eq`. -/
def same (eq : α → α → Bool) : Formula α → Formula α → Bool
  | atom a, atom b => eq a b
  | all xs, all ys => sameEach eq xs ys
  | any xs, any ys => sameEach eq xs ys
  | not x, not y => x.same eq y
  | _, _ => false

/-- Equality of lists of formulas, member by member. -/
def sameEach (eq : α → α → Bool) : List (Formula α) → List (Formula α) → Bool
  | [], [] => true
  | x :: xs, y :: ys => x.same eq y && sameEach eq xs ys
  | _, _ => false

end

mutual

/-- A formula put together again by other operations in place of its connectives. -/
def fold {γ : Type} (onAtom : α → γ) (onAll onAny : List γ → γ) (onNot : γ → γ) : Formula α → γ
  | atom a => onAtom a
  | all members => onAll (foldEach onAtom onAll onAny onNot members)
  | any members => onAny (foldEach onAtom onAll onAny onNot members)
  | not member => onNot (member.fold onAtom onAll onAny onNot)

/-- The members put together one by one. -/
def foldEach {γ : Type} (onAtom : α → γ) (onAll onAny : List γ → γ) (onNot : γ → γ) : List (Formula α) → List γ
  | [] => []
  | member :: members => member.fold onAtom onAll onAny onNot :: foldEach onAtom onAll onAny onNot members

end

end Formula

end TypedTables
