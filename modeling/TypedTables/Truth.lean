/-!
# Three-valued truth

A comparison with NULL is neither true nor false. The connectives treat the unknown value as one that could be
either: a conjunction with a false part is false, a disjunction with a true part is true. -/

namespace TypedTables

/-- A truth value of a predicate. -/
inductive Truth where
  | yes
  | no
  | unknown
  deriving DecidableEq, Inhabited

namespace Truth

def ofBool (b : Bool) : Truth := if b then yes else no

/-- True only, which is what a predicate has to be of a row for the row to be selected. -/
def holds : Truth → Bool
  | yes => true
  | _ => false

def and : Truth → Truth → Truth
  | no, _ | _, no => no
  | yes, t => t
  | unknown, _ => unknown

def or : Truth → Truth → Truth
  | yes, _ | _, yes => yes
  | no, t => t
  | unknown, _ => unknown

def not : Truth → Truth
  | yes => no
  | no => yes
  | unknown => unknown

theorem and_assoc (a b c : Truth) : (a.and b).and c = a.and (b.and c) := by cases a <;> cases b <;> cases c <;> rfl

theorem or_assoc (a b c : Truth) : (a.or b).or c = a.or (b.or c) := by cases a <;> cases b <;> cases c <;> rfl

instance : Std.Associative and := ⟨and_assoc⟩

instance : Std.Associative or := ⟨or_assoc⟩

theorem and_yes (a : Truth) : a.and yes = a := by cases a <;> rfl

theorem or_no (a : Truth) : a.or no = a := by cases a <;> rfl

theorem yes_and (a : Truth) : yes.and a = a := by cases a <;> rfl

theorem no_or (a : Truth) : no.or a = a := by cases a <;> rfl

theorem not_not (a : Truth) : a.not.not = a := by cases a <;> rfl

end Truth

end TypedTables
