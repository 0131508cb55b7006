import TypedTables.Proofs.Sql.Template
import TypedTables.Store.Collation

/-!
# Conditions are read as they are meant

A reader of conditions: comparisons bind more strongly than `NOT`, `NOT` more strongly than `AND`, `AND` more strongly
than `OR`, and parentheses come before all of them. Each place takes the next of the values. What it reads of a compiled
filter is the filter's tree, but for groups of one member, which are the member, and groups without members, which are
compared numbers. So the condition means what the filter means (`read_compile`). -/

namespace TypedTables

namespace Sql

/-! ### Values in their places -/

/-- A lexeme that is no place, or the value that fills a place. -/
inductive Symbol where
  | lexeme (l : Lexeme)
  | value (b : Binding)
  deriving DecidableEq

/-- The lexemes with the places filled in order. There are as many values as places. -/
def fill : List Lexeme → List Binding → Option (List Symbol)
  | [], bs => if bs.isEmpty then some [] else none
  | l :: ls, bs =>
    if l = .hole then
      match bs with
      | b :: bs => (fill ls bs).map (.value b :: ·)
      | [] => none
    else (fill ls bs).map (.lexeme l :: ·)

/-- The symbols are the lexemes with the values in the places. -/
inductive Filled : List Lexeme → List Binding → List Symbol → Prop where
  | nil : Filled [] [] []
  | hole {ls bs ss} (b : Binding) (rest : Filled ls bs ss) : Filled (.hole :: ls) (b :: bs) (.value b :: ss)
  | lexeme {ls bs ss} (l : Lexeme) (h : l ≠ .hole) (rest : Filled ls bs ss) : Filled (l :: ls) bs (.lexeme l :: ss)

namespace Filled

variable {ls : List Lexeme} {bs : List Binding} {ss : List Symbol}

theorem word (s : String) (rest : Filled ls bs ss) : Filled (.word s :: ls) bs (.lexeme (.word s) :: ss) :=
  .lexeme _ (fun same => nomatch congrArg Lexeme.kind same) rest

theorem name (s : String) (rest : Filled ls bs ss) : Filled (.name s :: ls) bs (.lexeme (.name s) :: ss) :=
  .lexeme _ (fun same => nomatch congrArg Lexeme.kind same) rest

theorem number (s : String) (rest : Filled ls bs ss) : Filled (.number s :: ls) bs (.lexeme (.number s) :: ss) :=
  .lexeme _ (fun same => nomatch congrArg Lexeme.kind same) rest

theorem sign (s : String) (rest : Filled ls bs ss) : Filled (.sign s :: ls) bs (.lexeme (.sign s) :: ss) :=
  .lexeme _ (fun same => nomatch congrArg Lexeme.kind same) rest

end Filled

theorem Filled.fill_eq {ls : List Lexeme} {bs : List Binding} {ss : List Symbol} (h : Filled ls bs ss) :
    fill ls bs = some ss := by
  induction h with
  | nil => rfl
  | hole b _ ih => simp [fill, ih]
  | lexeme l h _ ih => simp [fill, h, ih]

theorem Filled.append {ls ms : List Lexeme} {bs cs : List Binding} {ss ts : List Symbol} (h : Filled ls bs ss)
    (k : Filled ms cs ts) : Filled (ls ++ ms) (bs ++ cs) (ss ++ ts) := by
  induction h with
  | nil => exact k
  | hole b _ ih => exact .hole b ih
  | lexeme l h _ ih => exact .lexeme l h ih

/-! ### Conditions -/

/-- What stands at a side of a comparison. -/
inductive Operand where
  | column (table : Option String) (label : String)
  | number (n : Nat)
  | value (b : Binding)
  deriving DecidableEq

structure Clause where
  left : Operand
  comparator : Comparator
  right : Operand
  deriving DecidableEq

/-- A condition as a statement states it. -/
abbrev Condition := Formula Clause

/-- The truth of a comparison: two numbers by their order, all else as `v` says. -/
def Clause.truth (v : Clause → Truth) (c : Clause) : Truth :=
  match c.left, c.right with
  | .number m, .number n => .ofBool (c.comparator.accepts (compare m n))
  | _, _ => v c

namespace Condition

/-- A part of a written condition. -/
inductive Part where
  | operand (o : Operand)
  | compare (c : Comparator)
  | and
  | or
  | not
  | opening
  | closing

/-- The comparison of a sign. -/
def comparator? (sign : String) : Option Comparator :=
  [.equal, .greater, .less, .greaterEqual, .lessEqual].find? (Comparator.symbol · = sign)

/-- What a symbol stands for on its own. -/
def part? : Symbol → Option Part
  | .value b => some (.operand (.value b))
  | .lexeme (.name label) => some (.operand (.column none label))
  | .lexeme (.number digits) => (Text.natural? digits.toList).map fun n => .operand (.number n)
  | .lexeme (.word word) =>
    if word = "AND" then some .and else if word = "OR" then some .or else if word = "NOT" then some .not else none
  | .lexeme (.sign sign) =>
    if sign = "(" then some .opening else if sign = ")" then some .closing else (comparator? sign).map .compare
  | _ => none

/-- The parts of a written condition. Two names with a point between them are a column with its table. -/
def parts : List Symbol → Option (List Part)
  | .lexeme (.name table) :: .lexeme (.sign ".") :: .lexeme (.name label) :: ss =>
    (parts ss).map (.operand (.column (some table) label) :: ·)
  | s :: ss => (part? s).bind fun first => (parts ss).map (first :: ·)
  | [] => some []

/-- Members joined, a single one being itself. -/
def joined (join : List Condition → Condition) : List Condition → Condition
  | [c] => c
  | cs => join cs

/-- The members of a group joined; a group without members compares one with a number. -/
def grouped (join : List Condition → Condition) (right : Nat) (members : List Condition) : Condition :=
  if members.isEmpty then .atom ⟨.number 1, .equal, .number right⟩ else joined join members

/-- What has been read behind the last parenthesis that is still open. -/
structure Frame where
  /-- The members of the disjunction that are complete. -/
  alternatives : List Condition := []
  /-- The members read of the conjunction that comes next. -/
  members : List Condition := []
  /-- How often the member that comes next is negated. -/
  negations : Nat := 0

namespace Frame

/-- A member has been read. -/
def take (frame : Frame) (c : Condition) : Frame :=
  { frame with members := frame.members ++ [.not^[frame.negations] c], negations := 0 }

def negate (frame : Frame) : Frame := { frame with negations := frame.negations + 1 }

/-- The conjunction is complete. -/
def close (frame : Frame) : List Condition := frame.alternatives ++ [joined .all frame.members]

/-- Another member of the disjunction begins. -/
def next (frame : Frame) : Frame := { alternatives := frame.close }

/-- All that has been read, as one condition. -/
def condition (frame : Frame) : Condition := joined .any frame.close

end Frame

mutual

/-- Reads what a member starts with. -/
def member (frame : Frame) (outer : List Frame) : List Part → Option Condition
  | .opening :: ps => member {} (frame :: outer) ps
  | .not :: ps => member frame.negate outer ps
  | .operand left :: .compare c :: .operand right :: ps => behind (frame.take (.atom ⟨left, c, right⟩)) outer ps
  | _ => none

/-- Reads what follows a member. -/
def behind (frame : Frame) (outer : List Frame) : List Part → Option Condition
  | .and :: ps => member frame outer ps
  | .or :: ps => member frame.next outer ps
  | .closing :: ps =>
    match outer with
    | parent :: outer => behind (parent.take frame.condition) outer ps
    | [] => none
  | [] =>
    match outer with
    | [] => some frame.condition
    | _ :: _ => none
  | _ => none

end

/-- The condition that some symbols state, all of them being read. -/
def ofSymbols? (ss : List Symbol) : Option Condition := (parts ss).bind (member {} [])

/-- The condition that a text with its values states. -/
def read? (compiled : Compiled) : Option Condition :=
  (fill (lexemes compiled.text.toList) compiled.bindings).bind ofSymbols?

/-! ### Reading what is written -/

/-- The lexemes with the values in their places stand for the parts, whatever follows. -/
def Reads (ls : List Lexeme) (bs : List Binding) (ps : List Part) : Prop :=
  ∃ ss, Filled ls bs ss ∧ ∀ rest, parts (ss ++ rest) = (parts rest).map (ps ++ ·)

theorem Reads.append {ls ms : List Lexeme} {bs cs : List Binding} {ps qs : List Part} (h : Reads ls bs ps)
    (k : Reads ms cs qs) : Reads (ls ++ ms) (bs ++ cs) (ps ++ qs) := by
  obtain ⟨ss, filled, read⟩ := h
  obtain ⟨ts, filled', read'⟩ := k
  refine ⟨ss ++ ts, filled.append filled', fun rest => ?_⟩
  rw [List.append_assoc, read, read', Option.map_map]
  exact congrArg (Option.map · (parts rest)) (funext fun _ => (List.append_assoc ..).symm)

theorem reads_opening : Reads [.sign "("] [] [.opening] := ⟨_, .sign "(" .nil, fun _ => rfl⟩

theorem reads_closing : Reads [.sign ")"] [] [.closing] := ⟨_, .sign ")" .nil, fun _ => rfl⟩

theorem reads_not : Reads [.word "NOT"] [] [.not] := ⟨_, .word "NOT" .nil, fun _ => rfl⟩

theorem part?_sign (c : Comparator) : part? (.lexeme (.sign c.symbol)) = some (.compare c) := by cases c <;> rfl

theorem parts_comparison (c : Comparator) (b : Binding) (rest : List Symbol) :
    parts (.lexeme (.sign c.symbol) :: .value b :: rest) =
      (parts rest).map ([.compare c, .operand (.value b)] ++ ·) := by
  have value : parts (.value b :: rest) = (parts rest).map (.operand (.value b) :: ·) := rfl
  rw [parts, part?_sign, Option.bind_some, value, Option.map_map]
  · rfl
  · exact nofun

theorem reads_test (table : Option String) (label : String) (c : Comparator) (b : Binding) :
    Reads (Template.column table label ++ [.sign c.symbol, .hole]) [b]
      [.operand (.column table label), .compare c, .operand (.value b)] := by
  have value : Filled [.hole] [b] [.value b] := .hole b .nil
  cases table with
  | none =>
    refine ⟨_, .name label (.sign c.symbol value), fun rest => ?_⟩
    have column : parts (.lexeme (.name label) :: .lexeme (.sign c.symbol) :: .value b :: rest) =
        (parts (.lexeme (.sign c.symbol) :: .value b :: rest)).map (.operand (.column none label) :: ·) := by
      cases c <;> rfl
    exact column.trans (by rw [parts_comparison, Option.map_map]; rfl)
  | some table =>
    refine ⟨_, .name table (.sign "." (.name label (.sign c.symbol value))), fun rest => ?_⟩
    have column : parts (.lexeme (.name table) :: .lexeme (.sign ".") :: .lexeme (.name label) ::
        .lexeme (.sign c.symbol) :: .value b :: rest) =
        (parts (.lexeme (.sign c.symbol) :: .value b :: rest)).map (.operand (.column (some table) label) :: ·) := rfl
    exact column.trans (by rw [parts_comparison, Option.map_map]; rfl)

/-! ### Members -/

/-- The lexemes with the values in their places are a member of a condition, which is `c`. -/
def States (ls : List Lexeme) (bs : List Binding) (c : Condition) : Prop :=
  ∃ ps, Reads ls bs ps ∧ ∀ frame outer rest, member frame outer (ps ++ rest) = behind (frame.take c) outer rest

theorem states_test (table : Option String) (label : String) (c : Comparator) (b : Binding) :
    States (Template.column table label ++ [.sign c.symbol, .hole]) [b]
      (.atom ⟨.column table label, c, .value b⟩) :=
  ⟨_, reads_test table label c b, fun _ _ _ => rfl⟩

/-- What stands between parentheses is a member. -/
theorem states_parens {ls : List Lexeme} {bs : List Binding} {ps : List Part} {last : Frame} (h : Reads ls bs ps)
    (inner : ∀ outer rest, member {} outer (ps ++ rest) = behind last outer rest) :
    States (Template.parens ls) bs last.condition := by
  have reads := (reads_opening.append h).append reads_closing
  rw [List.append_nil] at reads
  refine ⟨_, reads, fun frame outer rest => ?_⟩
  rw [List.append_assoc]
  exact inner (frame :: outer) (.closing :: rest)

theorem States.negation {ls : List Lexeme} {bs : List Binding} {c : Condition} (h : States ls bs c) :
    States (Template.negation ls) bs (.not c) := by
  obtain ⟨ps, reads, inner⟩ := h
  obtain ⟨qs, reads, read⟩ := states_parens reads (inner {})
  exact ⟨_, reads_not.append reads, fun frame outer rest => read frame.negate outer rest⟩

/-- The frame after members with something between them that turns the frame into the next one. -/
def Frame.takeAll (next : Frame → Frame) : Frame → List Condition → Frame
  | frame, [] => frame
  | frame, [c] => frame.take c
  | frame, c :: cs => takeAll next (next (frame.take c)) cs

theorem reads_sequence {α : Type} {word : String} {separator : Part} (next : Frame → Frame)
    (hw : Reads [.word word] [] [separator])
    (hn : ∀ frame outer rest, behind frame outer (separator :: rest) = member (next frame) outer rest)
    {written : α → List Lexeme} {values : α → List Binding} {condition : α → Condition} {members : List α}
    (nonempty : members ≠ []) (h : ∀ m ∈ members, States (written m) (values m) (condition m)) :
    ∃ ps, Reads ([Lexeme.word word].intercalate (members.map written)) (members.map values).flatten ps ∧
      ∀ frame outer rest,
        member frame outer (ps ++ rest) = behind (frame.takeAll next (members.map condition)) outer rest := by
  induction members with
  | nil => exact absurd rfl nonempty
  | cons m members ih =>
    obtain ⟨ps, reads, read⟩ := h m List.mem_cons_self
    cases members with
    | nil =>
      refine ⟨ps, ?_, read⟩
      simpa [List.intercalate_singleton] using reads
    | cons m' members =>
      obtain ⟨qs, others, read'⟩ := ih (by simp) fun n hn => h n (List.mem_cons_of_mem _ hn)
      refine ⟨ps ++ [separator] ++ qs, ?_, fun frame outer rest => ?_⟩
      · have whole := (reads.append hw).append others
        rw [List.append_nil] at whole
        simpa [List.intercalate_cons_cons] using whole
      · rw [List.append_assoc, List.append_assoc, read]
        exact (hn ..).trans (read' ..)

theorem takeAll_id (frame : Frame) (h : frame.negations = 0) (cs : List Condition) :
    frame.takeAll id cs = { frame with members := frame.members ++ cs } := by
  induction cs generalizing frame with
  | nil => simp [Frame.takeAll]
  | cons c cs ih =>
    have first : frame.take c = { frame with members := frame.members ++ [c] } := by simp [Frame.take, h]
    cases cs with
    | nil => exact first
    | cons c' cs =>
      have others := ih (frame.take c) rfl
      rw [Frame.takeAll, id_eq, others, first, List.append_assoc]
      · rfl
      · exact nofun

theorem close_takeAll (alternatives : List Condition) (c : Condition) (cs : List Condition) :
    (({ alternatives } : Frame).takeAll Frame.next (c :: cs)).close = alternatives ++ c :: cs := by
  induction cs generalizing alternatives c with
  | nil => rfl
  | cons c' cs ih =>
    have others := ih (alternatives ++ [c]) c'
    rw [List.append_assoc] at others
    exact others

theorem states_equation {digits : String} {right : Nat}
    (h : part? (.lexeme (.number digits)) = some (.operand (.number right))) :
    States (Template.parens [.number "1", .sign "=", .number digits]) []
      (.atom ⟨.number 1, .equal, .number right⟩) := by
  have reads : Reads [.number "1", .sign "=", .number digits] []
      [.operand (.number 1), .compare .equal, .operand (.number right)] := by
    refine ⟨_, .number "1" (.sign "=" (.number digits .nil)), fun rest => ?_⟩
    have last : parts (.lexeme (.number digits) :: rest) = (parts rest).map (.operand (.number right) :: ·) := by
      rw [parts, h]
      · rfl
      · exact nofun
    have whole : parts (.lexeme (.number "1") :: .lexeme (.sign "=") :: .lexeme (.number digits) :: rest) =
        ((parts (.lexeme (.number digits) :: rest)).map (.compare .equal :: ·)).map (.operand (.number 1) :: ·) := rfl
    rw [last, Option.map_map, Option.map_map] at whole
    exact whole
  exact states_parens reads fun _ _ => rfl

theorem states_all {α : Type} {written : α → List Lexeme} {values : α → List Binding} {condition : α → Condition}
    {members : List α} (h : ∀ m ∈ members, States (written m) (values m) (condition m)) :
    States (Template.group "AND" "1" (members.map written)) (members.map values).flatten
      (grouped .all 1 (members.map condition)) := by
  cases members with
  | nil => exact states_equation rfl
  | cons m members =>
    have separator : Reads [.word "AND"] [] [.and] := ⟨_, .word "AND" .nil, fun _ => rfl⟩
    obtain ⟨ps, reads, read⟩ := reads_sequence id separator (fun _ _ _ => rfl) (List.cons_ne_nil m members) h
    have whole := states_parens reads (read {})
    rw [takeAll_id {} rfl] at whole
    exact whole

theorem states_any {α : Type} {written : α → List Lexeme} {values : α → List Binding} {condition : α → Condition}
    {members : List α} (h : ∀ m ∈ members, States (written m) (values m) (condition m)) :
    States (Template.group "OR" "0" (members.map written)) (members.map values).flatten
      (grouped .any 0 (members.map condition)) := by
  cases members with
  | nil => exact states_equation rfl
  | cons m members =>
    have separator : Reads [.word "OR"] [] [.or] := ⟨_, .word "OR" .nil, fun _ => rfl⟩
    obtain ⟨ps, reads, read⟩ := reads_sequence Frame.next separator (fun _ _ _ => rfl)
      (List.cons_ne_nil m members) h
    have whole := states_parens reads (read {})
    have meaning : (({} : Frame).takeAll Frame.next ((m :: members).map condition)).condition =
        joined .any ((m :: members).map condition) := congrArg (joined .any) (close_takeAll [] _ _)
    rw [meaning] at whole
    exact whole

/-- A member alone is read as it is. -/
theorem States.ofSymbols?_eq {ls : List Lexeme} {bs : List Binding} {c : Condition} (h : States ls bs c) :
    ∃ ss, Filled ls bs ss ∧ ofSymbols? ss = some c := by
  obtain ⟨ps, ⟨ss, filled, read⟩, reads⟩ := h
  have whole : parts ss = some ps := by simpa [parts] using read []
  have condition : member {} [] ps = some c := by
    rw [← List.append_nil ps, reads]
    rfl
  exact ⟨ss, filled, by rw [ofSymbols?, whole, Option.bind_some, condition]⟩

theorem States.read?_eq {text : String} {bindings : List Binding} {c : Condition}
    (h : States (lexemes text.toList) bindings c) : read? ⟨text, bindings⟩ = some c := by
  obtain ⟨ss, filled, read⟩ := h.ofSymbols?_eq
  rw [read?, filled.fill_eq, Option.bind_some, read]

/-! ### Truth -/

variable (v : Clause → Truth)

theorem eval_all (members : List Condition) :
    (grouped .all 1 members).eval (Clause.truth v) = Formula.evalAll (Clause.truth v) members := by
  match members with
  | [] => rfl
  | [c] =>
    show c.eval _ = (c.eval _).and .yes
    cases c.eval (Clause.truth v) <;> rfl
  | _ :: _ :: _ => rfl

theorem eval_any (members : List Condition) :
    (grouped .any 0 members).eval (Clause.truth v) = Formula.evalAny (Clause.truth v) members := by
  match members with
  | [] => rfl
  | [c] =>
    show c.eval _ = (c.eval _).or .no
    cases c.eval (Clause.truth v) <;> rfl
  | _ :: _ :: _ => rfl

/-! ### Comparisons -/

/-- A comparison in a group is one of a member, or the group has none. -/
theorem mem_atoms_grouped {join : List Condition → Condition} (joins : ∀ cs, (join cs).atoms = Formula.atomsOf cs)
    {right : Nat} {members : List Condition} {a : Clause} (h : a ∈ (grouped join right members).atoms) :
    (∃ m ∈ members, a ∈ m.atoms) ∨ a = ⟨.number 1, .equal, .number right⟩ := by
  match members with
  | [] => exact Or.inr (List.mem_singleton.mp h)
  | [c] => exact Or.inl ⟨c, List.mem_singleton_self c, h⟩
  | c :: c' :: members =>
    have whole : a ∈ (join (c :: c' :: members)).atoms := h
    rw [joins] at whole
    exact Or.inl (Formula.mem_atomsOf.mp whole)

end Condition

end Sql

open Sql (Lexeme lexemes Condition Clause)

namespace Fragment

theorem bindings_append (f g : Fragment) : bindings (f ++ g) = bindings f ++ bindings g := List.filterMap_append

theorem bindings_column (table : Option String) (label : String) : bindings (column table label) = [] := by
  cases table <;> rfl

theorem bindings_joined (separator : String) (parts : List Fragment) :
    bindings (joined separator parts) = (parts.map bindings).flatten := by
  induction parts with
  | nil => rfl
  | cons part parts ih =>
    cases parts with
    | nil => rw [joined, List.intercalate_singleton, List.map_singleton, List.flatten_singleton]
    | cons next parts =>
      rw [joined, List.intercalate_cons_cons, bindings_append, bindings_append, List.map_cons, List.flatten_cons,
        List.append_assoc]
      exact congrArg _ ih

end Fragment

/-- A comparison of a filter as a clause, columns with the given table in front. -/
def Comparison.clause (table : Option String) (c : Comparison) : Clause :=
  ⟨.column table c.column.label, c.operator.comparator?.getD .equal, .value ⟨c.column.root, c.value⟩⟩

namespace Filter

/-- The values that a filter compares with, from left to right. -/
def values : Filter → List Binding :=
  Formula.fold (fun c => [⟨c.column.root, c.value⟩]) List.flatten List.flatten id

theorem values_eq_atoms (f : Filter) : f.values = f.atoms.map fun c => ⟨c.column.root, c.value⟩ :=
  Formula.fold_eq_atoms (fun _ => rfl) (fun _ => List.map_flatten.symm) f

/-- The condition that a filter asks for. -/
def condition (table : Option String) : Filter → Condition :=
  Formula.fold (fun c => .atom (c.clause table)) (Condition.grouped .all 1) (Condition.grouped .any 0) .not

theorem states_filter (table : Option String) {f : Filter} (h : f.Supported) :
    Condition.States (Template.filter .bound table f) f.values (f.condition table) := by
  induction f using Formula.induction with
  | atom c =>
    obtain ⟨comparator, sign⟩ := Option.isSome_iff_exists.mp (h c (List.mem_singleton_self c))
    have test := Condition.states_test table c.column.label comparator ⟨c.column.root, c.value⟩
    have clause : c.clause table = ⟨.column table c.column.label, comparator, .value ⟨c.column.root, c.value⟩⟩ := by
      rw [Comparison.clause, sign]
      rfl
    have written : Template.filter .bound table (.atom c) =
        Template.column table c.column.label ++ [.sign comparator.symbol, .hole] := by
      show Template.comparison .bound table c = _
      rw [Template.comparison, sign]
      rfl
    rw [written]
    show Condition.States _ _ (.atom (c.clause table))
    rw [clause]
    exact test
  | all members ih =>
    have each := Condition.states_all fun m hm => ih m hm fun c hc => h c (Formula.mem_atomsOf.mpr ⟨m, hm, hc⟩)
    rw [Template.filter, values, condition, Formula.fold, Formula.fold, Formula.fold, Formula.foldEach_eq,
      Formula.foldEach_eq, Formula.foldEach_eq]
    exact each
  | any members ih =>
    have each := Condition.states_any fun m hm => ih m hm fun c hc => h c (Formula.mem_atomsOf.mpr ⟨m, hm, hc⟩)
    rw [Template.filter, values, condition, Formula.fold, Formula.fold, Formula.fold, Formula.foldEach_eq,
      Formula.foldEach_eq, Formula.foldEach_eq]
    exact each
  | not member ih => exact (ih h).negation

theorem bindings_group (word empty : String) (members : List Fragment) :
    Fragment.bindings (Predicate.group word empty members) = (members.map Fragment.bindings).flatten := by
  cases members with
  | nil => rfl
  | cons f members =>
    rw [Predicate.group, if_neg (by simp), Fragment.bindings_append, Fragment.bindings_append, Fragment.bindings_joined]
    exact List.append_nil _

theorem bindings_predicate (table : Option String) {f : Filter} {p : Predicate} (h : f.predicate = .ok p) :
    Fragment.bindings (Predicate.fragment table p) = f.values := by
  have groups : ∀ {word empty : String} {fragments : List Fragment} {values : List (List Binding)},
      List.Forall₂ (fun fragment bs => Fragment.bindings fragment = bs) fragments values →
        Fragment.bindings (Predicate.group word empty fragments) = values.flatten := by
    intro word empty fragments values each
    have same : fragments.map Fragment.bindings = values := by
      rw [← List.forall₂_eq_eq_eq, List.forall₂_map_left_iff]
      exact each
    rw [bindings_group, same]
  refine Formula.fold_check (R := fun fragment bs => Fragment.bindings fragment = bs) h ?_ groups groups ?_
  · intro c _ t ht
    obtain ⟨comparator, -, rfl⟩ := eq_ok_of_map ht
    rw [Test.fragment, Fragment.bindings_append, Fragment.bindings_column]
    rfl
  · intro fragment bs same
    rw [Fragment.bindings_append, Fragment.bindings_append, same]
    exact List.append_nil _

theorem eval_condition (v : Clause → Truth) (table : Option String) (f : Filter) :
    (f.condition table).eval (Clause.truth v) = f.eval fun c => v (c.clause table) := by
  rw [Formula.eval_eq_fold (fun c => v (c.clause table)) f]
  refine Formula.fold_related (R := fun (c : Condition) t => c.eval (Clause.truth v) = t) f (fun _ _ => rfl) ?_ ?_ ?_
  · intro conditions truths each
    rw [Condition.eval_all]
    induction each with
    | nil => rfl
    | cons first _ ih => rw [Formula.evalAll, first, ih, List.foldr_cons]
  · intro conditions truths each
    rw [Condition.eval_any]
    induction each with
    | nil => rfl
    | cons first _ ih => rw [Formula.evalAny, first, ih, List.foldr_cons]
  · intro c t same
    rw [Formula.eval, same]

/-- The comparisons of a condition are those of the filter, but for numbers in the place of groups without members. -/
theorem mem_atoms_condition {table : Option String} {f : Filter} {a : Clause} (h : a ∈ (f.condition table).atoms) :
    (∃ c ∈ f.atoms, a = c.clause table) ∨ ∃ m n, a = ⟨.number m, .equal, .number n⟩ := by
  induction f using Formula.induction with
  | atom c => exact Or.inl ⟨c, List.mem_singleton_self c, List.mem_singleton.mp h⟩
  | all members ih =>
    rw [condition, Formula.fold, Formula.foldEach_eq] at h
    rcases Condition.mem_atoms_grouped (fun _ => rfl) h with ⟨_, listed, ha⟩ | rfl
    · obtain ⟨m, hm, rfl⟩ := List.mem_map.mp listed
      rcases ih m hm ha with ⟨c, hc, same⟩ | numbers
      · exact Or.inl ⟨c, Formula.mem_atomsOf.mpr ⟨m, hm, hc⟩, same⟩
      · exact Or.inr numbers
    · exact Or.inr ⟨_, _, rfl⟩
  | any members ih =>
    rw [condition, Formula.fold, Formula.foldEach_eq] at h
    rcases Condition.mem_atoms_grouped (fun _ => rfl) h with ⟨_, listed, ha⟩ | rfl
    · obtain ⟨m, hm, rfl⟩ := List.mem_map.mp listed
      rcases ih m hm ha with ⟨c, hc, same⟩ | numbers
      · exact Or.inl ⟨c, Formula.mem_atomsOf.mpr ⟨m, hm, hc⟩, same⟩
      · exact Or.inr numbers
    · exact Or.inr ⟨_, _, rfl⟩
  | not member ih => exact ih h

/-- The text of a compiled filter is read as the filter's condition, which is true where the filter is. -/
theorem read_compile {f : Filter} (h : f.Supported) (table : Option String) :
    ∃ compiled, f.compile table .bound = .ok compiled ∧ Condition.read? compiled = some (f.condition table) ∧
      ∀ v : Clause → Truth, (f.condition table).eval (Clause.truth v) = f.eval fun c => v (c.clause table) := by
  obtain ⟨p, hp⟩ := exists_predicate h
  have compiled : f.compile table .bound = .ok (Compiled.ofFragment (Predicate.fragment table p)) := by
    rw [compile, hp]
    rfl
  have text : lexemes (Fragment.text (Predicate.fragment table p)).toList = Template.filter .bound table f :=
    (Fragment.spells_predicate .bound table hp fun inline => nomatch inline).lexemes_eq
  have states := states_filter table h
  rw [← text, ← bindings_predicate table hp] at states
  exact ⟨_, compiled, states.read?_eq, fun v => eval_condition v table f⟩

/-- A filter with a label that looks like a condition, a group of one member and one of none. -/
def quaint : Filter :=
  .any [.not (.all [.atom ⟨⟨"a\" = ? OR (", .int⟩, .lessEqual, .integer 3⟩]), .all [],
    .atom ⟨⟨"", .text⟩, .equal, .text "?"⟩]

theorem read_quaint :
    quaint.Supported ∧ ∃ compiled, quaint.compile (some "t\"") .bound = .ok compiled ∧
      Condition.read? compiled = some
        (.any [.not (.atom ⟨.column (some "t\"") "a\" = ? OR (", .lessEqual, .value ⟨.int, .integer 3⟩⟩),
          .atom ⟨.number 1, .equal, .number 1⟩, .atom ⟨.column (some "t\"") "", .equal, .value ⟨.text, .text "?"⟩⟩]) ∧
      ∀ v : Clause → Truth, (quaint.condition (some "t\"")).eval (Clause.truth v) =
        quaint.eval fun c => v (c.clause (some "t\"")) := by
  have supported : quaint.Supported := by
    intro c hc
    obtain rfl | hc := List.mem_cons.mp hc
    · rfl
    · obtain rfl := List.mem_singleton.mp hc
      rfl
  exact ⟨supported, read_compile supported (some "t\"")⟩

end Filter

end TypedTables
