import TypedTables.Proofs.Filter
import TypedTables.Proofs.Sql.Compilation
import TypedTables.Store.Affinity

/-!
# Constants are read as their values

The literal of an integer, a text or NULL is read as its value in front of every text that does not go on with it: behind
a number one that begins with no digit, point or `e`, and behind a text one that does not begin with a quote. So different
constants have different literals, and wherever a statement writes a constant, it is read as the value that the field's
type stores and ends where the statement goes on (`RootType.literal_denotes`). -/

namespace TypedTables

open Numeral (IsDigits)
open Sql (Apart isGap)

/-! ### Numbers -/

namespace Affinity

/-- The text does not go on with a number. -/
def EndsNumber (rest : List Char) : Prop := ∀ c, rest.head? = some c → c.isDigit = false ∧ c ∉ ['.', 'e', 'E']

variable {digits rest : List Char}

theorem isSpace_of_isDigit {c : Char} (h : c.isDigit) : isSpace c = false := by
  simp only [Char.isDigit, Bool.and_eq_true, decide_eq_true_eq, ge_iff_le, UInt32.le_iff_toNat_le] at h
  have low : 48 ≤ c.toNat := h.1
  have blank : c ≠ ' ' := by
    rintro rfl
    exact absurd low (by decide)
  simp [isSpace, blank]
  omega

theorem splitSign_of_isDigit {c : Char} (h : c.isDigit) (s : List Char) : splitSign (c :: s) = (false, c :: s) := by
  unfold splitSign
  split
  · next same =>
    cases same
    cases h
  · next same =>
    cases same
    cases h
  · rfl

theorem digits_append (hd : ∀ c ∈ digits, c.isDigit) (ends : EndsNumber rest) :
    Numeral.digits (digits ++ rest) = (digits, rest) := by
  rw [Numeral.digits, List.takeWhile_append_of_pos hd, List.dropWhile_append_of_pos hd]
  cases rest with
  | nil => simp
  | cons c s => simp [(ends c rfl).1]

theorem splitPlaces_of_ends (ends : EndsNumber rest) : splitPlaces rest = (Option.none, rest) := by
  unfold splitPlaces
  split
  · exact absurd List.mem_cons_self (ends '.' rfl).2
  · rfl

theorem exponent?_of_ends (ends : EndsNumber rest) : Numeral.exponent? rest = some (0, rest) := by
  unfold Numeral.exponent?
  split
  · exact absurd (by decide) (ends 'e' rfl).2
  · exact absurd (by decide) (ends 'E' rfl).2
  · rfl

/-- A whole number is read up to where the text does not go on with it. -/
theorem leading?_append (hd : IsDigits digits) (negative : Bool) (ends : EndsNumber rest) :
    leading? ((if negative then ['-'] else []) ++ (digits ++ rest)) =
      some (⟨negative, digits, [], 0, true⟩, rest) := by
  have sign : splitSign (((if negative then ['-'] else []) ++ (digits ++ rest)).dropWhile isSpace) =
      (negative, digits ++ rest) := by
    cases negative with
    | true => rfl
    | false =>
      obtain ⟨d, ds, rfl⟩ := List.exists_cons_of_ne_nil hd.1
      have digit : d.isDigit := hd.2 d List.mem_cons_self
      simp only [Bool.false_eq_true, if_false, List.nil_append, List.cons_append]
      rw [List.dropWhile_cons_of_neg (by simp [isSpace_of_isDigit digit]), splitSign_of_isDigit digit]
  unfold leading?
  simp [sign, digits_append hd.2 ends, splitPlaces_of_ends ends, exponent?_of_ends ends, hd.1]

/-- The digits of an integer with its sign are the integer. -/
theorem value_toDigits (i : Int64) :
    (⟨decide (i.toInt < 0), Nat.toDigits 10 i.toInt.natAbs, [], 0, true⟩ : Written).value = .integer i := by
  have absolute : Numeral.value (Nat.toDigits 10 i.toInt.natAbs) = i.toInt.natAbs :=
    Nat.ofDigitChars_toDigits (by decide) (by decide)
  have signed : (if i.toInt < 0 then -(i.toInt.natAbs : Int) else i.toInt.natAbs) = i.toInt := by omega
  have low := Int64.minValue_le_toInt i
  have high := Int64.toInt_le i
  simp only [Written.value, Written.integer?, absolute, decide_eq_true_eq, signed, Bool.true_and, Bool.and_eq_true]
  rw [if_pos ⟨low, high⟩, Int64.ofInt_toInt]

theorem leading?_toString (i : Int64) (ends : EndsNumber rest) :
    ∃ number : Written, leading? ((toString i.toInt).toList ++ rest) = some (number, rest) ∧
      number.value = .integer i := by
  have written : (toString i.toInt).toList =
      (if decide (i.toInt < 0) then ['-'] else []) ++ Nat.toDigits 10 i.toInt.natAbs := by
    rw [Numeral.toString_int, String.toList_append, Numeral.toList_toString]
    by_cases negative : i.toInt < 0 <;> simp [negative]
  refine ⟨_, ?_, value_toDigits i⟩
  rw [written, List.append_assoc]
  exact leading?_append (Numeral.isDigits_toDigits _) _ ends

end Affinity

/-! ### Literals -/

namespace Sql

/-- The literal at the start of a text, as the value that it denotes, and what follows it: the word for NULL, a text
    between quotes, or a number as the store reads one. -/
def literal? : List Char → Option (Value × List Char)
  | 'N' :: 'U' :: 'L' :: 'L' :: s => some (.null, s)
  | '\'' :: s => (Text.readClosed '\'' s).map fun (content, rest) => (.text (String.ofList content), rest)
  | s => (Affinity.leading? s).map fun (number, rest) => (number.value, rest)

/-- The text does not go on with the literal of a value. -/
def MayFollow (rest : List Char) : Value → Prop
  | .null => True
  | .integer _ | .real _ => Affinity.EndsNumber rest
  | .text _ => rest.head? ≠ some '\''

theorem Apart.mayFollow {rest : List Char} (h : Apart rest) (v : Value) : MayFollow rest v := by
  have ends : Affinity.EndsNumber rest := fun c hc => by
    rcases isGap_cases (h c hc) with rfl | rfl | rfl | rfl <;> decide
  cases v with
  | null => trivial
  | integer | real => exact ends
  | text => exact h.head?_ne rfl

/-- What starts with a number starts with no other literal. -/
theorem literal?_of_leading? {s rest : List Char} {number : Affinity.Written}
    (h : Affinity.leading? s = some (number, rest)) : literal? s = some (number.value, rest) := by
  unfold literal?
  split
  -- Neither the word nor a quote starts a number.
  · cases h
  · cases h
  · rw [h]
    rfl

end Sql

namespace RootType

variable {root : RootType} {v w : Value} {rest : List Char}

theorem literal?_append (counted : root.isFloat = false) (holds : root.Holds v) (follows : Sql.MayFollow rest v) :
    Sql.literal? ((root.literal v).toList ++ rest) = some (v, rest) := by
  rw [literal, constant_of_holds holds]
  cases v with
  | null => rfl
  | integer i =>
    obtain ⟨number, read, value⟩ := Affinity.leading?_toString i follows
    have whole := Sql.literal?_of_leading? read
    rwa [value] at whole
  | real x =>
    have float : root.isFloat := holds
    rw [counted] at float
    cases float
  | text s =>
    show Sql.literal? ((Text.literal s).toList ++ rest) = _
    rw [Text.literal, Text.toList_enclose, List.cons_append, List.append_assoc, List.singleton_append]
    show (Text.readClosed _ _).map _ = _
    rw [Text.readClosed_double '\'' s.toList rest follows]
    simp

theorem literal_injective (counted : root.isFloat = false) (hv : root.Holds v) (hw : root.Holds w)
    (same : root.literal v = root.literal w) : v = w := by
  have first := literal?_append counted hv (Sql.apart_nil.mayFollow v)
  have second := literal?_append counted hw (Sql.apart_nil.mayFollow w)
  rw [same, second] at first
  cases first
  rfl

end RootType

/-! ### Constants in their places -/

namespace Fragment

/-- A part of a fragment, behind which the fragment ends or goes on with a gap. -/
def StandsIn (part whole : Fragment) : Prop :=
  ∃ before after, whole = before ++ (part ++ after) ∧ Apart after.text.toList

/-- Behind the front part of a fragment and the keyword there, the text is read as the value, up to where the fragment
    goes on. -/
def Denotes (whole front : Fragment) (keyword : String) (v : Value) : Prop :=
  ∃ before written after, whole = before ++ (front ++ [.fixed (keyword ++ written)] ++ after) ∧
    Apart after.text.toList ∧ Sql.literal? (written.toList ++ after.text.toList) = some (v, after.text.toList)

variable {part f g whole : Fragment} {parts : List Fragment}

theorem StandsIn.refl (f : Fragment) : StandsIn f f := ⟨[], [], (List.append_nil f).symm, Sql.apart_nil⟩

theorem StandsIn.trans (inner : StandsIn part f) (outer : StandsIn f g) : StandsIn part g := by
  obtain ⟨before, after, rfl, apart⟩ := inner
  obtain ⟨before', after', rfl, apart'⟩ := outer
  refine ⟨before' ++ before, after ++ after', by simp only [List.append_assoc], ?_⟩
  rw [toList_text_append]
  exact apart.append apart'

theorem StandsIn.behind (h : StandsIn part f) (before : Fragment) : StandsIn part (before ++ f) :=
  h.trans ⟨before, [], by rw [List.append_nil], Sql.apart_nil⟩

theorem StandsIn.before (h : StandsIn part f) {after : Fragment} (apart : Apart after.text.toList) :
    StandsIn part (f ++ after) :=
  h.trans ⟨[], after, rfl, apart⟩

theorem standsIn_joined {separator : String} (gap : separator.toList.head?.any isGap) (among : part ∈ parts) :
    StandsIn part (joined separator parts) := by
  induction parts with
  | nil => cases among
  | cons f parts ih =>
    cases parts with
    | nil =>
      obtain rfl := List.mem_singleton.mp among
      rw [joined, List.intercalate_singleton]
      exact .refl part
    | cons g parts =>
      rw [joined, List.intercalate_cons_cons, List.append_assoc]
      rcases List.mem_cons.mp among with rfl | among
      · exact (StandsIn.refl part).before (gapped_fixed gap _).apart
      · exact ((ih among).behind _).behind f

theorem standsIn_parens {opening : String} (h : StandsIn part f) :
    StandsIn part ([.fixed opening] ++ f ++ [.fixed ")"]) :=
  (h.behind [.fixed opening]).before (gapped_fixed rfl []).apart

theorem standsIn_tuple (among : part ∈ parts) : StandsIn part (tuple parts) :=
  standsIn_parens (standsIn_joined rfl among)

/-- A constant of a column, wherever a statement writes it. -/
theorem StandsIn.denotes {root : RootType} {v : Value} {front : Fragment} {keyword : String}
    (h : StandsIn (front ++ [.fixed (keyword ++ root.literal v)]) whole) (counted : root.isFloat = false)
    (holds : root.Holds v) : Denotes whole front keyword v := by
  obtain ⟨before, after, rfl, apart⟩ := h
  exact ⟨before, _, after, rfl, apart, RootType.literal?_append counted holds (apart.mayFollow v)⟩

/-! ### Defaults of columns -/

theorem standsIn_definition {κ ρ : Type} [Kinds κ] (column : Column κ ρ) (primaryKey : Bool) {root : RootType}
    {v : Value} (h : .default root v ∈ column.rules) :
    ∃ declared : List String,
      StandsIn (.name column.label :: declared.map .fixed ++ [.fixed (" DEFAULT " ++ root.literal v)])
        (column.definition primaryKey).fragment := by
  -- What is declared before the default stays in front, and each rule behind it begins with a blank.
  obtain ⟨before, after, split⟩ := List.append_of_mem h
  let key : List String := if primaryKey then [" PRIMARY KEY"] else []
  let behind : Fragment := after.map fun rule => .fixed (" " ++ rule.sql)
  have apart : Apart behind.text.toList := apart_blanks ColumnRule.sql after
  have default : " DEFAULT " ++ root.literal v = " " ++ (ColumnRule.default root v).sql := by
    rw [ColumnRule.sql, ← String.append_assoc]
    rfl
  refine ⟨(" " ++ column.root.sqlType) :: (key ++ before.map fun rule => " " ++ rule.sql), [], behind, ?_, apart⟩
  rw [default, ColumnDef.fragment, Column.definition]
  simp only [split]
  cases primaryKey <;> simp [key, behind]

theorem standsIn_create {κ ρ : Type} [Kinds κ] (schema : Schema κ ρ) (table : String) {column : Column κ ρ}
    (among : column ∈ schema.columns) :
    ∃ primaryKey, StandsIn (column.definition primaryKey).fragment (schema.create table).fragment := by
  obtain ⟨primaryKey, declared⟩ : ∃ primaryKey, column.definition primaryKey ∈ schema.definitions := by
    rcases List.mem_cons.mp among with rfl | field
    · exact ⟨true, List.mem_cons_self⟩
    · exact ⟨false, List.mem_cons_of_mem _ (List.mem_map_of_mem field)⟩
  exact ⟨primaryKey, (standsIn_tuple (List.mem_map_of_mem declared)).behind _⟩

/-! ### Filters of indexes -/

variable {mode : Mode} {table : Option String} {t : Test}

theorem standsIn_parens_apply {opening : String} (h : StandsIn part (mode.apply f)) :
    StandsIn part (mode.apply ([.fixed opening] ++ f ++ [.fixed ")"])) := by
  rw [Mode.apply_append, Mode.apply_append, Mode.apply_fixed, Mode.apply_fixed]
  exact standsIn_parens h

theorem standsIn_group {word empty : String} (among : f ∈ parts) :
    StandsIn (mode.apply f) (mode.apply (Predicate.group word empty parts)) := by
  have inhabited : parts.isEmpty = false := by
    cases parts with
    | nil => cases among
    | cons => rfl
  rw [Predicate.group, inhabited]
  refine standsIn_parens_apply ?_
  rw [Mode.apply_joined]
  exact standsIn_joined (by simp [String.toList_append]; rfl) (List.mem_map_of_mem among)

/-- A test stands in every predicate that makes it. -/
theorem standsIn_predicate (p : Predicate) (among : t ∈ p.atoms) :
    StandsIn (mode.apply (t.fragment table)) (mode.apply (Predicate.fragment table p)) := by
  have each (members : List Predicate)
      (ih : ∀ m ∈ members, t ∈ m.atoms →
        StandsIn (mode.apply (t.fragment table)) (mode.apply (Predicate.fragment table m)))
      (word empty : String) (among : t ∈ Formula.atomsOf members) :
      StandsIn (mode.apply (t.fragment table))
        (mode.apply (Predicate.group word empty (members.map (Predicate.fragment table)))) := by
    obtain ⟨m, hm, ht⟩ := Formula.mem_atomsOf.mp among
    exact (ih m hm ht).trans (standsIn_group (List.mem_map_of_mem hm))
  induction p using Formula.induction with
  | atom a =>
    obtain rfl := List.mem_singleton.mp among
    exact .refl _
  | all members ih =>
    rw [Predicate.fragment, Formula.fold, Formula.foldEach_eq]
    exact each members ih _ _ among
  | any members ih =>
    rw [Predicate.fragment, Formula.fold, Formula.foldEach_eq]
    exact each members ih _ _ among
  | not member ih => exact standsIn_parens_apply (ih among)

theorem exists_test {filter : Filter} {p : Predicate} (h : filter.predicate = .ok p) {c : Comparison}
    (among : c ∈ filter.atoms) : ∃ t ∈ p.atoms, c.test = .ok t := by
  have checked : Formula.check Comparison.test filter = .ok p := h
  have tests : filter.atoms.mapM Comparison.test = .ok p.atoms := by
    rw [← Formula.check_atoms, checked]
    rfl
  exact mem_of_mapM tests among

theorem standsIn_index {terms : IndexTerms} {p : Predicate} (among : p ∈ terms.filters) (name table : String) :
    StandsIn (Mode.inline.apply (Predicate.fragment none p)) (Statement.createIndex name table terms).fragment := by
  have filters : Mode.inline.apply (Predicate.fragment none p) ∈
      terms.filters.map fun p => (Predicate.fragment none p).inline := List.mem_map.mpr ⟨p, among, rfl⟩
  have term : Mode.inline.apply (Predicate.fragment none p) ∈ terms.fragments :=
    List.mem_append_left _ (List.mem_append_left _ filters)
  exact (standsIn_tuple term).behind _

/-- A comparison of a filter stands in the statement that creates the index, with its value inline. -/
theorem standsIn_createIndex {index : Index} {statement : Statement} {onTable : String}
    (created : index.create onTable = .ok statement) {filter : Filter} (listed : filter ∈ index.filters)
    {c : Comparison} (among : c ∈ filter.atoms) :
    ∃ comparator, c.operator.comparator? = some comparator ∧
      StandsIn ([.name c.column.label, .fixed (" " ++ comparator.symbol ++ " ")] ++
        [.fixed ("" ++ c.column.root.literal c.value)]) statement.fragment := by
  obtain ⟨terms, made, rfl⟩ := eq_ok_of_map created
  obtain ⟨predicates, checked, made⟩ := eq_ok_of_bind made
  cases made
  obtain ⟨p, hp, predicate⟩ := mem_of_mapM checked listed
  obtain ⟨t, ht, tested⟩ := exists_test predicate among
  obtain ⟨comparator, operator, rfl⟩ := eq_ok_of_map tested
  refine ⟨comparator, Operator.comparator_eq_ok operator, ?_⟩
  rw [String.empty_append]
  exact (standsIn_predicate p ht).trans (standsIn_index hp _ onTable)

end Fragment

theorem Comparison.IsTyped.holds {c : Comparison} (typed : c.IsTyped) : c.column.root.Holds c.value := by
  obtain ⟨α, type, a, root, value⟩ := typed
  rw [← root, ← value]
  exact type.holds_encode a

namespace RootType

variable {κ ρ : Type} [Kinds κ] {root : RootType}

/-- A literal of a column of integers or texts is read as its value in front of every text that does not go on with it,
    and different values have different literals. So the default of a column and the constant of an index are read as the
    value that the field's type stores, and end where the statement goes on. -/
theorem literal_denotes (schema : Schema κ ρ) (counted : root.isFloat = false) :
    (∀ v rest, root.Holds v → Sql.MayFollow rest v →
        Sql.literal? ((root.literal v).toList ++ rest) = some (v, rest)) ∧
      (∀ v w, root.Holds v → root.Holds w → root.literal v = root.literal w → v = w) ∧
      (∀ table, ∀ column ∈ schema.columns, column.root = root → ∀ a, .default a ∈ column.field.constraints →
        ∃ declared : List String, Fragment.Denotes (schema.create table).fragment
          (.name column.label :: declared.map .fixed) " DEFAULT " (column.field.type.encode a)) ∧
      ∀ table (index : Index) statement, index.create table = .ok statement →
        ∀ f ∈ index.filters, ∀ c ∈ f.atoms, c.IsTyped → c.column.root = root →
          ∃ comparator, c.operator.comparator? = some comparator ∧ Fragment.Denotes statement.fragment
            [.name c.column.label, .fixed (" " ++ comparator.symbol ++ " ")] "" c.value := by
  refine ⟨fun v rest => literal?_append counted, fun v w => literal_injective counted, ?_, ?_⟩
  · rintro table column among rfl a default
    have rule : .default column.root (column.field.type.encode a) ∈ column.rules :=
      List.mem_map.mpr ⟨_, default, rfl⟩
    obtain ⟨primaryKey, stands⟩ := Fragment.standsIn_create schema table among
    obtain ⟨declared, inner⟩ := Fragment.standsIn_definition column primaryKey rule
    exact ⟨declared, (inner.trans stands).denotes counted (column.field.type.holds_encode a)⟩
  · rintro table index statement created f listed c among typed rfl
    obtain ⟨comparator, operator, stands⟩ := Fragment.standsIn_createIndex created listed among
    exact ⟨comparator, operator, stands.denotes counted typed.holds⟩

/-- The least integer before a parenthesis, and a text with a quote there and in an index. -/
theorem least_and_quoted_denoted :
    (bigInt.isFloat = false ∧ Sql.literal? ((bigInt.literal (.integer Int64.minValue)).toList ++ [')']) =
        some (.integer Int64.minValue, [')'])) ∧
      text.isFloat = false ∧
        Sql.literal? ((text.literal (.text "it's")).toList ++ [')']) = some (.text "it's", [')']) ∧
        ∃ statement comparator, Compilation.oddIndex.create "t" = .ok statement ∧ Fragment.Denotes statement.fragment
          [.name "a\" = ? AND \"b", .fixed (" " ++ Comparator.symbol comparator ++ " ")] "" (.text "it's") := by
  have apart : Apart [')'] := Sql.apart_cons rfl []
  have counted : text.isFloat = false := rfl
  have typed : Comparison.IsTyped ⟨⟨"a\" = ? AND \"b", .text⟩, .equal, .text "it's"⟩ := ⟨_, .text, "it's", rfl, rfl⟩
  obtain ⟨comparator, -, denoted⟩ := (literal_denotes books counted).2.2.2 "t" Compilation.oddIndex _ rfl _
    List.mem_cons_self _ List.mem_cons_self typed rfl
  exact ⟨⟨rfl, (literal_denotes books rfl).1 _ _ rfl (apart.mayFollow _)⟩, counted,
    (literal_denotes books counted).1 _ _ rfl (apart.mayFollow _), _, comparator, rfl, denoted⟩

end RootType

end TypedTables
