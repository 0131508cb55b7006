import TypedTables.Proofs.FieldType
import TypedTables.Proofs.Formula
import TypedTables.Proofs.Sql.Spelling
import TypedTables.Schema.Statements

/-!
# Templates of statements

The lexemes that the parts of a statement are to be read as: lists, columns and their declarations, constants,
conditions and orderings. Each part has its template as a function of the names and values that it is made of, and the
fragment of the part spells its template. -/

namespace TypedTables

open Sql (Lexeme lexemes Apart)

namespace Template

/-- Parts with commas between them. -/
def commas (parts : List (List Lexeme)) : List Lexeme := [Lexeme.sign ","].intercalate parts

/-- Lexemes in parentheses. -/
def parens (ls : List Lexeme) : List Lexeme := .sign "(" :: ls ++ [.sign ")"]

/-- A column, with its table in front when one is given. -/
def column (table : Option String) (label : String) : List Lexeme :=
  match table with
  | some table => [.name table, .sign ".", .name label]
  | none => [.name label]

/-- Columns with commas between them. -/
def columns (table : Option String) (labels : List String) : List Lexeme := commas (labels.map (column table))

/-! ### Constants -/

/-- A number with its sign in front where it is negative. -/
def signed (negative : Bool) (digits : String) : List Lexeme :=
  if negative then [.sign "-", .number digits] else [.number digits]

/-- A value written inline. A number that is not finite is written as NULL. -/
def value : Value → List Lexeme
  | .null => [.word "NULL"]
  | .integer i => signed (i.toInt < 0) (toString i.toInt.natAbs)
  | .real x => if x.isFinite then signed x.isNegative x.absolute.text else [.word "NULL"]
  | .text s => [.text s]

/-! ### Declarations of columns -/

def type : RootType → List Lexeme
  | .tinyInt => [.word "TINYINT"]
  | .smallInt => [.word "SMALLINT"]
  | .int => [.word "INTEGER"]
  | .bigInt => [.word "BIGINT"]
  | .real => [.word "REAL"]
  | .double => [.word "FLOAT"]
  | .text => [.word "NVARCHAR"]
  | .fixedString n => .word "NVARCHAR" :: parens [.number (toString n)]

def rule : ColumnRule → List Lexeme
  | .notNull => [.word "NOT", .word "NULL"]
  | .unique => [.word "UNIQUE"]
  | .default _ v => .word "DEFAULT" :: value v

variable {κ ρ : Type} [Kinds κ]

def definition (primaryKey : Bool) (column : Column κ ρ) : List Lexeme :=
  .name column.label :: (type column.root ++ ((if primaryKey then [.word "PRIMARY", .word "KEY"] else []) ++
    column.rules.flatMap rule))

def definitions (schema : Schema κ ρ) : List (List Lexeme) :=
  definition true schema.key :: schema.fields.map (definition false)

/-! ### Conditions and orderings -/

/-- What a column is compared with: a place for the value, or the value inline. -/
def operand (mode : Mode) (v : Value) : List Lexeme :=
  match mode with
  | .bound => [.hole]
  | .inline => value v

def test (mode : Mode) (table : Option String) (t : Test) : List Lexeme :=
  column table t.label ++ (.sign t.comparator.symbol :: operand mode t.operand.value)

/-- A comparison whose operator has a sign. -/
def comparison (mode : Mode) (table : Option String) (c : Comparison) : List Lexeme :=
  column table c.column.label ++
    (.sign (c.operator.comparator?.elim "" Comparator.symbol) :: operand mode c.value)

/-- The members of a group in parentheses; a group without members compares one with what makes it mean what it does. -/
def group (word right : String) (members : List (List Lexeme)) : List Lexeme :=
  parens (if members.isEmpty then [.number "1", .sign "=", .number right] else [Lexeme.word word].intercalate members)

def negation (member : List Lexeme) : List Lexeme := .word "NOT" :: parens member

def filter (mode : Mode) (table : Option String) : Filter → List Lexeme :=
  Formula.fold (comparison mode table) (group "AND" "1") (group "OR" "0") negation

def ordering (s : SortBy) : List Lexeme := [.name s.column.label, .word s.direction.keyword]

end Template

/-- Every comparison has an operator. -/
def Filter.Supported (f : Filter) : Prop := ∀ c ∈ f.atoms, c.operator.comparator?.isSome

theorem Filter.exists_predicate {f : Filter} (h : f.Supported) : ∃ p, f.predicate = .ok p := by
  refine Formula.exists_check fun c hc => ?_
  obtain ⟨comparator, sign⟩ := Option.isSome_iff_exists.mp (h c hc)
  have test : c.test = .ok ⟨c.column.label, comparator, c.column.root, c.value⟩ := by
    rw [Comparison.test, Operator.comparator, sign]
    rfl
  exact ⟨_, test⟩

theorem Schema.exists_condition {filter : Option Filter} (h : ∀ f ∈ filter, f.Supported) :
    ∃ condition, Schema.condition filter = .ok condition := by
  cases filter with
  | none => exact ⟨none, rfl⟩
  | some f =>
    obtain ⟨p, hp⟩ := Filter.exists_predicate (h f rfl)
    exact ⟨some p, congrArg (Except.map some) hp⟩

namespace Fragment

theorem spells_signed (negative : Bool) {digits : String} (h : Numeral.IsNumeral digits.toList) :
    Spells [.fixed ((if negative then "-" else "") ++ digits)] (Template.signed negative digits) := by
  intro rest apart
  have number := Sql.lexemes_number h apart
  rw [String.ofList_toList] at number
  rw [toList_text_single]
  cases negative with
  | false => simpa [Piece.text, Template.signed] using number
  | true => simpa [Piece.text, Template.signed, number] using Sql.lexemes_minus h rest

theorem spells_literal {root : RootType} {v : Value} (h : root.Holds v) :
    Spells [.fixed (root.literal v)] (Template.value v) := by
  rw [RootType.literal, RootType.constant_of_holds h]
  cases v with
  | null => exact spells_word "NULL" rfl
  | integer i =>
    show Spells [.fixed (toString i.toInt)] _
    rw [Numeral.toString_int]
    simpa [Template.value] using spells_signed (decide (i.toInt < 0)) (Numeral.isNumeral_toString i.toInt.natAbs)
  | real x =>
    cases finite : x.isFinite with
    | false =>
      rw [Template.value, Value.isBlank, finite]
      exact spells_word "NULL" rfl
    | true =>
      rw [Template.value, Value.isBlank, finite]
      show Spells [.fixed x.text] (Template.signed x.isNegative x.absolute.text)
      rw [Binary64.text_eq finite]
      exact spells_signed x.isNegative (Binary64.isNumeral_absolute finite)
  | text s =>
    show Spells [.fixed (Text.literal s)] _
    intro rest apart
    rw [toList_text_single]
    exact Sql.lexemes_text s (apart.head?_ne rfl)

/-! ### Declarations of columns -/

theorem spells_blank {s : String} {ls : List Lexeme} (h : Spells [.fixed s] ls) : Spells [.fixed (" " ++ s)] ls :=
  (isPhrase_blank.then h).of_text_eq (text_fixed_append " " s)

theorem gapped_blank (s : String) (f : Fragment) : Gapped (.fixed (" " ++ s) :: f) :=
  gapped_fixed (by simp [String.toList_append]; rfl) f

theorem spells_type (root : RootType) : Spells [.fixed root.sqlType] (Template.type root) := by
  have size (n : Nat) : Spells [.fixed (toString n)] [.number (toString n)] := by
    simpa [Template.signed] using spells_signed false (Numeral.isNumeral_toString n)
  cases root with
  | tinyInt => exact spells_word "TINYINT" rfl
  | smallInt => exact spells_word "SMALLINT" rfl
  | int => exact spells_word "INTEGER" rfl
  | bigInt => exact spells_word "BIGINT" rfl
  | real => exact spells_word "REAL" rfl
  | double => exact spells_word "FLOAT" rfl
  | text => exact spells_word "NVARCHAR" rfl
  | fixedString n =>
    have word := spells_word "NVARCHAR" rfl
    refine (word.then (isPhrase_parens (size n)) (gapped_fixed rfl _)).spells.of_text_eq ?_
    have written : "NVARCHAR(" ++ toString n ++ ")" = "NVARCHAR" ++ ("(" ++ (toString n ++ ")")) := by
      rw [← String.append_assoc, ← String.append_assoc]
      rfl
    rw [RootType.sqlType, written]
    simp [text, Piece.text]

theorem spells_rule {rule : ColumnRule} (h : ∀ root v, rule = .default root v → root.Holds v) :
    Spells [.fixed rule.sql] (Template.rule rule) := by
  cases rule with
  | notNull =>
    exact ((isPhrase_words ["NOT"] rfl).then (spells_word "NULL" rfl)).of_text_eq rfl
  | unique => exact spells_word "UNIQUE" rfl
  | default root v =>
    have literal := spells_literal (h root v rfl)
    exact ((isPhrase_words ["DEFAULT"] rfl).then literal).of_text_eq (text_fixed_append _ _)

theorem apart_blanks {α : Type} (part : α → String) (members : List α) :
    Apart (text (members.map fun a => .fixed (" " ++ part a))).toList := by
  cases members with
  | nil => exact Sql.apart_nil
  | cons a members => exact (gapped_blank (part a) _).apart

theorem spells_blanks {α : Type} {part : α → String} {spelled : α → List Lexeme} (members : List α)
    (h : ∀ a ∈ members, Spells [.fixed (part a)] (spelled a)) :
    Spells (members.map fun a => .fixed (" " ++ part a)) (members.flatMap spelled) := by
  induction members with
  | nil => exact isPhrase_nil.spells
  | cons a members ih =>
    have first := spells_blank (h a List.mem_cons_self)
    exact first.append (ih fun b hb => h b (List.mem_cons_of_mem _ hb)) (apart_blanks part members)

theorem spells_definition {κ ρ : Type} [Kinds κ] (primaryKey : Bool) (column : Column κ ρ) :
    Spells (column.definition primaryKey).fragment (Template.definition primaryKey column) := by
  have rules := spells_blanks column.rules fun rule hr => spells_rule fun _ _ same =>
    column.field.holds_rules (same ▸ hr)
  have apart := apart_blanks ColumnRule.sql column.rules
  have type := spells_blank (spells_type column.root)
  have name := spells_name column.label
  cases primaryKey with
  | false => exact name.append (type.append rules apart) (gapped_blank _ _).apart
  | true =>
    have words := (isPhrase_words ["PRIMARY"] rfl).then (spells_word "KEY" rfl)
    have key : Spells [.fixed " PRIMARY KEY"] [.word "PRIMARY", .word "KEY"] :=
      (isPhrase_blank.then words).of_text_eq rfl
    have keyed := key.append rules apart
    have typed := type.append keyed (gapped_fixed rfl _).apart
    exact name.append typed (gapped_blank _ _).apart

end Fragment

/-! ### Modes -/

namespace Mode

theorem apply_append (mode : Mode) (f g : Fragment) : mode.apply (f ++ g) = mode.apply f ++ mode.apply g := by
  cases mode with
  | bound => rfl
  | inline => exact List.map_append

theorem apply_fixed (mode : Mode) (s : String) : mode.apply [.fixed s] = [.fixed s] := by cases mode <;> rfl

theorem apply_column (mode : Mode) (table : Option String) (label : String) :
    mode.apply (Fragment.column table label) = Fragment.column table label := by
  cases mode <;> cases table <;> rfl

theorem apply_joined (mode : Mode) (separator : String) (parts : List Fragment) :
    mode.apply (Fragment.joined separator parts) = Fragment.joined separator (parts.map mode.apply) := by
  have applied : List.Forall₂ (fun f g => mode.apply f = g) parts (parts.map mode.apply) := by
    rw [List.forall₂_map_right_iff, List.forall₂_same]
    exact fun _ _ => rfl
  refine Fragment.intercalate_related applied (by cases mode <;> rfl) fun first rest => ?_
  rw [apply_append, apply_append, apply_fixed, first, rest]

end Mode

namespace Fragment

/-! ### Conditions -/

theorem isPhrase_symbol (c : Comparator) : IsPhrase [.fixed (" " ++ c.symbol ++ " ")] [.sign c.symbol] := by
  intro rest
  have sign : lexemes (c.symbol.toList ++ ' ' :: rest) = .sign c.symbol :: lexemes (' ' :: rest) := by
    cases c with
    | equal | greater | less => exact Sql.lexemes_sign rfl rfl rfl (Nat.le_refl _)
    | greaterEqual | lessEqual => exact Sql.lexemes_sign rfl rfl rfl (Nat.le_succ _)
  have text : (" " ++ c.symbol ++ " ").toList ++ rest = ' ' :: (c.symbol.toList ++ ' ' :: rest) := by simp
  rw [toList_text_single, Piece.text, text, Sql.lexemes_blank, sign, Sql.lexemes_blank]
  rfl

theorem spells_operand {mode : Mode} {b : Binding} (h : mode = .inline → b.root.Holds b.value) :
    Spells (mode.apply [.hole b]) (Template.operand mode b.value) := by
  cases mode with
  | bound => exact spells_hole b
  | inline => exact spells_literal (h rfl)

theorem spells_test (mode : Mode) (table : Option String) {t : Test}
    (h : mode = .inline → t.operand.root.Holds t.operand.value) :
    Spells (mode.apply (t.fragment table)) (Template.test mode table t) := by
  have split : t.fragment table = column table t.label ++ ([.fixed (" " ++ t.comparator.symbol ++ " ")] ++
    [.hole t.operand]) := rfl
  rw [split, Mode.apply_append, Mode.apply_append, Mode.apply_column, Mode.apply_fixed, String.append_assoc]
  have column := spells_column table t.label
  have operand := spells_operand (b := t.operand) h
  have symbol := isPhrase_symbol t.comparator
  rw [String.append_assoc] at symbol
  exact column.append (symbol.then operand) (gapped_blank _ _).apart

theorem lexemes_equation (d : Char) (digit : d.isDigit) (rest : List Char) :
    lexemes ('(' :: '1' :: ' ' :: '=' :: ' ' :: d :: ')' :: rest) =
      Template.parens [.number "1", .sign "=", .number (String.ofList [d])] ++ lexemes rest := by
  have numeral : ∀ c : Char, c.isDigit → Numeral.IsNumeral [c] := fun c hc =>
    Numeral.IsDigits.isNumeral ⟨by simp, by simpa using hc⟩
  have one := Sql.lexemes_number (numeral '1' rfl) (Sql.apart_cons (c := ' ') rfl ('=' :: ' ' :: d :: ')' :: rest))
  have sign : lexemes ('=' :: ' ' :: d :: ')' :: rest) = .sign "=" :: lexemes (' ' :: d :: ')' :: rest) :=
    Sql.lexemes_sign rfl rfl rfl (Nat.le_refl _)
  have other := Sql.lexemes_number (numeral d digit) (Sql.apart_cons (c := ')') rfl rest)
  rw [List.singleton_append] at one other
  rw [Sql.lexemes_open, one, Sql.lexemes_blank, sign, Sql.lexemes_blank, other, Sql.lexemes_close]
  rfl

theorem spells_group {mode : Mode} (word : String) (hw : Sql.isCapitals word) {empty right : String}
    (he : IsPhrase [.fixed ("(" ++ empty ++ ")")] (Template.parens [.number "1", .sign "=", .number right]))
    {members : List Fragment} {spelled : List (List Lexeme)}
    (h : List.Forall₂ (fun f ls => Spells (mode.apply f) ls) members spelled) :
    Spells (mode.apply (Predicate.group word empty members)) (Template.group word right spelled) := by
  cases h with
  | nil =>
    have written : Predicate.group word empty [] = [.fixed ("(" ++ empty ++ ")")] := rfl
    rw [written, Mode.apply_fixed]
    exact he.spells
  | @cons f ls members spelled hf others =>
    have separator : IsPhrase [.fixed (" " ++ word ++ " ")] [.word word] :=
      (isPhrase_words' [word] (by simpa using hw)).of_text_eq (by simp [text, Piece.text, String.append_assoc])
    have all : List.Forall₂ Spells ((f :: members).map mode.apply) (ls :: spelled) :=
      List.forall₂_map_left_iff.mpr (.cons hf others)
    have joined := spells_joined separator (by simp [String.toList_append]; rfl) all
    rw [Predicate.group, if_neg (by simp), Mode.apply_append, Mode.apply_append, Mode.apply_fixed, Mode.apply_fixed,
      Mode.apply_joined]
    exact (isPhrase_parens joined).spells

theorem spells_negation {mode : Mode} {f : Fragment} {ls : List Lexeme} (h : Spells (mode.apply f) ls) :
    Spells (mode.apply ([.fixed "NOT ("] ++ f ++ [.fixed ")"])) (Template.negation ls) := by
  rw [Mode.apply_append, Mode.apply_append, Mode.apply_fixed, Mode.apply_fixed]
  exact ((isPhrase_words ["NOT"] rfl).append (isPhrase_parens h)).spells.of_text_eq
    (by simp [text, Piece.text]; rfl)

theorem spells_predicate (mode : Mode) (table : Option String) {f : Filter} {p : Predicate} (h : f.predicate = .ok p)
    (held : mode = .inline → ∀ c ∈ f.atoms, c.column.root.Holds c.value) :
    Spells (mode.apply (Predicate.fragment table p)) (Template.filter mode table f) := by
  refine Formula.fold_check (R := fun fragment ls => Spells (mode.apply fragment) ls) h ?_ ?_ ?_ spells_negation
  · intro c hc t ht
    obtain ⟨comparator, hop, rfl⟩ := eq_ok_of_map ht
    have sign : c.operator.comparator? = some comparator := Operator.comparator_eq_ok hop
    have test := spells_test mode table (t := ⟨c.column.label, comparator, c.column.root, c.value⟩)
      fun inline => held inline c hc
    rw [Template.comparison, sign]
    exact test
  · intro fragments spelled each
    have empty : IsPhrase [.fixed ("(" ++ "1 = 1" ++ ")")]
        (Template.parens [.number "1", .sign "=", .number "1"]) := fun rest => lexemes_equation '1' rfl rest
    exact spells_group "AND" rfl empty each
  · intro fragments spelled each
    have empty : IsPhrase [.fixed ("(" ++ "1 = 0" ++ ")")]
        (Template.parens [.number "1", .sign "=", .number "0"]) := fun rest => lexemes_equation '0' rfl rest
    exact spells_group "OR" rfl empty each

theorem spells_ordering (s : SortBy) : Spells s.fragment (Template.ordering s) := by
  have direction : Spells [.fixed s.direction.keyword] [.word s.direction.keyword] := by
    cases s.direction with
    | ascending => exact spells_word "ASC" rfl
    | descending => exact spells_word "DESC" rfl
  exact (spells_name s.column.label).append (spells_blank direction) (gapped_blank _ _).apart

end Fragment

end TypedTables
