import TypedTables.Proofs.FieldType
import TypedTables.Proofs.Migration.Forward
import TypedTables.Proofs.Number.Written

/-!
# Columns that a source does not fill

A copy gives a column that its source lacks the default declared last. A column that refuses NULL is let through only
with a default, but nobody asks which value that is. A default that is stored as NULL, or as a real number that is not
finite, is declared as NULL, and NULL is what a copied row gets (`bring_fills`). -/

namespace TypedTables

/-! ### Constants that are NULL -/

/-- A number is never written as NULL: it starts with a digit or a sign. -/
theorem signed_ne_null (negative : Prop) [Decidable negative] {digits : String}
    (numeral : Numeral.IsNumeral digits.toList) : (if negative then "-" else "") ++ digits ≠ "NULL" := by
  obtain ⟨d, rest, starts, digit⟩ := numeral.eq_cons
  intro same
  have chars := congrArg String.toList same
  rw [String.toList_append, starts] at chars
  split at chars
  · cases chars
  · cases chars
    cases digit

/-- A constant of the root type's own kind is written as NULL exactly if it is blank. -/
theorem RootType.literal_eq_null {root : RootType} {v : Value} (h : root.Holds v) :
    root.literal v = "NULL" ↔ v.isBlank := by
  rw [literal, constant_of_holds h]
  cases v with
  | null => exact iff_of_true rfl rfl
  | integer i =>
    refine iff_of_false ?_ Bool.false_ne_true
    show toString i.toInt ≠ "NULL"
    rw [Numeral.toString_int]
    exact signed_ne_null _ (Numeral.isNumeral_toString _)
  | real x =>
    cases finite : x.isFinite with
    | false => simp [Value.isBlank, finite]
    | true =>
      have written := signed_ne_null x.isNegative (Binary64.isNumeral_absolute finite)
      rw [← Binary64.text_eq finite] at written
      simp [Value.isBlank, finite, written]
  | text s =>
    refine iff_of_false (fun same => ?_) Bool.false_ne_true
    have chars : (Text.literal s).toList = "NULL".toList := congrArg String.toList same
    rw [Text.literal, Text.toList_enclose] at chars
    cases chars

/-! ### Defaults -/

/-- The defaults of a field in the order of their declaration. -/
def Field.defaults {ρ α : Type} (field : Field ρ α) : List α :=
  field.constraints.filterMap fun
    | .default a => some a
    | _ => none

namespace Column

variable {κ ρ : Type} [Kinds κ] {column : Column κ ρ}

theorem filterMap_initial? (column : Column κ ρ) :
    column.rules.filterMap ColumnRule.initial? =
      column.field.defaults.map fun a => column.root.constant (column.field.type.encode a) := by
  rw [rules, Field.rules, Field.defaults, List.filterMap_map, List.map_filterMap]
  congr 1
  funext rule
  cases rule <;> rfl

/-- A row that gives none has the value of the default declared last. -/
theorem initial_definition {a : Kinds.carrier column.kind} (last : column.field.defaults.getLast? = some a)
    (primaryKey : Bool) :
    (column.definition primaryKey).initial = column.root.constant (column.field.type.encode a) := by
  rw [ColumnDef.initial, ← List.getLast?_filterMap]
  show ((column.rules.filterMap ColumnRule.initial?).getLast?).getD .null = _
  rw [filterMap_initial?, List.getLast?_map, last]
  rfl

theorem exists_default :
    (∃ rule ∈ column.rules, rule.initial?.isSome) ↔ column.field.defaults ≠ [] := by
  have same : column.rules.filterMap ColumnRule.initial? = [] ↔ column.field.defaults = [] := by
    rw [filterMap_initial?, List.map_eq_nil_iff]
  rw [ne_eq, ← same, List.filterMap_eq_nil_iff]
  simp [Option.isSome_iff_ne_none]

/-- What the check of a source asks of a column that the source lacks: a default, if the column refuses NULL. -/
theorem mustBeFilled_eq_false :
    Migration.mustBeFilled column = false ↔ (.notNull ∈ column.rules → column.field.defaults ≠ []) := by
  rw [← exists_default, Migration.mustBeFilled, Bool.and_eq_false_imp, decide_eq_true_iff, Bool.not_eq_false',
    List.any_eq_true]
  refine imp_congr_right fun _ => exists_congr fun rule => and_congr_right fun _ => ?_
  cases rule <;> simp [ColumnRule.initial?]

end Column

namespace Migration

variable {κ ρ σ : Type} [Kinds κ] {backend : Backend σ} {base : String} {schema : Schema κ ρ} {time : Option Timestamp}
  {source : String} {columns : List String} {column : Column κ ρ}

/-! ### Copied rows -/

theorem CarriesOver.cell_initial {origin table : PlainTable} (carries : CarriesOver schema origin table)
    {row : List Value} (hrow : row ∈ table.rows) {definition : ColumnDef} (hd : definition ∈ schema.definitions)
    (lacking : definition.label ∉ origin.labels) : table.cell row definition.label = definition.initial := by
  obtain ⟨i, after, rfl⟩ := List.getElem_of_mem hrow
  have before : i < origin.rows.length := carries.rows.length_eq ▸ after
  have filled := carries.rows.get before after definition hd
  rwa [if_neg lacking] at filled

/-- How a column is filled that refuses NULL and that the source lacks: by the default declared last. -/
structure FilledByDefault (schema : Schema κ ρ) (columns : List String) (column : Column κ ρ)
    (a : Kinds.carrier column.kind) : Prop where
  last : column.field.defaults.getLast? = some a
  /-- A default is declared as NULL where it is stored as NULL or as a real number that is not finite. -/
  declared : ∀ b ∈ column.field.defaults, column.field.type.literal b = "NULL" ↔ (column.field.type.encode b).isBlank
  /-- Whatever rows the source has, their copies hold NULL in the column exactly if the default is so declared. -/
  copied : ∀ origin table : PlainTable, origin.labels = columns → CarriesOver schema origin table →
    ∀ row ∈ table.rows, table.cell row column.label = .null ↔ (column.field.type.encode a).isBlank

theorem filledByDefault (fit : checkSource schema source columns = .ok ()) (hc : column ∈ schema.fields)
    (refusing : .notNull ∈ column.rules) (lacking : column.label ∉ columns) :
    ∃ a, FilledByDefault schema columns column a := by
  have declared := Column.mustBeFilled_eq_false.mp ((checkSource_eq_ok.mp fit).2 column hc lacking) refusing
  obtain ⟨a, last⟩ := Option.isSome_iff_exists.mp (List.getLast?_isSome.mpr declared)
  have holds := column.field.type.holds_encode
  refine ⟨a, last, fun b _ => RootType.literal_eq_null (holds b), ?_⟩
  rintro origin table rfl carries row hrow
  have hd : column.definition false ∈ schema.definitions := List.mem_cons_of_mem _ (List.mem_map_of_mem hc)
  have cell : table.cell row column.label = column.root.constant (column.field.type.encode a) :=
    (carries.cell_initial hrow hd lacking).trans (Column.initial_definition last false)
  rw [cell, Column.root, RootType.constant_of_holds (holds a)]
  cases column.field.type.encode a <;> simp [Value.isBlank]

/-! ### Whole calls -/

theorem Trace.filterMap_read? {steps : Steps} {s t : σ} {calls : List Call} {r : Except Error Unit}
    (h : Trace backend steps s calls r t) : calls.filterMap Call.read? = [] := by
  induction h with
  | done => rfl
  | unwritten => rfl
  | refused => rfl
  | next _ _ ih => exact ih

/-- Once anything is executed for a source, the columns that the backend named for it were found fit. -/
theorem Course.fit {s t : σ} {calls : List Call} {r : Except Error (Option Report)}
    (h : Course backend base schema time s calls r t) (read : (source, .ok columns) ∈ calls.filterMap Call.read?)
    (executed : calls.filterMap Call.executed? ≠ []) : checkSource schema source columns = .ok () := by
  cases h with
  | invalid => cases read
  | unlisted => cases read
  | unplanned => cases read
  | skipped => cases read
  | created _ trace =>
    -- Steps ask for no columns, so nothing was read.
    have nothing : (source, .ok columns) ∈ ([] : List (String × Except Error (List String))) :=
      trace.filterMap_read? ▸ read
    cases nothing
  | unread => exact absurd rfl executed
  | unfit => exact absurd rfl executed
  | @migrated _ other _ _ _ _ _ _ found _ _ _ _ fit trace =>
    have only : (source, .ok columns) ∈ [(other, (.ok found : Except Error (List String)))] :=
      trace.filterMap_read? ▸ read
    cases List.mem_singleton.mp only
    exact fit

/-- Once a migration executes anything, every column that refuses NULL and that the source lacks has a default. Its
    copies hold NULL there exactly if the default declared last is declared as NULL. -/
theorem bring_fills {s : σ} {r : Except Error (Option Report)} {after : Journaled σ}
    (run : (bring backend.journaled base schema time).runOn ⟨s, []⟩ = (r, after))
    (read : (source, .ok columns) ∈ after.read) (executed : after.executed ≠ [])
    (hc : column ∈ schema.fields) (refusing : .notNull ∈ column.rules) (lacking : column.label ∉ columns) :
    ∃ a, FilledByDefault schema columns column a :=
  filledByDefault ((bring_journal run).fit read executed) hc refusing lacking

/-- People with a name, and with more columns at a later version. -/
def namedPeople (version : Int32) (more : List FieldSpec) : Schema CellKind CellRow :=
  (Schema.ofSpecs ⟨"id", .int, []⟩ (⟨"name", .fixedString 20, []⟩ :: more)).withVersion version

/-- An age is required, and is seven where none is given. -/
def requiredAge : FieldSpec := ⟨"age", .int, [.notNull, .default (.ofInteger 7)]⟩

def agedPeople : Except Error (Option Report) × Journaled PlainStore :=
  (bring PlainStore.backend.journaled "people" (namedPeople 2 [requiredAge]) none).runOn ⟨peopleStore, []⟩

theorem agedPeople_filled :
    agedPeople.2.read = [("people:v1", .ok ["id", "name"])] ∧
      ∃ a, FilledByDefault (namedPeople 2 [requiredAge]) ["id", "name"] (requiredAge.column 2) a ∧
        (requiredAge.type.type.encode a).isBlank = false := by
  have read : agedPeople.2.read = [("people:v1", .ok ["id", "name"])] := by decide +kernel
  have executed : agedPeople.2.executed.length = 3 := by decide +kernel
  refine ⟨read, ?_⟩
  rcases run : agedPeople with ⟨r, after⟩
  rw [run] at read executed
  have asked : ("people:v1", .ok ["id", "name"]) ∈ after.read := read ▸ List.mem_cons_self
  have done : after.executed ≠ [] := List.ne_nil_of_length_eq_add_one executed
  have hc : requiredAge.column 2 ∈ (namedPeople 2 [requiredAge]).fields := List.mem_cons_of_mem _ List.mem_cons_self
  obtain ⟨a, filled⟩ := bring_fills run asked done hc List.mem_cons_self (by decide)
  refine ⟨a, filled, ?_⟩
  cases filled.last
  decide

/-- A score is required, and is infinite where none is given. -/
def requiredScore : FieldSpec := ⟨"score", .double, [.notNull, .default (.ofReal ⟨0x7ff0000000000000⟩)]⟩

/-- A store of the first version with one row. -/
def adaStore : Store :=
  let fill : Action Store Unit := do
    let _ ← bring Store.backend "people" (namedPeople 1 []) none
    let _ ← Store.backend.execute ((namedPeople 1 []).insert "people:v1" [.ofInteger 1, .ofText "ada"])
  (fill.runOn {}).2

def scoredPeople : Except Error (Option Report) × Journaled Store :=
  (bring Store.backend.journaled "people" (namedPeople 2 [requiredScore]) none).runOn ⟨adaStore, []⟩

/-- There is a default, but it is declared as NULL. The destination is created before the copy is refused. -/
theorem scoredPeople_unfilled :
    scoredPeople.2.read = [("people:v1", .ok ["id", "name"])] ∧
      (requiredScore.column 2).rules.map ColumnRule.sql = ["NOT NULL", "DEFAULT NULL"] ∧
      scoredPeople.2.executed.map (fun call => (call.1.text, call.2.toOption)) =
        [("CREATE TABLE \"people:v2\" (\"id\" INTEGER PRIMARY KEY, \"name\" NVARCHAR(20), " ++
            "\"score\" FLOAT NOT NULL DEFAULT NULL)", some 0),
          ("INSERT INTO \"people:v2\" (\"id\", \"name\") SELECT \"people:v1\".\"id\", " ++
            "\"people:v1\".\"name\" FROM \"people:v1\"", none)] ∧
      scoredPeople.1.mapError Error.message =
        .error ("Failed to migrate on 'people:v1': Statement failed: NOT NULL constraint failed: people:v2.score" ++
          "\n  statement: INSERT INTO \"people:v2\" (\"id\", \"name\") SELECT \"people:v1\".\"id\", " ++
          "\"people:v1\".\"name\" FROM \"people:v1\"") := by
  decide +kernel

end Migration

end TypedTables
